import CiMessage.Pattern.Reader.Escapes

/-!
# Sets in patterns

A set stands between square brackets: characters, ranges, classes and other sets, of which it is the union. Unions can
be joined by `&&`, `--` and `~~`, from left to right.
-/

namespace CiMessage.Pattern

/-! ## ASCII classes by their names -/

/-- The ASCII class of a name. -/
def asciiClass? : String → Option CharSet
  | "alnum" => some (.union asciiDigits asciiLetters)
  | "alpha" => some asciiLetters
  | "ascii" => some (.range '\x00' '\x7f')
  | "blank" => some (.ofList ['\t', ' '])
  | "cntrl" => some (.union (.range '\x00' '\x1f') (.single '\x7f'))
  | "digit" => some asciiDigits
  | "graph" => some (.range '!' '~')
  | "lower" => some (.range 'a' 'z')
  | "print" => some (.range ' ' '~')
  | "punct" => some (.union (.union (.range '!' '/') (.range ':' '@')) (.union (.range '[' '`') (.range '\x7b' '~')))
  | "space" => some asciiBlanks
  | "upper" => some (.range 'A' 'Z')
  | "word" => some asciiWord
  | "xdigit" => some (.union asciiDigits (.union (.range 'A' 'F') (.range 'a' 'f')))
  | _ => none

/-- Reads the name of an ASCII class between colons, and the closing bracket. -/
def namedClass (cs : List Char) : Option (Read (CharSet × Bool) cs) :=
  match cs with
  | ':' :: '^' :: rest => (close true rest).map fun r => (r.past '^').past ':'
  | ':' :: rest => (close false rest).map (·.past ':')
  | _ => none
where
  /-- Reads the name and what closes it. -/
  close (negated : Bool) (cs : List Char) : Option (Read (CharSet × Bool) cs) :=
    match h : cs.dropWhile (· != ':') with
    | ':' :: ']' :: rest =>
      (asciiClass? (String.ofList (cs.takeWhile (· != ':')))).map fun s => ⟨(s, negated), rest, by
        have := (List.dropWhile_suffix (· != ':') (l := cs)).length_le
        rw [h, List.length_cons, List.length_cons] at this
        omega⟩
    | _ => none

/-! ## Sets that are being read -/

/-- How two unions are joined. -/
inductive SetOperator where
  | intersection
  | difference
  | symmetricDifference

/-- Joins two sets. -/
def SetOperator.apply : SetOperator → CharSet → CharSet → CharSet
  | intersection => .intersection
  | difference => .difference
  | symmetricDifference => .symmetricDifference

/-- A set of which a part is read: what stands before the last operator, and the union after it. -/
structure OpenSet where
  negated : Bool
  before : Option (CharSet × SetOperator)
  union : CharSet

namespace OpenSet

/-- Adds a set to the union. -/
def add (o : OpenSet) (s : CharSet) : OpenSet := { o with union := o.union.union s }

/-- What is read. -/
def joined? (fs : Flags) (o : OpenSet) : Option CharSet :=
  match o.before with
  | none => some o.union
  | some (s, op) => do return op.apply (← fs.fold? s) (← fs.fold? o.union)

/-- Begins another union after an operator. -/
def join? (fs : Flags) (o : OpenSet) (op : SetOperator) : Option OpenSet :=
  (o.joined? fs).map fun s => ⟨o.negated, some (s, op), .nothing⟩

/-- The set, when its closing bracket is read. -/
def close? (fs : Flags) (o : OpenSet) : Option CharSet :=
  ((o.joined? fs).bind fs.fold?).bind (fs.negate? o.negated)

end OpenSet

/-- Reads minus signs at the beginning of a set, which stand for themselves. -/
def leadingSigns (fs : Flags) (o : OpenSet) (cs : List Char) : Option (Read OpenSet ('[' :: cs)) :=
  match h : fs.meaningful cs with
  | [] => none
  | c :: rest =>
    if c = '-' then
      (leadingSigns fs (o.add (.single '-')) rest).map (·.widen (Flags.cons_length_le_of_meaningful h))
    else some (.one o '[' cs)
  termination_by cs.length
  decreasing_by exact Flags.length_lt_of_meaningful h

/-- Reads the beginning of a set, after its opening bracket. A closing bracket stands for itself there. -/
def openSet (fs : Flags) (cs : List Char) : Option (Read OpenSet ('[' :: cs)) :=
  match h : fs.meaningful cs with
  | [] => none
  | '^' :: rest =>
    (start ⟨true, none, .nothing⟩ rest).map (·.widen (Flags.cons_length_le_of_meaningful h))
  | _ :: _ => start ⟨false, none, .nothing⟩ cs
where
  /-- Reads the signs that stand for themselves. -/
  start (o : OpenSet) (cs : List Char) : Option (Read OpenSet ('[' :: cs)) :=
    match h : fs.meaningful cs with
    | [] => none
    | ']' :: rest =>
      if (fs.meaningful rest).isEmpty then none
      else some ⟨o.add (.single ']'), rest, Nat.lt_succ_of_lt (Flags.length_lt_of_meaningful h)⟩
    | _ :: _ => leadingSigns fs o cs

/-! ## Items -/

/-- Reads a character or an escape. -/
def setAtom (fs : Flags) (c : Char) (rest : List Char) : Option (Read Escape (c :: rest)) :=
  if c = '\\' then (escape fs rest).map (·.past c) else some (.one (.char c false) c rest)

/-- The character that an escape stands for in a set. Without the classes of Unicode it has to be an ASCII one. -/
def Escape.setChar? (fs : Flags) : Escape → Option Char
  | char c _ => if fs .unicode || c.toNat < 0x80 then some c else none
  | _ => none

/-- The set that an escape stands for in a set; a place in the text is none. -/
def Escape.set? (fs : Flags) (e : Escape) : Option CharSet :=
  match e with
  | chars s => some s
  | e => (e.setChar? fs).map .single

/-- Is a minus sign followed by a closing bracket or another minus sign? Only one number sign is passed over. -/
def endsRange (fs : Flags) (cs : List Char) : Bool :=
  let next :=
    if fs .spaced then
      match cs.dropWhile Text.isBlank with
      | '#' :: rest => (rest.dropWhile Text.isBlank).head?
      | cs => cs.head?
    else cs.head?
  next == some ']' || next == some '-'

/-- Reads a character, a class or a range. -/
def setItem (fs : Flags) (c : Char) (rest : List Char) : Option (Read CharSet (c :: rest)) :=
  match setAtom fs c rest with
  | none => none
  | some r =>
    match h : fs.meaningful r.rest with
    | [] => none
    | '-' :: after =>
      if endsRange fs after then (r.value.set? fs).map fun s => r.map fun _ => s
      else
        match h' : fs.meaningful after with
        | [] => none
        | d :: after' =>
          match setAtom fs d after' with
          | none => none
          | some r' =>
            match r.value.setChar? fs, r'.value.setChar? fs with
            | some first, some last =>
              if first ≤ last then
                some ⟨.range first last, r'.rest, by
                  have := r.shorter
                  have := r'.shorter
                  have := Flags.length_lt_of_meaningful h
                  have := Flags.length_lt_of_meaningful h'
                  rw [List.length_cons] at *
                  omega⟩
              else none
            | _, _ => none
    | _ :: _ => (r.value.set? fs).map fun s => r.map fun _ => s

/-! ## Whole sets -/

/-- Reads a set from within it; `outer` are the sets around it, the innermost one first. -/
def setRest (fs : Flags) (outer : List OpenSet) (o : OpenSet) (cs : List Char) : Option (Read CharSet cs) :=
  match h : fs.meaningful cs with
  | [] => none
  | '[' :: rest =>
    match namedClass rest with
    | some r =>
      match (fs.fold? r.value.1).bind (fs.negate? r.value.2) with
      | none => none
      | some s =>
        (setRest fs outer (o.add s) r.rest).map (·.widen (by
          have := r.shorter
          have := Flags.length_lt_of_meaningful h
          omega))
    | none =>
      match openSet fs rest with
      | none => none
      | some r =>
        (setRest fs (o :: outer) r.value r.rest).map (·.widen (by
          have := r.shorter
          have := Flags.length_lt_of_meaningful h
          rw [List.length_cons] at *
          omega))
  | ']' :: rest =>
    match o.close? fs, outer with
    | none, _ => none
    | some s, [] => some ⟨s, rest, Flags.length_lt_of_meaningful h⟩
    | some s, p :: outer =>
      (setRest fs outer (p.add s) rest).map (·.widen (Nat.le_of_lt (Flags.length_lt_of_meaningful h)))
  | c :: rest =>
    match operator? c rest with
    | some op =>
      match o.join? fs op with
      | none => none
      | some o =>
        (setRest fs outer o rest.tail).map (·.widen (by
          have := Flags.length_lt_of_meaningful h
          have := List.length_tail (l := rest)
          omega))
    | none =>
      match setItem fs c rest with
      | none => none
      | some r =>
        (setRest fs outer (o.add r.value) r.rest).map (·.widen (by
          have := r.shorter
          have := Flags.length_lt_of_meaningful h
          rw [List.length_cons] at *
          omega))
  termination_by cs.length
  decreasing_by
    · have := r.shorter
      have := Flags.length_lt_of_meaningful h
      omega
    · have := r.shorter
      have := Flags.length_lt_of_meaningful h
      rw [List.length_cons] at *
      omega
    · exact Flags.length_lt_of_meaningful h
    · have := Flags.length_lt_of_meaningful h
      have := List.length_tail (l := rest)
      omega
    · have := r.shorter
      have := Flags.length_lt_of_meaningful h
      rw [List.length_cons] at *
      omega
where
  /-- The operator that is written twice. -/
  operator? (c : Char) (rest : List Char) : Option SetOperator :=
    if rest.head? != some c then none
    else
      match c with
      | '&' => some .intersection
      | '-' => some .difference
      | '~' => some .symmetricDifference
      | _ => none

/-- Reads a set after its opening bracket. -/
def set (fs : Flags) (cs : List Char) : Option (Read CharSet ('[' :: cs)) :=
  match openSet fs cs with
  | none => none
  | some r => (setRest fs [] r.value r.rest).map (·.widen (Nat.le_of_lt r.shorter))

end CiMessage.Pattern
