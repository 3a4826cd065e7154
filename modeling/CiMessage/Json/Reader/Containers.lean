import CiMessage.Json.Reader.Scalars

/-!
# Arrays and objects

`Reader.items` and `Reader.members` read what stands between brackets up to the closing one. They thread a state: the
reader of the next item, or of what follows the next key, is given the state so far and reads the next one.
-/

namespace CiMessage.Json

namespace Reader

variable {σ : Type}

/-! ## Objects -/

/-- Reads a member, after the quote of its key, and the state after it. -/
def member (step : σ → String → Reader σ) (s : σ) : Reader σ := quotedString.bind (step s)

/-- Reads what follows a member. -/
def moreMembers (step : σ → String → Reader σ) (s : σ) (cs : List Char) : Except Error (Read σ cs) :=
  match hb : skipBlanks cs with
  | [] => .error .endInObject
  | '\x7d' :: rest => .ok ⟨s, rest, length_lt_of_skipBlanks hb⟩
  | ',' :: rest =>
    match hq : skipBlanks rest with
    | [] => .error .endInValue
    | '"' :: rest' =>
      match member step s rest' with
      | .error e => .error e
      | .ok r =>
        match moreMembers step r.value r.rest with
        | .error e => .error e
        | .ok r' => .ok ⟨r'.value, r'.rest, by
            have := length_lt_of_skipBlanks hb
            have := length_lt_of_skipBlanks hq
            have := r.shorter
            have := r'.shorter
            omega⟩
    | '\x7d' :: _ => .error .trailingComma
    | _ :: _ => .error .keyNotString
  | _ :: _ => .error .expectedObjectSeparator
  termination_by cs.length
  decreasing_by
    have := length_lt_of_skipBlanks hb
    have := length_lt_of_skipBlanks hq
    have := r.shorter
    omega

/-- Reads an object, after its opening brace. -/
def members (step : σ → String → Reader σ) (s : σ) : Reader σ := afterBlanks fun cs =>
  match cs with
  | [] => .error .endInObject
  | '\x7d' :: rest => .ok (.one s '\x7d' rest)
  | '"' :: rest => ((member step s).bind fun s => moreMembers step s).past '"' rest
  | _ :: _ => .error .keyNotString

/-! ## Arrays -/

/-- Reads what follows an item. -/
def moreItems (step : σ → Reader σ) (s : σ) (cs : List Char) : Except Error (Read σ cs) :=
  match hb : skipBlanks cs with
  | [] => .error .endInList
  | ']' :: rest => .ok ⟨s, rest, length_lt_of_skipBlanks hb⟩
  | ',' :: rest =>
    match skipBlanks rest with
    | [] => .error .endInValue
    | ']' :: _ => .error .trailingComma
    | _ :: _ =>
      match step s rest with
      | .error e => .error e
      | .ok r =>
        match moreItems step r.value r.rest with
        | .error e => .error e
        | .ok r' => .ok ⟨r'.value, r'.rest, by
            have := length_lt_of_skipBlanks hb
            have := r.shorter
            have := r'.shorter
            omega⟩
  | _ :: _ => .error .expectedListSeparator
  termination_by cs.length
  decreasing_by
    have := length_lt_of_skipBlanks hb
    have := r.shorter
    omega

/-- Reads an array, after its opening bracket. -/
def items (step : σ → Reader σ) (s : σ) : Reader σ := afterBlanks fun cs =>
  match cs with
  | [] => .error .endInList
  | ']' :: rest => .ok (.one s ']' rest)
  | cs => ((step s).bind fun s => moreItems step s) cs

/-! ## Arrays with a place for each item -/

/-- What the places of an array hold: the state after them, how many were filled, and the rest of the text. It begins
at the closing bracket, or after the item in the last place. -/
structure Places (σ : Type) (cs : List Char) where
  value : σ
  count : Nat
  rest : List Char
  notLonger : rest.length ≤ cs.length

/-- Reads items while there are places for them. -/
def places (isFirst : Bool) (count : Nat) (s : σ) (cs : List Char) :
    List (σ → Reader σ) → Except Error (Places σ cs)
  | [] => .ok ⟨s, count, cs, Nat.le_refl _⟩
  | step :: later =>
    match hb : skipBlanks cs with
    | [] => .error .endInList
    | ']' :: _ => .ok ⟨s, count, cs, Nat.le_refl _⟩
    | c :: rest =>
      if isFirst then fill step later cs (Nat.le_refl _)
      else if c = ',' then
        match skipBlanks rest with
        | [] => .error .endInValue
        | ']' :: _ => .error .trailingComma
        | _ :: _ => fill step later rest (Nat.le_of_lt (length_lt_of_skipBlanks hb))
      else .error .expectedListSeparator
where
  /-- Fills a place and goes on. -/
  fill (step : σ → Reader σ) (later : List (σ → Reader σ)) (ds : List Char) (h : ds.length ≤ cs.length) :
      Except Error (Places σ cs) :=
    match step s ds with
    | .error e => .error e
    | .ok r =>
      match places false (count + 1) r.value r.rest later with
      | .error e => .error e
      | .ok p => .ok ⟨p.value, p.count, p.rest, by have := r.shorter; have := p.notLonger; omega⟩

/-- Goes past the closing bracket of an array whose places are filled. -/
def closeArray : Reader Unit := afterBlanks fun cs =>
  match cs with
  | [] => .error .endInList
  | ']' :: rest => .ok (.one () ']' rest)
  | ',' :: rest =>
    match skipBlanks rest with
    | ']' :: _ => .error .trailingComma
    | _ => .error .trailingCharacters
  | _ :: _ => .error .trailingCharacters

/-- Reads an array with a place for each item, after its opening bracket; `finish` is also given how many places are
filled. -/
def placed {β : Type} (steps : List (σ → Reader σ)) (s : σ) (finish : σ → Nat → Except Error β) : Reader β := fun cs =>
  match places true 0 s cs steps with
  | .error e => .error e
  | .ok p =>
    match finish p.value p.count with
    | .error e => .error e
    | .ok b =>
      match closeArray p.rest with
      | .error e => .error e
      | .ok r => .ok ⟨b, r.rest, Nat.lt_of_lt_of_le r.shorter p.notLonger⟩

end Reader

end CiMessage.Json
