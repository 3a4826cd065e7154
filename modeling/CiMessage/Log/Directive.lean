import CiMessage.Log.Threshold
import CiMessage.Pattern.Reader
import CiMessage.Pattern.Search
import CiMessage.Text.Alphanumeric

/-!
# Directives of filters

A directive is a threshold for the events of a target, or for those that happen in a span. It is written
`target[span\x7bfield=value\x7d]=level`, where each part may be missing. The parts are found in the text without the
white space around it, but they are cut out of the whole text at the same numbers of bytes; a cut within a character
cannot be made.
-/

namespace CiMessage.Log

/-- Why a text is no directive. -/
inductive DirectiveError where
  | malformed
  /-- A cut falls within a character. -/
  | cutCharacter
  deriving DecidableEq

/-- What the value of a field has to be. -/
inductive FieldTest where
  /-- A truth value or a number, which no text is. -/
  | constant (text : String)
  /-- A text in which the first match of a pattern goes to its end. -/
  | pattern (text : String) (p : Pattern)
  deriving DecidableEq

/-- A condition on a field: that it is there, and perhaps on its value. -/
structure FieldCondition where
  name : String
  test : Option FieldTest
  deriving DecidableEq

/-- A threshold and where it counts. -/
structure Directive where
  /-- How the target begins. -/
  target : Option String
  /-- The name of the span. -/
  span : Option String
  field : Option FieldCondition
  most : Threshold
  deriving DecidableEq

/-! ## Values of fields -/

/-- The text after the digits at its beginning, if there is one. -/
def afterDigits? (cs : List Char) : Option (List Char) :=
  if cs.head?.any Char.isDigit then some (cs.dropWhile Char.isDigit) else none

/-- Is this the exponent of a number, or nothing? -/
def isExponent : List Char → Bool
  | [] => true
  | c :: rest =>
    let digits := if rest.head? = some '+' ∨ rest.head? = some '-' then rest.tail else rest
    (c == 'e' || c == 'E') && afterDigits? digits == some []

/-- Is this a number without a sign: digits with a point before, among or after them, and an exponent? -/
def isUnsigned (cs : List Char) : Bool :=
  match afterDigits? cs with
  | some ('.' :: rest) => isExponent (rest.dropWhile Char.isDigit)
  | some rest => isExponent rest
  | none =>
    match cs with
    | '.' :: rest => (afterDigits? rest).any isExponent
    | _ => false

/-- The names of numbers that have no digits. -/
def numberNames : List String := ["inf", "infinity", "nan"]

/-- Is this a truth value or a number? -/
def isConstant (text : String) : Bool :=
  let cs := text.toList
  let unsigned := if cs.head? = some '+' ∨ cs.head? = some '-' then cs.tail else cs
  text == "true" || text == "false" || isUnsigned unsigned ||
    numberNames.contains (Text.lowerAscii (String.ofList unsigned))

/-- The test of a text. -/
def FieldTest.ofText? (text : String) : Option FieldTest :=
  if isConstant text then some (constant text) else (Pattern.ofText? text).map (pattern text)

/-- Does a text pass the test? -/
def FieldTest.passes (t : FieldTest) (value : String) : Bool :=
  match t with
  | constant _ => false
  | pattern _ p => p.endsText value

/-- The condition of a text: a name, and perhaps a value, which ends at another equals sign. -/
def FieldCondition.ofText? (cs : List Char) : Option FieldCondition :=
  let name := String.ofList (cs.takeWhile (· != '='))
  match cs.dropWhile (· != '=') with
  | [] => some ⟨name, none⟩
  | _ :: value => (FieldTest.ofText? (String.ofList (value.takeWhile (· != '=')))).map fun t => ⟨name, some t⟩

/-! ## Cutting texts -/

/-- The number of bytes of a text. -/
def byteSize (cs : List Char) : Nat := cs.foldl (fun n c => n + c.utf8Size) 0

/-- Cuts a text after a number of bytes. -/
def cut? : Nat → List Char → Option (List Char × List Char)
  | 0, cs => some ([], cs)
  | _ + 1, [] => none
  | n + 1, c :: cs =>
    if c.utf8Size ≤ n + 1 then (cut? (n + 1 - c.utf8Size) cs).map fun r => (c :: r.1, r.2) else none

/-- The text from a number of bytes on. -/
def suffixFrom (text : List Char) (start : Nat) : Except DirectiveError (List Char) :=
  match cut? start text with
  | some r => .ok r.2
  | none => .error .cutCharacter

/-- The part of a text between two numbers of bytes. -/
def part (text : List Char) (start stop : Nat) : Except DirectiveError (List Char) :=
  match cut? stop text with
  | some r => suffixFrom r.1 start
  | none => .error .cutCharacter

namespace Directive

/-! ## Reading -/

/-- Can a directive that does not begin with a bracket begin with this character? -/
def isStart (c : Char) : Bool := Text.isAlphanumeric c || c == '-' || c == ':' || c == '_'

/-- Reads the level after a number of bytes. No level lets everything through. -/
def withLevel (text : List Char) (d : Directive) (start : Nat) : Except DirectiveError Directive := do
  let level ← suffixFrom text start
  if level.isEmpty then return d
  match Threshold.ofText? (String.ofList level) with
  | some most => return { d with most }
  | none => throw .malformed

/-- Reads what follows a closing bracket. -/
def afterBracket (text : List Char) (d : Directive) (start : Nat) (rest : List Char) :
    Except DirectiveError Directive :=
  match rest with
  | [] => .ok d
  | '=' :: _ => d.withLevel text (start + 1)
  | _ :: _ => .error .malformed

/-- Reads a field, after the opening brace. -/
def withField (text : List Char) (d : Directive) (start : Nat) (rest : List Char) : Except DirectiveError Directive :=
  let found := rest.takeWhile (· != '\x7d')
  match rest.dropWhile (· != '\x7d') with
  | [] => .error .malformed
  | _ :: after => do
    let stop := start + byteSize found
    let field ← part text start stop
    if field.isEmpty then throw .malformed
    let some condition := FieldCondition.ofText? field | throw .malformed
    match after with
    | ']' :: after' => afterBracket text { d with field := some condition } (stop + 2) after'
    | _ => throw .malformed

/-- Reads a span, after the opening bracket. -/
def withSpan (text : List Char) (d : Directive) (start : Nat) (rest : List Char) : Except DirectiveError Directive :=
  let found := rest.takeWhile fun c => c != ']' && c != '\x7b'
  let stop := start + byteSize found
  match rest.dropWhile fun c => c != ']' && c != '\x7b' with
  | [] => .error .malformed
  | c :: after => do
    let span ← part text start stop
    if c = ']' then afterBracket text { d with span := some (String.ofList span) } (stop + 1) after
    else
      let span? := if span.isEmpty then none else some (String.ofList span)
      withField text { d with span := span? } (stop + 1) after

/-- The directive that lets everything through. -/
def everything : Directive := ⟨none, none, none, some .trace⟩

/-- The directive of a text. A text without signs is a level, or else a target. -/
def ofText (text : List Char) : Except DirectiveError Directive :=
  let trimmed := Text.trimChars text
  let found := trimmed.takeWhile fun c => c != '=' && c != '['
  let stop := byteSize found
  if trimmed.head? = some '[' then everything.withSpan text 1 trimmed.tail
  else if !trimmed.head?.any isStart then .error .malformed
  else
    match trimmed.drop found.length with
    | [] =>
      let s := String.ofList text
      match Threshold.ofText? s with
      | some most => .ok { everything with most }
      | none => .ok { everything with target := some s }
    | c :: rest => do
      let target ← part text 0 stop
      let d := { everything with target := some (String.ofList target) }
      if c = '=' then d.withLevel text (stop + 1) else d.withSpan text (stop + 1) rest

/-! ## Where a directive counts -/

/-- Does a target begin as the directive says? -/
def coversTarget (d : Directive) (target : String) : Bool :=
  d.target.all fun t => t.toList.isPrefixOf target.toList

/-- Has the field of the directive one of these names? -/
def coversFields (d : Directive) (names : List String) : Bool := d.field.all fun f => names.contains f.name

/-- Is a value asked for? -/
def hasTest (d : Directive) : Bool := d.field.any (·.test.isSome)

/-- Does it count for events wherever they happen? -/
def isStatic (d : Directive) : Bool := d.span.isNone && !d.hasTest

/-- Does it count for what happens in spans? -/
def isDynamic (d : Directive) : Bool := d.span.isSome || d.field.isSome

/-- Do two directives count in the same case? -/
def sameCase (d e : Directive) : Bool := d.target == e.target && d.span == e.span && d.field == e.field

/-- Is the directive more to the point than another one for the same target? A longer target is, then a field, and
of two fields the one whose name is last. -/
def outranks (d e : Directive) : Bool :=
  let size (d : Directive) : Nat := (d.target.map (·.utf8ByteSize + 1)).getD 0
  let name (d : Directive) : Option String := d.field.map (·.name)
  ((compare (size d) (size e)).then (compare (name d) (name e))).isGT

end Directive

end CiMessage.Log
