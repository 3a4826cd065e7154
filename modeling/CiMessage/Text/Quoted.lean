import CiMessage.Text.GraphemeExtend
import CiMessage.Text.Hexadecimal
import CiMessage.Text.Ignorable
import CiMessage.Text.Unprintable

/-!
# Quoted texts in messages

Messages show a text between double quotes. A quote and a backslash are written after a backslash, NUL, tab, newline
and carriage return by their letters, and characters that cannot be seen, or would join the one before them, by their
code points in braces.
-/

namespace CiMessage.Text

/-- Is this one of the halfwidth Katakana sound marks? They are letters, and take a place of their own. -/
def isHalfwidthSoundMark (c : Char) : Bool := c.toNat = 0xFF9E || c.toNat = 0xFF9F

/-- Can this character not be told from its picture, as it has none or joins the one before it? -/
def isHidden (c : Char) : Bool :=
  isUnprintable c || isIgnorable c || (isGraphemeExtend c && !isHalfwidthSoundMark c)

/-- How a quoted text shows a character. -/
def quoteChar (c : Char) : List Char :=
  match c with
  | '"' => ['\\', '"']
  | '\\' => ['\\', '\\']
  | '\x00' => ['\\', '0']
  | '\t' => ['\\', 't']
  | '\n' => ['\\', 'n']
  | '\r' => ['\\', 'r']
  | c =>
    if 0x20 ≤ c.toNat ∧ c.toNat < 0x7F then [c]
    else if isHidden c then ['\\', 'u', '\x7b'] ++ hex c.toNat ++ ['\x7d']
    else [c]

/-- A text between quotes. -/
def quote (s : String) : String := String.ofList ('"' :: s.toList.flatMap quoteChar ++ ['"'])

end CiMessage.Text
