import CiMessage.Decimal.Shortest

/-!
# Numbers of JSON texts

A number is kept exactly when it is written as a whole number that fits in 64 bits, with or without sign; any other
number is a double.
-/

namespace CiMessage.Json

/-- A number: natural, below zero (by its distance from zero), or a double (by its sign and magnitude). -/
inductive Number where
  | natural (n : Nat)
  | negative (n : Nat)
  | double (isNegative : Bool) (magnitude : Binary64)
  deriving DecidableEq

namespace Number

/-- The greatest natural number kept exactly, the last one of 64 bits. -/
def greatest : Nat := 18446744073709551615

/-- The least number below zero kept exactly, by its distance from zero: the first one of 64 signed bits. -/
def least : Nat := 9223372036854775808

/-- The written number. -/
def text : Number → String
  | natural n => toString n
  | negative n => "-" ++ toString n
  | double false x => x.text
  | double true x => "-" ++ x.text

/-- The number of a whole decimal: exact if it fits, else a double; a negative zero is a double. -/
def ofWhole (isNegative : Bool) (n : Nat) : Option Number :=
  if !isNegative then some (natural n)
  else if n = 0 ∨ least < n then (Binary64.ofNat n).map (double true)
  else some (negative n)

/-- The double of a decimal with an exponent; `none` if it is out of range. -/
def ofDecimal (isNegative : Bool) (significand : Nat) (exponent : Int) : Option Number :=
  (Binary64.ofDecimal significand exponent).map (double isNegative)

end Number

end CiMessage.Json
