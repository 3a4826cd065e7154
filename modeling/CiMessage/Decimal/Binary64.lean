/-!
# Doubles by exact arithmetic

Finite doubles without sign, as `mantissa * 2 ^ exponent`. Every operation takes the exact result, a ratio of natural
numbers, to the nearest double, a tie to the one with the even mantissa; a result that would round past the largest
double is `none`.
-/

namespace CiMessage

/-- A finite nonnegative double; `ofRatio` makes the mantissa have 53 bits unless the exponent is the least one. -/
structure Binary64 where
  mantissa : Nat
  exponent : Int
  deriving DecidableEq

namespace Binary64

/-- The least exponent. -/
def leastExponent : Int := -1074

/-- Mantissas are below this number. -/
def mantissaLimit : Nat := 9007199254740992

/-- The least mantissa of 53 bits. -/
def leastMantissa : Nat := 4503599627370496

/-- The number zero. -/
def zero : Binary64 := ⟨0, leastExponent⟩

/-- A ratio times a power of two, as a ratio. -/
def scaleRatio (num den : Nat) (e : Int) : Nat × Nat :=
  if 0 ≤ e then (num <<< e.toNat, den) else (num, den <<< (-e).toNat)

/-- The ratio that a double is. -/
def toRatio (x : Binary64) : Nat × Nat := scaleRatio x.mantissa 1 x.exponent

/-- The nearest whole number to a ratio, a tie to the even one. -/
def roundDiv (num den : Nat) : Nat :=
  let q := num / den
  let r := num % den
  if 2 * r < den then q else if den < 2 * r then q + 1 else q + q % 2

/-- The exponent of the double that holds a positive ratio: 53 bits of mantissa, unless that would go below the least
exponent. -/
def exponentFor (num den : Nat) : Int :=
  let e : Int := (num.log2 : Int) - den.log2 - 53
  let (n, d) := scaleRatio num den (-e)
  max (if mantissaLimit ≤ n / d then e + 1 else e) leastExponent

/-- The double nearest to a ratio, if that is in range. -/
def ofRatio (num den : Nat) : Option Binary64 :=
  if num = 0 then some zero
  else
    let e := exponentFor num den
    let (n, d) := scaleRatio num den (-e)
    let m := roundDiv n d
    let x : Binary64 := if m = mantissaLimit then ⟨leastMantissa, e + 1⟩ else ⟨m, e⟩
    if x.exponent ≤ 971 then some x else none

/-- The double nearest to a natural number. -/
def ofNat (n : Nat) : Option Binary64 := ofRatio n 1

/-- The rounded product. -/
def mul (x y : Binary64) : Option Binary64 :=
  ofRatio (x.toRatio.1 * y.toRatio.1) (x.toRatio.2 * y.toRatio.2)

/-- The rounded quotient. -/
def div (x y : Binary64) : Option Binary64 :=
  ofRatio (x.toRatio.1 * y.toRatio.2) (x.toRatio.2 * y.toRatio.1)

/-- The greatest power of ten that one step multiplies or divides by. -/
def greatestStep : Nat := 308

/-- The rounded power of ten; the exponent is at most `greatestStep`, so it is in range. -/
def powerOfTen (n : Nat) : Binary64 := (ofNat (Nat.pow 10 n)).getD zero

/-- Divided by a power of ten. Above the greatest step this takes several divisions, each of them rounded. -/
def shrink (x : Binary64) (n : Nat) : Binary64 :=
  if x.mantissa = 0 then x
  else if n ≤ 308 then (x.div (powerOfTen n)).getD zero
  else shrink ((x.div (powerOfTen greatestStep)).getD zero) (n - 308)
  termination_by n

/-- Multiplied by a power of ten. -/
def grow (x : Binary64) (n : Nat) : Option Binary64 :=
  if x.mantissa = 0 then some x
  else if n ≤ greatestStep then x.mul (powerOfTen n)
  else none

/-- Times a power of ten. -/
def scaleByPowerOfTen (x : Binary64) (e : Int) : Option Binary64 :=
  if 0 ≤ e then x.grow e.toNat else some (x.shrink e.natAbs)

/-- The double of a decimal `significand * 10 ^ exponent`. -/
def ofDecimal (significand : Nat) (exponent : Int) : Option Binary64 :=
  (ofNat significand).bind (·.scaleByPowerOfTen exponent)

end Binary64

end CiMessage
