import CiMessage.Decimal.Binary64

/-!
# The shortest decimal of a double

A double stands for the interval of numbers that round to it. `Binary64.shortest` finds the fewest digits of a decimal
in that interval, and of several with so many digits the nearest; `Binary64.text` writes it.
-/

namespace CiMessage.Binary64

/-- The number of decimal digits of a natural number. -/
def countDigits (n : Nat) : Nat := (Nat.toDigits 10 n).length

/-- The exponent of the first decimal digit of a positive ratio. -/
def leadingExponent (num den : Nat) : Int :=
  if den ≤ num then (countDigits (num / den) : Int) - 1
  else -(countDigits ((den + num - 1) / num - 1) : Int)

/-- A ratio divided by a power of ten, as a ratio. -/
def unscaleDecimal (num den : Nat) (k : Int) : Nat × Nat :=
  if 0 ≤ k then (num, den * Nat.pow 10 k.toNat) else (num * Nat.pow 10 (-k).toNat, den)

/-- Four times the ends of the interval of numbers that round to a double, in units of its last place. -/
def ends (x : Binary64) : Nat × Nat :=
  let narrow := x.mantissa = leastMantissa ∧ x.exponent ≠ leastExponent
  (4 * x.mantissa - (if narrow then 1 else 2), 4 * x.mantissa + 2)

/-- Does `digits * 10 ^ k` round to this double? The ends of the interval do if the mantissa is even. -/
def rounds (x : Binary64) (digits : Nat) (k : Int) : Bool :=
  let (n, d) := unscaleDecimal digits 1 (-k)
  let (low, high) := x.ends
  let (ln, ld) := scaleRatio low 4 x.exponent
  let (hn, hd) := scaleRatio high 4 x.exponent
  if x.mantissa % 2 = 0 then decide (ln * d ≤ n * ld) && decide (n * hd ≤ hn * d)
  else decide (ln * d < n * ld) && decide (n * hd < hn * d)

/-- A decimal on the grid of `10 ^ k` that rounds to this double, if there is one: of the two neighbours the nearer. -/
def onGrid (x : Binary64) (k : Int) : Option Nat :=
  let (n, d) := unscaleDecimal x.toRatio.1 x.toRatio.2 k
  let q := n / d
  let near := roundDiv n d
  let far := if near = q then q + 1 else q
  if x.rounds near k then some near else if x.rounds far k then some far else none

/-- Tries grids from one digit on. -/
def shortestFrom (x : Binary64) (top : Int) : Nat → Int → Nat × Int
  | 0, k => (((unscaleDecimal x.toRatio.1 x.toRatio.2 k).1 / (unscaleDecimal x.toRatio.1 x.toRatio.2 k).2), k)
  | tries + 1, k =>
    match x.onGrid k with
    | some digits => (digits, k)
    | none => shortestFrom x top tries (k - 1)

/-- The digits and the exponent of the last one; seventeen digits always suffice. -/
def shortest (x : Binary64) : Nat × Int :=
  let top := leadingExponent x.toRatio.1 x.toRatio.2
  shortestFrom x top 17 top

/-- The digits without zeros at the end, and the exponent of the last one. -/
def significant (x : Binary64) : List Char × Int :=
  let (digits, k) := x.shortest
  let ds := (Nat.toDigits 10 digits).reverse
  let kept := ds.dropWhile (· == '0')
  (kept.reverse, k + (ds.length - kept.length : Nat))

/-- Writes a double: with a point and at least one digit on each side when the first digit has an exponent from -5 to
15, else one digit before the point, if any digits follow, and a signed exponent. -/
def text (x : Binary64) : String :=
  if x.mantissa = 0 then "0.0"
  else
    let (ds, k) := x.significant
    let first : Int := k + ds.length - 1
    let chars :=
      if -5 ≤ first ∧ first ≤ 15 then
        if 0 ≤ k then ds ++ List.replicate k.toNat '0' ++ ['.', '0']
        else if 0 ≤ first then ds.take (first.toNat + 1) ++ '.' :: ds.drop (first.toNat + 1)
        else ['0', '.'] ++ List.replicate ((-first).toNat - 1) '0' ++ ds
      else
        let point := if ds.length = 1 then ds else ds.take 1 ++ '.' :: ds.drop 1
        point ++ ['e', if 0 ≤ first then '+' else '-'] ++ Nat.toDigits 10 first.natAbs
    String.ofList chars

end CiMessage.Binary64
