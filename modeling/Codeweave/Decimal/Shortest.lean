/-!
Shortest decimals of binary fractions: of the decimals that round to a given binary fraction the one
with the fewest digits, and of those the nearest. All arithmetic is exact, on natural numbers.
-/

namespace Codeweave.Decimal

/-- The number `digits · 10 ^ exponent`. -/
structure Scientific where
  digits : Nat
  exponent : Int
deriving Repr, DecidableEq

/-- How many decimal digits a number has; zero has one. -/
def digitCount (n : Nat) : Nat :=
  (Nat.toDigits 10 n).length

/-- The fraction `num / den` scaled by `10 ^ (-k)`. -/
def scale (num den : Nat) (k : Int) : Nat × Nat :=
  if 0 ≤ k then (num, den * Nat.pow 10 k.toNat) else (num * Nat.pow 10 (-k).toNat, den)

/-- The exponent of the first digit of the positive fraction `num / den`. -/
def leadingExponent (num den : Nat) : Int :=
  if den ≤ num then (digitCount (num / den) : Int) - 1
  else -(digitCount ((den - 1) / num) : Int)

/-- The reals that round to the fraction `mantissa · 2 ^ exponent`: its neighbours lie half a unit
away, a quarter below when the fraction is the least of its binade. The ends belong to it when the
mantissa is even. All four members share the denominator `den`. -/
structure Interval where
  low : Nat
  value : Nat
  high : Nat
  den : Nat
  closed : Bool

def Interval.ofDouble (mantissa : Nat) (exponent : Int) : Interval :=
  let narrow := mantissa == Nat.pow 2 52 && exponent > -1074
  let scaleUp := Nat.pow 2 (exponent - 2).toNat
  { low := (4 * mantissa - if narrow then 1 else 2) * scaleUp
    value := 4 * mantissa * scaleUp
    high := (4 * mantissa + 2) * scaleUp
    den := Nat.pow 2 (2 - exponent).toNat
    closed := mantissa % 2 == 0 }

/-- Does `n · 10 ^ k` lie in the interval? -/
def Interval.holds (i : Interval) (n : Nat) (k : Int) : Bool :=
  let (unit, part) := if 0 ≤ k then (Nat.pow 10 k.toNat, 1) else (1, Nat.pow 10 (-k).toNat)
  let x := n * unit * i.den
  let low := i.low * part
  let high := i.high * part
  if i.closed then low ≤ x && x ≤ high else low < x && x < high

/-- The point of the grid `10 ^ k` that lies in the interval nearest to its value. Of two points
equally near, the even one is taken. -/
def Interval.onGrid? (i : Interval) (k : Int) : Option Nat :=
  let (num, den) := scale i.value i.den k
  let below := num / den
  let above := below + 1
  match i.holds below k && 0 < below, i.holds above k with
  | true, true =>
    let rest := 2 * (num % den)
    if rest < den || (rest == den && below % 2 == 0) then some below else some above
  | true, false => some below
  | false, true => some above
  | false, false => none

/-- Drops zeros at the end of the digits. -/
def Scientific.normalise : Nat → Scientific → Scientific
  | 0, s => s
  | fuel + 1, s =>
    if s.digits % 10 == 0 && s.digits != 0 then
      normalise fuel ⟨s.digits / 10, s.exponent + 1⟩
    else s

/-- The shortest decimal of a positive double: grids of one digit, two digits and so on are tried
until one has a point in the interval. -/
def shortest (mantissa : Nat) (exponent : Int) : Scientific :=
  let i := Interval.ofDouble mantissa exponent
  let top := leadingExponent i.value i.den
  let found := (List.range 17).findSome? fun (places : Nat) =>
    let k := top - (places : Int)
    (i.onGrid? k).map fun n => Scientific.normalise 18 ⟨n, k⟩
  found.getD ⟨i.value / i.den, 0⟩

end Codeweave.Decimal
