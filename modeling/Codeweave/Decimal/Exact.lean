/-!
Floating-point numbers as exact binary fractions, and fractions as the floating-point numbers next
to them.
-/

namespace Codeweave.Decimal

/-- A finite number as `mantissa · 2 ^ exponent`, with its sign in the mantissa. -/
structure Exact where
  mantissa : Int
  exponent : Int

/-- The exact value of a finite number. -/
def valueOf? (x : Float) : Option Exact :=
  let bits : Nat := x.toBits.toNat
  let biased : Nat := bits / Nat.pow 2 52 % Nat.pow 2 11
  let fraction : Nat := bits % Nat.pow 2 52
  let sign : Int := if bits / Nat.pow 2 63 == 1 then -1 else 1
  if biased == Nat.pow 2 11 - 1 then none
  else if biased == 0 then some ⟨sign * fraction, -1074⟩
  else some ⟨sign * (fraction + Nat.pow 2 52 : Nat), (biased : Int) - 1075⟩

/-- The value rounded toward zero. -/
def Exact.truncate (e : Exact) : Int :=
  if 0 ≤ e.exponent then e.mantissa * Int.pow 2 e.exponent.toNat
  else e.mantissa.tdiv (Int.pow 2 (-e.exponent).toNat)

/-- How the value compares with an integer. -/
def Exact.compareInt (e : Exact) (n : Int) : Ordering :=
  if 0 ≤ e.exponent then compare (e.mantissa * Int.pow 2 e.exponent.toNat) n
  else compare e.mantissa (n * Int.pow 2 (-e.exponent).toNat)

def minExponent : Int := -1074

/-- The integer next to `num / den`, the even one of two equally near. -/
def nearest (num den : Nat) : Nat :=
  let quotient := num / den
  match compare (2 * (num % den)) den with
  | .lt => quotient
  | .gt => quotient + 1
  | .eq => quotient + quotient % 2

/-- The exponent of the highest power of two that is not above the positive fraction `num / den`. -/
def leadingPower (num den : Nat) : Int :=
  let e : Int := (num.log2 : Int) - (den.log2 : Int)
  let isAbove := if 0 ≤ e then den * Nat.pow 2 e.toNat > num else den > num * Nat.pow 2 (-e).toNat
  if isAbove then e - 1 else e

/-- The number next to the positive fraction `num / den`, the even one of two equally near: a
multiple of the least unit that 53 digits of the fraction leave. -/
def ofPositive (num den : Nat) : Float :=
  let unit := max (leadingPower num den - 52) minExponent
  let mantissa :=
    if 0 ≤ unit then nearest num (den * Nat.pow 2 unit.toNat)
    else nearest (num * Nat.pow 2 (-unit).toNat) den
  (UInt64.ofNat mantissa).toFloat.scaleB unit

def ofFraction (num : Int) (den : Nat) : Float :=
  if num == 0 then 0.0
  else if num < 0 then -(ofPositive num.natAbs den)
  else ofPositive num.natAbs den

def ofInteger (n : Int) : Float :=
  ofFraction n 1

/-- The number next to `digits * 10 ^ exponent`. Exponents far out of range are cut, which changes
nothing as the result is infinite or zero. -/
def ofScientific (digits : Nat) (exponent : Int) : Float :=
  if digits == 0 then 0.0
  else
    let size : Int := digits.log2
    if exponent > 400 then ofPositive (Nat.pow 10 400) 1
    else if exponent < -(size + 400) then 0.0
    else if 0 ≤ exponent then ofPositive (digits * Nat.pow 10 exponent.toNat) 1
    else ofPositive digits (Nat.pow 10 (-exponent).toNat)

end Codeweave.Decimal
