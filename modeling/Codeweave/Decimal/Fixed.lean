import Codeweave.Decimal.Exact

/-!
Numbers written with a fixed number of places behind the point.
-/

namespace Codeweave.Decimal

/-- The integer next to a fraction, the even one of two equally near. -/
def roundEven (num den : Nat) : Nat :=
  let low := num / den
  let twice := 2 * (num % den)
  if twice < den then low
  else if twice > den then low + 1
  else low + low % 2

/-- The size of a number in units of the last of the given places. -/
def Exact.scaled (e : Exact) (places : Nat) : Nat :=
  let num := e.mantissa.natAbs * Nat.pow 10 places
  if 0 ≤ e.exponent then num * Nat.pow 2 e.exponent.toNat
  else roundEven num (Nat.pow 2 (-e.exponent).toNat)

/-- Puts a point before the last of the given places. -/
def pointed (units places : Nat) : List Char :=
  let digits := Nat.toDigits 10 units
  let digits := List.replicate (places + 1 - digits.length) '0' ++ digits
  let whole := digits.take (digits.length - places)
  if places == 0 then whole else whole ++ '.' :: digits.drop (digits.length - places)

/-- The size of a number with the given places. -/
def fixedSize (places : Nat) (x : Float) : List Char :=
  match valueOf? x with
  | some e => pointed (e.scaled places) places
  | none => if x.isNaN then "nan".toList else "inf".toList

end Codeweave.Decimal
