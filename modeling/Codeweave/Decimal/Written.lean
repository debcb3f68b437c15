import Codeweave.Decimal.Shortest

/-!
Written form of floating-point numbers. A number is written with its shortest digits: positionally
when the exponent of its first digit is at least `-4` and below `16`, with a point always present,
and otherwise in scientific form with an exponent of at least two digits.
-/

namespace Codeweave.Decimal

structure Style where
  /-- least exponent of the first digit that is written positionally -/
  leastPositional : Int
  /-- first exponent that is no longer written positionally -/
  endPositional : Int
  /-- least number of digits of a written exponent -/
  exponentWidth : Nat
  infinite : String
  undefined : String

def style : Style := ⟨-4, 16, 2, "inf", "nan"⟩

def padZeros (width : Nat) (digits : List Char) : List Char :=
  List.replicate (width - digits.length) '0' ++ digits

def exponentText (s : Style) (e : Int) : List Char :=
  (if e < 0 then '-' else '+') :: padZeros s.exponentWidth (Nat.toDigits 10 e.natAbs)

def Scientific.write (st : Style) (s : Scientific) : List Char :=
  let ds := Nat.toDigits 10 s.digits
  let top : Int := s.exponent + ds.length - 1
  if st.leastPositional ≤ top ∧ top < st.endPositional then
    if 0 ≤ s.exponent then
      ds ++ List.replicate s.exponent.toNat '0' ++ ['.', '0']
    else if 0 ≤ top then
      ds.take (top.toNat + 1) ++ '.' :: ds.drop (top.toNat + 1)
    else
      '0' :: '.' :: List.replicate (-top - 1).toNat '0' ++ ds
  else
    let tail := exponentText st top
    match ds with
    | [d] => d :: 'e' :: tail
    | d :: rest => d :: '.' :: rest ++ 'e' :: tail
    | [] => 'e' :: tail

def write (x : Float) : List Char :=
  let bits : Nat := x.toBits.toNat
  let sign := if bits / Nat.pow 2 63 == 1 then ['-'] else []
  let biased : Nat := bits / Nat.pow 2 52 % Nat.pow 2 11
  let fraction : Nat := bits % Nat.pow 2 52
  if biased == Nat.pow 2 11 - 1 then
    if fraction == 0 then sign ++ style.infinite.toList else style.undefined.toList
  else if biased == 0 && fraction == 0 then sign ++ ['0', '.', '0']
  else
    let (mantissa, exponent) : Nat × Int :=
      if biased == 0 then (fraction, -1074) else (fraction + Nat.pow 2 52, (biased : Int) - 1075)
    sign ++ (shortest mantissa exponent).write style

end Codeweave.Decimal
