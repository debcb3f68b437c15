import Codeweave.Text.Blank
import Codeweave.Text.DecimalDigit

/-!
Integers written in a text: blanks around them, a sign, a mark of the base, and digits that single
underscores may part. Decimal digits of every script count. Unless the base is a power of two, no
more than 4300 digits are read.
-/

namespace Codeweave.Text

inductive IntegerError where
  | malformed
  /-- it has the given number of digits, which is too many -/
  | tooLong (digits : Nat)
deriving Repr, DecidableEq

def maxIntegerDigits : Nat := 4300

/-- Is the character a blank that may stand around an integer? The information separators may not.
-/
def isPadding (c : Char) : Bool :=
  isBlank c && !(0x1c ≤ c.toNat && c.toNat ≤ 0x1f)

/-- The value of a character as a digit: decimal digits of every script, then the letters. -/
def digitIn? (base : Nat) (c : Char) : Option Nat :=
  let value :=
    match digitValue? c with
    | some n => some n
    | none =>
      if 'a' ≤ c && c ≤ 'z' then some (c.toNat - 'a'.toNat + 10)
      else if 'A' ≤ c && c ≤ 'Z' then some (c.toNat - 'A'.toNat + 10)
      else none
  value.filter (· < base)

/-- The digits that a text starts with, parted by single underscores, and the rest. `none` if an
underscore does not part two digits; `afterDigit` tells whether one may come next. -/
def leadingDigits (base : Nat) (afterDigit : Bool) : List Char → Option (List Nat × List Char)
  | [] => if afterDigit then some ([], []) else none
  | c :: rest =>
    match digitIn? base c with
    | some n => (leadingDigits base true rest).map fun (ns, after) => (n :: ns, after)
    | none =>
      if c == '_' then if afterDigit then leadingDigits base false rest else none
      else if afterDigit then some ([], c :: rest)
      else none

def markedBase? (c : Char) : Option Nat :=
  if c == 'x' || c == 'X' then some 16
  else if c == 'o' || c == 'O' then some 8
  else if c == 'b' || c == 'B' then some 2
  else none

/-- The base of an unsigned integer and its digits. The base is that of its mark if no base is asked
for, and a mark of the base that is asked for is skipped, with an underscore behind it. -/
def baseOf (base : Nat) (text : List Char) : Nat × List Char :=
  match text with
  | zero :: mark :: rest =>
    let marked := if digitIn? 10 zero == some 0 then markedBase? mark else none
    match marked with
    | some found =>
      if base == 0 || base == found then
        (found, match rest with | '_' :: after => after | _ => rest)
      else (base, text)
    | none => (if base == 0 then 10 else base, text)
  | _ => (if base == 0 then 10 else base, text)

def isUnbounded (base : Nat) : Bool :=
  [2, 4, 8, 16, 32].contains base

/-- The integer that a text writes in a base, where base zero takes the base from the text. Then
only zero may be written with leading zeros. -/
def readIntegerIn (base : Nat) (text : List Char) : Except IntegerError Int :=
  let (negative, unsigned) := match text.dropWhile isPadding with
    | '-' :: rest => (true, rest)
    | '+' :: rest => (false, rest)
    | rest => (false, rest)
  let (found, body) := baseOf base unsigned
  match leadingDigits found false body with
  | none => .error .malformed
  | some (digits, after) =>
    let value := digits.foldl (fun acc n => found * acc + n) 0
    if digits.length > maxIntegerDigits && !isUnbounded found then .error (.tooLong digits.length)
    else if !after.all isPadding then .error .malformed
    else if base == 0 && found == 10 && digits.head? == some 0 && value != 0 then .error .malformed
    else .ok (if negative then -(value : Int) else value)

def readInteger (text : List Char) : Except IntegerError Int :=
  readIntegerIn 10 text

def tooLongMessage (digits : Nat) : String :=
  "Exceeds the limit (4300 digits) for integer string conversion: value has " ++
    toString digits ++ " digits; use sys.set_int_max_str_digits() to increase the limit"

end Codeweave.Text
