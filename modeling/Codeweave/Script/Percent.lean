import Codeweave.Decimal.Fixed
import Codeweave.Script.Compare

/-!
Texts with values put in place of percent marks: `%s` and `%r` for the written and the shown text,
`%d`, `%x` and `%o` for integers, `%f` for numbers with fixed places, `%c` for a character, and `%%`
for the mark itself, each with flags, a width and a precision. Marks with a key, with a star or with
`#`, `%a`, and numbers with an exponent are told from these, and not followed.
-/

namespace Codeweave.Script.Percent

structure Mark where
  left : Bool := false
  zeros : Bool := false
  alternate : Bool := false
  sign : List Char := []
  width : Nat := 0
  precision : Option Nat := none

def flags (m : Mark) : List Char → Mark × List Char
  | '-' :: rest => flags { m with left := true } rest
  | '0' :: rest => flags { m with zeros := true } rest
  | '#' :: rest => flags { m with alternate := true } rest
  | '+' :: rest => flags { m with sign := ['+'] } rest
  | ' ' :: rest => flags { m with sign := if m.sign.isEmpty then [' '] else m.sign } rest
  | rest => (m, rest)

/-- How wide a mark may be so that what stands for it can still be written. -/
def maxSize : Nat := Nat.pow 2 24

/-- A width or a precision, unless a star takes a value for it or it is too large to be followed. -/
def size? : List Char → Option (Nat × List Char)
  | '*' :: _ => none
  | cs =>
    let ds := cs.takeWhile Char.isDigit
    let n := Lexer.valueIn 10 ds
    if n < maxSize then some (n, cs.drop ds.length) else none

/-- What follows the prefix for the size of a number, which means nothing. -/
def dropPrefix : List Char → List Char
  | 'h' :: rest | 'l' :: rest | 'L' :: rest => rest
  | rest => rest

def readMark? (cs : List Char) : Option (Mark × List Char) := do
  let (m, cs) := flags {} cs
  let (width, cs) ← size? cs
  match cs with
  | '.' :: rest =>
    let (precision, rest) ← size? rest
    pure ({ m with width := width, precision := some precision }, dropPrefix rest)
  | _ => pure ({ m with width := width }, dropPrefix cs)

def Mark.fill (m : Mark) (text : List Char) : List Char :=
  let blanks := List.replicate (m.width - text.length) ' '
  if m.left then text ++ blanks else blanks ++ text

/-- The digits of a number with sign and zeros as a mark asks. -/
def Mark.fillSigned (m : Mark) (negative : Bool) (digits : List Char) : List Char :=
  let sign := if negative then ['-'] else m.sign
  if m.zeros && !m.left then
    sign ++ List.replicate (m.width - sign.length - digits.length) '0' ++ digits
  else m.fill (sign ++ digits)

/-- The digits of an integer, at least as many as the precision of a mark. -/
def Mark.fillNumber (m : Mark) (n : Int) (digits : List Char) : List Char :=
  m.fillSigned (n < 0) (List.replicate (m.precision.getD 0 - digits.length) '0' ++ digits)

def isDecimal (letter : Char) : Bool :=
  letter == 'd' || letter == 'i' || letter == 'u'

def integerFor (letter : Char) (v : Value) : Run Int := do
  match v.number? with
  | some (.integer n) => pure n
  | some (.float x) =>
    if isDecimal letter then truncateFloat x
    else
      raiseWith .wrongType ("%" ++ String.singleton letter ++
        " format: an integer is required, not float")
  | none =>
    let kind := if isDecimal letter then "a real number" else "an integer"
    raiseWith .wrongType ("%" ++ String.singleton letter ++ " format: " ++ kind ++
      " is required, not " ++ (← get).typeName v)

def floatFor (v : Value) : Run Float := do
  match v.number? with
  | some n => floatOfNumber n
  | none => raiseWith .wrongType ("must be real number, not " ++ (← get).typeName v)

def characterFor (v : Value) : Run Char :=
  match v, v.integer? with
  | .text s, _ =>
    match s.toList with
    | [c] => pure c
    | _ => raiseWith .wrongType "%c requires int or char"
  | _, some n =>
    if 0 ≤ n ∧ n < 0x110000 then characterOf n
    else raiseWith .overflow "%c arg not in range(0x110000)"
  | _, none => raiseWith .wrongType "%c requires int or char"

def Mark.replace (m : Mark) (offset : Nat) (letter : Char) (v : Value) : Run (List Char) := do
  if letter == 's' || letter == 'r' then
    let text ← if letter == 's' then writtenText v else shownText v
    pure (m.fill (match m.precision with | some p => text.take p | none => text))
  else if isDecimal letter then
    let n ← integerFor letter v
    let digits ← orRaise (integerText n.natAbs)
    pure (m.fillNumber n digits)
  else if letter == 'x' || letter == 'X' || letter == 'o' then
    let n ← integerFor letter v
    let digits := Nat.toDigits (if letter == 'o' then 8 else 16) n.natAbs
    if m.alternate then giveUp
    else pure (m.fillNumber n (if letter == 'X' then digits.map Char.toUpper else digits))
  else if letter == 'c' then
    pure (m.fill [← characterFor v])
  else if letter == 'f' || letter == 'F' then
    let x ← floatFor v
    let negative := x.toBits.toNat / Nat.pow 2 63 == 1 && !x.isNaN
    let digits := Decimal.fixedSize (m.precision.getD 6) x
    if m.alternate then giveUp
    else
      pure (m.fillSigned negative (if letter == 'F' then digits.map Char.toUpper else digits))
  else if letter == 'e' || letter == 'E' || letter == 'g' || letter == 'G' then
    let _ ← floatFor v
    giveUp
  else if letter == 'a' then giveUp
  else
    let code := String.ofList (Nat.toDigits 16 letter.toNat)
    let shown := if 31 ≤ letter.toNat && letter.toNat < 127 then letter else '?'
    raiseWith .badValue ("unsupported format character '" ++ String.singleton shown ++ "' (0x" ++
      code ++ ") at index " ++ toString offset)

/-- Replaces the marks of the rest of a text that starts at an offset, in at most the given number
of steps; also gives the values that no mark took. -/
def replaceFrom (mapping : Bool) : Nat → Nat → List Char → List Value →
    Run (List Char × List Value)
  | 0, _, _, values => pure ([], values)
  | _ + 1, _, [], values => pure ([], values)
  | _ + 1, _, '%' :: '(' :: _, _ =>
    if mapping then giveUp else raiseWith .wrongType "format requires a mapping"
  | fuel + 1, offset, '%' :: '%' :: rest, values => do
    let (text, left) ← replaceFrom mapping fuel (offset + 2) rest values
    pure ('%' :: text, left)
  | fuel + 1, offset, '%' :: rest, values => do
    match readMark? rest with
    | none => giveUp
    | some (_, []) => raiseWith .badValue "incomplete format"
    | some (m, letter :: after) =>
      match values with
      | [] => raiseWith .wrongType "not enough arguments for format string"
      | v :: more => do
        let offset := offset + (rest.length - after.length)
        let text ← m.replace offset letter v
        let (others, left) ← replaceFrom mapping fuel (offset + 1) after more
        pure (text ++ others, left)
  | fuel + 1, offset, c :: rest, values => do
    let (text, left) ← replaceFrom mapping fuel (offset + 1) rest values
    pure (c :: text, left)

/-- Replaces the marks of a text by values: the items of a tuple, or the one value. -/
def format (text : List Char) (value : Value) : Run Value := do
  let (values, mapping) := match value with
    | .tuple items | .varargs items => (items, false)
    | .dict _ | .list _ | .range _ _ _ | .names _ => ([value], true)
    | v => ([v], false)
  let (result, left) ← replaceFrom mapping (text.length + 1) 0 text values
  if left.isEmpty || mapping then pure (.text (String.ofList result))
  else raiseWith .wrongType "not all arguments converted during string formatting"

end Codeweave.Script.Percent
