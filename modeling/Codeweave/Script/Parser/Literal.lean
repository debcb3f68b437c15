import Codeweave.Script.Lexer

/-!
Text literals: the escapes in them, and the parts of formatted ones.
-/

namespace Codeweave.Script.Literal

open Lexer (isHexDigit valueIn)

def letterEscapes : List (Char × Char) :=
  [('\\', '\\'), ('\'', '\''), ('"', '"'), ('a', '\x07'), ('b', '\x08'), ('f', '\x0c'),
   ('n', '\n'), ('r', '\r'), ('t', '\t'), ('v', '\x0b')]

def isOctal (c : Char) : Bool :=
  '0' ≤ c && c ≤ '7'

/-- A character of a literal; none where it is not followed what character that is: one half of a
pair of code points, or a character that is given by its name. -/
abbrev Letter := Option Char

/-- The character of a code point given by exactly `width` hexadecimal digits. -/
def codePoint? (width : Nat) (cs : List Char) : Option (Letter × List Char) :=
  let ds := cs.take width
  let n := valueIn 16 ds
  if ds.length == width && ds.all isHexDigit && n ≤ 0x10ffff then
    some (if n.isValidChar then some (Char.ofNat n) else none, cs.drop width)
  else none

/-- A character by its name in braces. All names are taken for names of characters. -/
def named? (cs : List Char) : Option (Letter × List Char) :=
  match cs with
  | '\x7b' :: rest =>
    match rest.dropWhile (· != '\x7d') with
    | _ :: after => if rest.head? == some '\x7d' then none else some (none, after)
    | [] => none
  | _ => none

/-- One escape after its backslash: what it stands for and what follows it. A backslash before any
other character stands for itself. Bytes have no escapes for characters. -/
def escape? (bytes : Bool) (cs : List Char) : Option (List Letter × List Char) :=
  match cs with
  | [] => some ([some '\\'], [])
  | '\n' :: rest => some ([], rest)
  | 'x' :: rest => (codePoint? 2 rest).map fun (c, r) => ([c], r)
  | c :: rest =>
    if !bytes && c == 'u' then (codePoint? 4 rest).map fun (c, r) => ([c], r)
    else if !bytes && c == 'U' then (codePoint? 8 rest).map fun (c, r) => ([c], r)
    else if !bytes && c == 'N' then (named? rest).map fun (c, r) => ([c], r)
    else if isOctal c then
      let ds := (cs.take 3).takeWhile isOctal
      some ([some (Char.ofNat (valueIn 8 ds))], cs.drop ds.length)
    else
      match letterEscapes.lookup c with
      | some e => some ([some e], rest)
      | none => some ([some '\\', some c], rest)

def unescapeWith (bytes : Bool) : Nat → List Char → Option (List Letter)
  | 0, _ => some []
  | _ + 1, [] => some []
  | fuel + 1, '\\' :: rest => do
    let (cs, rest') ← escape? bytes rest
    let more ← unescapeWith bytes fuel rest'
    pure (cs ++ more)
  | fuel + 1, c :: rest => do
    let more ← unescapeWith bytes fuel rest
    pure (some c :: more)

def isAscii (c : Char) : Bool :=
  c.toNat < 0x80

/-- What a literal stands for; `none` if an escape stands for nothing, or a character cannot be one
of bytes. -/
def letters? (form : LiteralForm) (source : List Char) : Option (List Letter) :=
  if form.bytes && !source.all isAscii then none
  else if form.raw then some (source.map some)
  else unescapeWith form.bytes (source.length + 1) source

/-- Part of a formatted literal: source of plain text, or source of an expression after so many
newlines, with the way its value is written: quoted or not, or, if it is special, in a way of which
only the parts of the format are known. Nothing comes behind a broken part. -/
inductive Part where
  | plain (source : List Char)
  | value (newlines : Nat) (source : List Char) (quoted special : Bool) (format : List Part)
  | broken

structure ValueState where
  /-- the quote of the text literal that was opened, and whether it is a triple one -/
  quote : Option (Char × Bool) := none
  brackets : List Char := []

def within (cs : List Char) (r : Option (List Char × List Char)) : Option (List Char × List Char) :=
  r.map fun (source, rest) => (cs ++ source, rest)

/-- Does a character outside all brackets and quotes end an expression? -/
def endsValue (c : Char) : Bool :=
  c == '\x7d' || c == ':' || c == '!' || c == '='

/-- Does a character make an operator with an equals sign behind it? -/
def takesEquals (c : Char) : Bool :=
  c == '!' || c == '=' || c == '<' || c == '>'

/-- Splits the source of an expression from what ends it: a closing brace, a colon, an exclamation
mark or an equals sign outside all brackets and quotes. `none` where no expression can be. -/
def valueSource (s : ValueState) : List Char → Option (List Char × List Char)
  | [] => none
  | c :: rest =>
    if c == '\\' then none
    else
      match s.quote with
      | some (q, false) =>
        within [c] (valueSource (if c == q then { s with quote := none } else s) rest)
      | some (q, true) =>
        match rest with
        | d :: e :: more =>
          if c == q && d == q && e == q then
            within [c, d, e] (valueSource { s with quote := none } more)
          else within [c] (valueSource s (d :: e :: more))
        | _ => none
      | none =>
        if c == '\'' || c == '"' then
          match rest with
          | d :: e :: more =>
            if d == c && e == c then
              within [c, d, e] (valueSource { s with quote := some (c, true) } more)
            else within [c] (valueSource { s with quote := some (c, false) } (d :: e :: more))
          | _ => none
        else if c == '(' || c == '[' || c == '\x7b' then
          within [c] (valueSource { s with brackets := c :: s.brackets } rest)
        else if c == '#' then none
        else
          match s.brackets with
          | opening :: outer =>
            if c == ')' || c == ']' || c == '\x7d' then
              if Lexer.closerOf opening == c then
                within [c] (valueSource { s with brackets := outer } rest)
              else none
            else within [c] (valueSource s rest)
          | [] =>
            match rest with
            | [] => if endsValue c then some ([], [c]) else none
            | d :: more =>
              if takesEquals c && d == '=' then within [c, d] (valueSource s more)
              else if endsValue c then some ([], c :: d :: more)
              else if c == ')' || c == ']' then none
              else within [c] (valueSource s (d :: more))

/-- The equals sign behind an expression that is written out before its value, with the blanks
around it, and what follows. -/
def echo? (cs : List Char) : Option (List Char × List Char) :=
  match cs with
  | '=' :: rest =>
    let isBlank (c : Char) : Bool := c == ' ' || ('\t' ≤ c && c ≤ '\r')
    some ('=' :: rest.takeWhile isBlank, rest.dropWhile isBlank)
  | _ => none

/-- The letter after an exclamation mark that may stand behind an expression, and what follows.
`none` where the letter means nothing. -/
def conversion? (cs : List Char) : Option (Option Char × List Char) :=
  match cs with
  | '!' :: c :: rest => if ['a', 'r', 's'].contains c then some (some c, rest) else none
  | '!' :: [] => none
  | _ => some (none, cs)

/-- What a backslash takes with it in a formatted literal; a brace only as that of a name. -/
def escaped (rest : List Char) : List Char :=
  match rest with
  | 'N' :: '\x7b' :: more =>
    let name := more.takeWhile (· != '\x7d')
    'N' :: '\x7b' :: name ++ (more.drop name.length).take 1
  | c :: _ => if c == '\x7b' || c == '\x7d' then [] else [c]
  | [] => []

/-- How many expressions a formatted literal may have inside each other. -/
def maxValues : Nat := 2

mutual

/-- The parts of a formatted literal, or of the format of an expression in so many others, and what
is left behind it. -/
def partsFrom (raw : Bool) : (fuel depth newlines : Nat) → (plain rest : List Char) →
    List Part × List Char
  | 0, _, _, _, _ => ([.broken], [])
  | _ + 1, _, _, plain, [] => ([.plain plain.reverse], [])
  | fuel + 1, depth, newlines, plain, c :: rest =>
    if (c == '\x7b' || c == '\x7d') && depth == 0 && rest.head? == some c then
      partsFrom raw fuel depth newlines (c :: plain) (rest.drop 1)
    else if c == '\x7d' then
      if depth == 0 then ([.plain plain.reverse, .broken], [])
      else ([.plain plain.reverse], c :: rest)
    else if c == '\x7b' then
      let (parts, more) := valueFrom raw fuel depth newlines rest
      (.plain plain.reverse :: parts, more)
    else
      -- a backslash takes the next character with it, and the name of a character after it
      let taken := if c == '\\' && !raw then escaped rest else []
      partsFrom raw fuel depth (newlines + (c :: taken).count '\n') (taken.reverse ++ c :: plain)
        (rest.drop taken.length)

/-- An expression behind its opening brace, and the parts that follow it. -/
def valueFrom (raw : Bool) : (fuel depth newlines : Nat) → (rest : List Char) →
    List Part × List Char
  | 0, _, _, _ => ([.broken], [])
  | fuel + 1, depth, newlines, rest =>
    match if depth < maxValues then valueSource {} rest else none with
    | none => ([.broken], [])
    | some (source, after) =>
      if source.all fun c => c == ' ' || c == '\n' || c == '\t' || c == '\x0c' then ([.broken], [])
      else
        let (echoed, after) := match echo? after with
          | some (sign, after) => (source ++ sign, after)
          | none => ([], after)
        match conversion? after with
        | none => ([.value newlines source false false [], .broken], [])
        | some (letter, behind) =>
          let passed (left : List Char) := newlines + (rest.count '\n' - left.count '\n')
          let (format, left) := match behind with
            | ':' :: spec => partsFrom raw fuel (depth + 1) (passed spec) [] spec
            | _ => ([], behind)
          let quoted := letter == some 'r' || (!echoed.isEmpty && letter.isNone && format.isEmpty)
          let special := letter == some 'a' || format.any fun
            | .plain [] => false
            | _ => true
          let value := .value newlines source quoted special format
          match left with
          | '\x7d' :: more =>
            let (parts, more') := partsFrom raw fuel depth (passed more) [] more
            (.plain echoed :: value :: parts, more')
          | _ => ([.plain echoed, value, .broken], [])

end

def parts (form : LiteralForm) (source : List Char) : List Part :=
  (partsFrom form.raw (2 * source.length + 2) 0 0 [] source).1

end Codeweave.Script.Literal
