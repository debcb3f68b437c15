import Codeweave.Script.Quotation

/-!
Reading tokens. A script is read as lines ended by newlines; carriage returns, alone or before a
newline, are line ends too. Outside brackets the indentation of a line is compared with that of the
lines before it, and a change of depth is a token. Lines that hold nothing but blanks and a comment
leave no trace.

A text can also be read loosely: there are no limits to nesting then, formatted literals may hold
anything that looks like an expression, and a line that starts with a backslash is never indented.
-/

namespace Codeweave.Script.Lexer

open Codeweave.Text

def normaliseEnds : List Char → List Char
  | [] => []
  | '\r' :: '\n' :: rest => '\n' :: normaliseEnds rest
  | c :: rest => (if c == '\r' then '\n' else c) :: normaliseEnds rest

def endsInBoth (source : List Char) : Bool :=
  ['\n', '\r'].isPrefixOf source.reverse

/-- The text that is read: line ends are newlines and the last line has one. A text that ends in a
carriage return and a newline has an empty line after that. -/
def prepare (source : List Char) : List Char :=
  let text := normaliseEnds source
  if text.isEmpty || (text.getLast? == some '\n' && !endsInBoth source) then text
  else text ++ ['\n']

/-! ### Numbers -/

/-- The longest row of digits that may be parted by single underscores, and what follows it. -/
def digitGroup (isDigit : Char → Bool) : List Char → List Char × List Char
  | c :: rest =>
    if isDigit c then
      let (ds, rest') := digitGroup isDigit rest
      (c :: ds, rest')
    else if c == '_' then
      match rest with
      | d :: _ =>
        if isDigit d then
          let (ds, rest') := digitGroup isDigit rest
          (ds, rest')
        else ([], c :: rest)
      | [] => ([], c :: rest)
    else ([], c :: rest)
  | [] => ([], [])

def digits? (isDigit : Char → Bool) (cs : List Char) : Option (List Char × List Char) :=
  match cs with
  | c :: _ => if isDigit c then some (digitGroup isDigit cs) else none
  | [] => none

def digitOf (c : Char) : Nat :=
  if c.isDigit then c.toNat - '0'.toNat
  else if 'a' ≤ c ∧ c ≤ 'f' then c.toNat - 'a'.toNat + 10
  else c.toNat - 'A'.toNat + 10

def valueIn (base : Nat) (ds : List Char) : Nat :=
  ds.foldl (fun acc c => acc * base + digitOf c) 0

def isHexDigit (c : Char) : Bool :=
  c.isDigit || ('a' ≤ c && c ≤ 'f') || ('A' ≤ c && c ≤ 'F')

/-- The base that the letter after a leading zero announces, with its digits. -/
def baseOf? (c : Char) : Option (Nat × (Char → Bool)) :=
  if c == 'x' || c == 'X' then some (16, isHexDigit)
  else if c == 'o' || c == 'O' then some (8, fun d => '0' ≤ d && d ≤ '7')
  else if c == 'b' || c == 'B' then some (2, fun d => d == '0' || d == '1')
  else none

def maxDigits : Nat := 4300

def exponent? (cs : List Char) : Option (Int × List Char) :=
  match cs with
  | e :: rest =>
    if e == 'e' || e == 'E' then
      match rest with
      | '-' :: more => (digits? Char.isDigit more).map fun (ds, r) => (-(valueIn 10 ds : Int), r)
      | '+' :: more => (digits? Char.isDigit more).map fun (ds, r) => ((valueIn 10 ds : Int), r)
      | _ => (digits? Char.isDigit rest).map fun (ds, r) => ((valueIn 10 ds : Int), r)
    else none
  | [] => none

def decimal? (cs : List Char) : Option (TokenKind × List Char) :=
  let (whole, afterWhole) := (digits? Char.isDigit cs).getD ([], cs)
  let (fraction, afterFraction, pointed) :=
    match afterWhole with
    | '.' :: rest =>
      let (ds, r) := (digits? Char.isDigit rest).getD ([], rest)
      (ds, r, true)
    | _ => ([], afterWhole, false)
  if whole.isEmpty && fraction.isEmpty then none
  else
    let (exponent, rest) :=
      match exponent? afterFraction with
      | some (e, r) => (some e, r)
      | none => (none, afterFraction)
    match rest.head?, exponent with
    | some 'j', _ | some 'J', _ => some (.imaginary, rest.drop 1)
    | _, some e => some (.decimal (valueIn 10 (whole ++ fraction)) (e - fraction.length), rest)
    | _, none =>
      if pointed then
        some (.decimal (valueIn 10 (whole ++ fraction)) (-(fraction.length : Int)), rest)
      else if whole.head? == some '0' && whole.any (· != '0') then none
      else if whole.length > maxDigits then some (.hugeInteger, rest)
      else some (.integer (valueIn 10 whole), rest)

/-- Words that may follow a number without a blank. -/
def wordsAfterNumber : List String :=
  ["and", "else", "for", "not", "or"]

/-- What may follow a number without a blank, even as the start of a longer word. -/
def startsAfterNumber : List String :=
  ["if", "in", "is"]

/-- May this text follow a number directly? Letters beyond ASCII may. -/
def endsNumber (rest : List Char) : Bool :=
  match rest with
  | c :: _ =>
    !Identifier.isContinue c || c.toNat ≥ 0x80 ||
      wordsAfterNumber.any (· == String.ofList (rest.takeWhile Identifier.isContinue)) ||
      startsAfterNumber.any fun w => w.toList.isPrefixOf rest
  | [] => true

def number? (cs : List Char) : Option (TokenKind × List Char) :=
  let found : Option (TokenKind × List Char) :=
    match cs with
    | '0' :: letter :: rest =>
      match baseOf? letter with
      | some (base, isDigit) =>
        let afterLetter := if rest.head? == some '_' then rest.drop 1 else rest
        (digits? isDigit afterLetter).map fun (ds, r) => (.integer (valueIn base ds), r)
      | none => decimal? cs
    | _ => decimal? cs
  found.filter fun (_, rest) => endsNumber rest

/-! ### Marks -/

/-- Operators and delimiters, longer ones first. -/
def marks : List String :=
  ["**=", "//=", ">>=", "<<=", "...", "!=", "%=", "&=", "**", "*=", "+=", "-=", "->", "//", "/=",
   ":=", "<<", "<=", "==", ">=", ">>", "@=", "^=", "|=", "%", "&", "(", ")", "*", "+", ",", "-",
   ".", "/", ":", ";", "<", "=", ">", "@", "[", "]", "^", "\x7b", "|", "\x7d", "~"]

def closerOf (c : Char) : Char :=
  if c == '(' then ')' else if c == '[' then ']' else '}'

/-! ### The reader -/

structure State where
  line : Nat := 1
  /-- open brackets and their lines, the innermost first -/
  brackets : List (Char × Nat) := []
  /-- depths of the enclosing blocks, the innermost first: with tabs to the next eighth column,
  and with tabs one column wide -/
  depths : List (Nat × Nat) := []
  /-- does a logical line start here? -/
  fresh : Bool := true
  /-- is the text read loosely? -/
  loose : Bool := false
  /-- was nothing read yet of a line that started with a backslash? -/
  joining : Bool := false
  /-- has anything been skipped since the last token? -/
  gap : Bool := true
  tokens : List Token := []

def State.push (s : State) (k : TokenKind) : State :=
  { s with tokens := ⟨k, s.line, s.gap⟩ :: s.tokens, gap := false, joining := false }

/-- The tokens of a script. If some part cannot be read, the tokens before it end in an unreadable
one and `failure` says why. -/
structure Tokens where
  tokens : List Token
  failure : Option Failure := none
  /-- is the failure told even if the tokens before it are wrong? -/
  outranks : Bool := false
  /-- the line of the innermost bracket that is open where the reader cannot go on -/
  openBracket : Option Nat := none

def State.stop (s : State) (failure : Failure) (outranks : Bool) : Tokens :=
  { tokens := ((⟨.unreadable, s.line, true⟩ : Token) :: s.tokens).reverse
    failure := some failure
    outranks := outranks
    openBracket := s.brackets.head?.map Prod.snd }

/-- The reader is at characters that make no token. -/
def State.fail (s : State) : Tokens :=
  s.stop ⟨s.line, .malformed⟩ true

/-- The reader is at a line that it cannot place. -/
def State.lose (s : State) (kind : FailureKind) : Tokens :=
  s.stop ⟨s.line, kind⟩ false

/-- The depth of a line, measured with tabs to the next eighth column, and with tabs one column
wide. -/
structure Depth where
  column : Nat := 0
  narrow : Nat := 0
  /-- the depth before the first backslash, which counts unless it is zero -/
  held : Nat := 0
  joined : Nat := 0

/-- The depth of a line and the rest of the line. A form feed starts anew. Stops with the number of
lines joined at a backslash that does not join two lines. -/
def measure (d : Depth) : List Char → Except Nat (Depth × List Char)
  | ' ' :: rest => measure { d with column := d.column + 1, narrow := d.narrow + 1 } rest
  | '\t' :: rest =>
    measure { d with column := (d.column / 8 + 1) * 8, narrow := d.narrow + 1 } rest
  | '\x0c' :: rest => measure { d with column := 0, narrow := 0 } rest
  | '\\' :: rest =>
    match rest with
    | '\n' :: c :: more =>
      let held := if d.held == 0 then d.column else d.held
      measure { d with held := held, joined := d.joined + 1 } (c :: more)
    | _ => .error d.joined
  | rest => .ok (d, rest)

def Depth.level (d : Depth) : Nat × Nat :=
  if d.held == 0 then (d.column, d.narrow) else (d.held, d.held)

def maxBlocks : Nat := 99

def maxBrackets : Nat := 200

def State.atDepth (s : State) (d : Depth) : Except FailureKind State :=
  let (col, alt) := d.level
  let (top, topAlt) := s.depths.headD (0, 0)
  if col == top then
    if alt == topAlt then .ok s else .error .tabs
  else if col > top then
    if s.depths.length ≥ maxBlocks && !s.loose then .error .tooDeep
    else if alt ≤ topAlt then .error .tabs
    else .ok ({ s with depths := (col, alt) :: s.depths }.push .indent)
  else
    let kept := s.depths.dropWhile fun (d, _) => d > col
    let closed := s.depths.length - kept.length
    let s' := (List.replicate closed ()).foldl (fun t _ => t.push .dedent) { s with depths := kept }
    let (d, dAlt) := kept.headD (0, 0)
    if d != col then .error .unevenIndent
    else if dAlt != alt then .error .tabs
    else .ok s'

def isMargin (c : Char) : Bool :=
  c == ' ' || c == '\t' || c == '\x0c'

def startsJoined (cs : List Char) : Bool :=
  (cs.dropWhile isMargin).head? == some '\\'

def skipComment (cs : List Char) : List Char :=
  cs.dropWhile (· != '\n')

/-- Reads a literal whose opening quote comes next, and goes on behind it. -/
def State.takeLiteral (s : State) (next : State → List Char → Tokens) (form : LiteralForm)
    (cs : List Char) : Tokens :=
  if s.loose && form.formatted then
    match Quotation.values? form cs with
    | some (values, rest) =>
      let newlines := cs.count '\n' - rest.count '\n'
      next { s.push (.embedding values) with line := s.line + newlines } rest
    | none => s.fail
  else
    match Quotation.literal? cs with
    | some (source, rest) =>
      let s' := s.push (.literal form source)
      next { s' with line := s.line + source.count '\n' } rest
    | none => s.fail

/-- Reads on from a state. Every step takes at least one character, so as many steps as there are
characters are enough. -/
def run : Nat → State → List Char → Tokens
  | 0, s, _ => s.fail
  | _ + 1, s, [] =>
    let last := s.line - 1
    let s := { s with line := if last == 0 then 1 else last }
    match s.brackets with
    | (_, line) :: _ => s.stop ⟨line, .malformed⟩ false
    | [] =>
      let s := s.depths.foldl (fun t _ => t.push .dedent) s
      { tokens := (s.push .finish).tokens.reverse }
  | fuel + 1, s, c :: cs =>
    if s.loose && s.fresh && s.brackets.isEmpty && startsJoined (c :: cs) then
      run fuel { s with fresh := false, joining := true } ((c :: cs).dropWhile isMargin)
    else if s.fresh && s.brackets.isEmpty then
      match measure {} (c :: cs) with
      | .error joined => { s with line := s.line + joined }.lose .malformed
      | .ok (depth, rest) =>
        let s := { s with line := s.line + depth.joined }
        let rest := if rest.head? == some '#' then skipComment rest else rest
        match rest with
        | [] => run fuel s []
        | '\n' :: more => run fuel { s with line := s.line + 1 } more
        | _ =>
          match s.atDepth depth with
          | .error kind => s.lose kind
          | .ok s => run fuel { s with fresh := false } rest
    else if c == '\n' then
      let s :=
        if !s.brackets.isEmpty then s
        else if s.joining then { s with fresh := true, joining := false }
        else { s.push .newline with fresh := true }
      run fuel { s with line := s.line + 1, gap := true } cs
    else if isMargin c then run fuel { s with gap := true } cs
    else if c == '#' then run fuel { s with gap := true } (skipComment cs)
    else if c == '\\' then
      match cs with
      | '\n' :: d :: rest => run fuel { s with line := s.line + 1, gap := true } (d :: rest)
      | ['\n'] => s.stop ⟨(s.brackets.head?.map Prod.snd).getD s.line, .malformed⟩ false
      | _ => s.lose .malformed
    else if c == '"' || c == '\'' then s.takeLiteral (run fuel) {} (c :: cs)
    else if Identifier.isStart c then
      let word := (c :: cs).takeWhile Identifier.isContinue
      let rest := (c :: cs).dropWhile Identifier.isContinue
      match rest.head?,
        (if s.loose then Quotation.looseFormOf? word else Quotation.formOf? word) with
      | some '"', some form => s.takeLiteral (run fuel) form rest
      | some '\'', some form => s.takeLiteral (run fuel) form rest
      | _, _ => run fuel (s.push (.word (String.ofList word))) rest
    else if c.isDigit || (c == '.' && (cs.head?.map Char.isDigit).getD false) then
      match number? (c :: cs) with
      | some (k, rest) => run fuel (s.push k) rest
      | none => s.fail
    else
      match marks.find? fun m => m.toList.isPrefixOf (c :: cs) with
      | some m =>
        let rest := (c :: cs).drop m.length
        if c == '(' || c == '[' || c == '\x7b' then
          if s.brackets.length ≥ maxBrackets && !s.loose then s.fail
          else run fuel { s.push (.mark m) with brackets := (c, s.line) :: s.brackets } rest
        else if c == ')' || c == ']' || c == '\x7d' then
          match s.brackets with
          | (o, _) :: outer =>
            if closerOf o == c then run fuel { s.push (.mark m) with brackets := outer } rest
            else s.fail
          | [] => s.fail
        else run fuel (s.push (.mark m)) rest
      | none =>
        if c.toNat < 0x80 && 0x20 ≤ c.toNat && c.toNat < 0x7f then
          run fuel (s.push (.mark (String.singleton c))) cs
        else s.fail

def tokensFrom (line : Nat) (source : List Char) : Tokens :=
  let text := prepare source
  run (2 * text.length + 2) { line := line } text

def tokens (source : List Char) : Tokens :=
  tokensFrom 1 source

def looseTokens (source : List Char) : Tokens :=
  let text := prepare source
  run (2 * text.length + 2) { loose := true } text

end Codeweave.Script.Lexer
