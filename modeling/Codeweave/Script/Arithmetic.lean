import Codeweave.Script.Percent

/-!
Operators on values: arithmetic of integers and floats, and the joining and repeating of sequences.
-/

namespace Codeweave.Script

namespace BinaryOp

def symbol : BinaryOp → String
  | add => "+"
  | subtract => "-"
  | multiply => "*"
  | matrixMultiply => "@"
  | divide => "/"
  | floorDivide => "//"
  | modulo => "%"
  | power => "**"
  | shiftLeft => "<<"
  | shiftRight => ">>"
  | bitAnd => "&"
  | bitOr => "|"
  | bitXor => "^"

/-- How an operator is named in messages; `updating` if it updates a target. -/
def title (op : BinaryOp) (updating : Bool) : String :=
  if updating then op.symbol ++ "="
  else if op == power then "** or pow()"
  else op.symbol

end BinaryOp

def unsupported (op : BinaryOp) (updating : Bool) (a b : Value) : Run Value := do
  let w ← get
  raiseWith .wrongType ("unsupported operand type(s) for " ++ op.title updating ++ ": '" ++
    w.typeName a ++ "' and '" ++ w.typeName b ++ "'")

/-- What is left of a float after division by another that is not zero, with the sign of the first.
-/
def floatRemainder (a b : Float) : Float :=
  match Decimal.valueOf? a, Decimal.valueOf? b with
  | some x, some y =>
    let e := min x.exponent y.exponent
    let m := x.mantissa * Int.pow 2 (x.exponent - e).toNat
    let n := y.mantissa * Int.pow 2 (y.exponent - e).toNat
    let left := m.tmod n
    if 0 ≤ e then Decimal.ofFraction (left * Int.pow 2 e.toNat) 1
    else Decimal.ofFraction left (Nat.pow 2 (-e).toNat)
  | some _, none => if b.isNaN then b else a
  | none, _ => 0.0 / 0.0

def zeroLike (x : Float) : Float :=
  if x.toBits.toNat / Nat.pow 2 63 == 1 then -0.0 else 0.0

/-- Does division leave something on the other side of zero than the divisor? -/
def crosses (left divisor : Float) : Bool :=
  left != 0.0 && (divisor < 0.0) != (left < 0.0)

/-- What is left after division, with the sign of the divisor. -/
def floorRemainder (a b : Float) : Float :=
  let left := floatRemainder a b
  if left == 0.0 then zeroLike b else if crosses left b then left + b else left

def floorQuotient (a b : Float) : Float :=
  let left := floatRemainder a b
  let whole := (a - left) / b
  let quotient := if crosses left b then whole - 1.0 else whole
  if quotient == 0.0 then zeroLike (a / b)
  else
    let rounded := quotient.floor
    if quotient - rounded > 0.5 then rounded + 1.0 else rounded

/-- The power of a negative number with an exponent that is not whole. -/
def complexPower (a b : Float) : Run Value := do
  let size := a.abs ^ b
  let angle := Float.atan2 0.0 a * b
  let (real, imaginary) := (size * angle.cos, size * angle.sin)
  if real.isInf || imaginary.isInf then raiseWith .overflow "complex exponentiation"
  else pure (.complex real imaginary)

def floatOperation (op : BinaryOp) (updating : Bool) (va vb : Value) (a b : Float) :
    Run Value := do
  match op with
  | .add => pure (.float (a + b))
  | .subtract => pure (.float (a - b))
  | .multiply => pure (.float (a * b))
  | .divide =>
    if b == 0.0 then raiseWith .zeroDivision "float division by zero" else pure (.float (a / b))
  | .floorDivide =>
    if b == 0.0 then raiseWith .zeroDivision "float floor division by zero"
    else pure (.float (floorQuotient a b))
  | .modulo =>
    if b == 0.0 then raiseWith .zeroDivision "float modulo"
    else pure (.float (floorRemainder a b))
  | .power =>
    if a == 0.0 && b < 0.0 then
      raiseWith .zeroDivision "0.0 cannot be raised to a negative power"
    else if a < 0.0 && !(b == b.floor) && !b.isNaN && !a.isInf then complexPower a b
    else
      let x := a ^ b
      if x.isInf && !a.isInf && !b.isInf then
        raiseProblem (.plain .overflow [.integer 34, .text "Numerical result out of range"] none)
      else pure (.float x)
  | _ => unsupported op updating va vb

/-- The quotient of two integers as a float; zero takes its sign from the divisor. -/
def divideIntegers (a b : Int) : Run Value := do
  if b == 0 then raiseWith .zeroDivision "division by zero"
  else if a == 0 then pure (.float (if b < 0 then -0.0 else 0.0))
  else
    let x := Decimal.ofFraction (if b < 0 then -a else a) b.natAbs
    if x.isInf then raiseWith .overflow "integer division result too large for a float"
    else pure (.float x)

/-- How large an exponent may be so that a number can still be computed. -/
def maxExponent : Nat := Nat.pow 2 24

/-- A power of an integer. Powers of zero and of units stay small. -/
def raiseInteger (a : Int) (n : Nat) : Run Value :=
  if n == 0 then pure (.integer 1)
  else if a == 0 || a == 1 then pure (.integer a)
  else if a == -1 then pure (.integer (if n % 2 == 0 then 1 else -1))
  else if n < maxExponent then pure (.integer (a.pow n))
  else giveUp

def shiftRight (a : Int) (n : Nat) : Int :=
  if a.natAbs.log2 < n then if a < 0 then -1 else 0 else a.fdiv (Int.pow 2 n)

/-- The number whose bits are the others. -/
def complement (a : Int) : Nat :=
  (-a - 1).toNat

/-- The bits that two numbers share; a negative number has all but finitely many bits. -/
def bitAnd (a b : Int) : Int :=
  match decide (a < 0), decide (b < 0) with
  | false, false => (a.toNat &&& b.toNat : Nat)
  | true, false => (b.toNat - (b.toNat &&& complement a) : Nat)
  | false, true => (a.toNat - (a.toNat &&& complement b) : Nat)
  | true, true => -((complement a ||| complement b : Nat) : Int) - 1

def bitOr (a b : Int) : Int :=
  -(bitAnd (-a - 1) (-b - 1)) - 1

def bitXor (a b : Int) : Int :=
  bitOr a b - bitAnd a b

/-- The result of an operation on bits: a truth value if both operands are. -/
def bitwise (va vb : Value) (n : Int) : Value :=
  match va, vb with
  | .bool _, .bool _ => .bool (n != 0)
  | _, _ => .integer n

def integerOperation (op : BinaryOp) (updating : Bool) (va vb : Value) (a b : Int) :
    Run Value := do
  match op with
  | .add => pure (.integer (a + b))
  | .subtract => pure (.integer (a - b))
  | .multiply => pure (.integer (a * b))
  | .divide => divideIntegers a b
  | .floorDivide =>
    if b == 0 then raiseWith .zeroDivision "integer division or modulo by zero"
    else pure (.integer (a.fdiv b))
  | .modulo =>
    if b == 0 then raiseWith .zeroDivision "integer modulo by zero"
    else pure (.integer (a.fmod b))
  | .power =>
    if b < 0 then floatOperation op updating va vb (← floatOfInteger a) (← floatOfInteger b)
    else raiseInteger a b.toNat
  | .shiftLeft =>
    if b < 0 then raiseWith .badValue "negative shift count"
    else if a == 0 then pure (.integer 0)
    else if b.toNat < maxExponent then pure (.integer (a * Int.pow 2 b.toNat))
    else giveUp
  | .shiftRight =>
    if b < 0 then raiseWith .badValue "negative shift count"
    else pure (.integer (shiftRight a b.toNat))
  | .bitAnd => pure (bitwise va vb (bitAnd a b))
  | .bitOr => pure (bitwise va vb (bitOr a b))
  | .bitXor => pure (bitwise va vb (bitXor a b))
  | _ => unsupported op updating va vb

def cannotJoin {α : Type} (kind : String) (b : Value) : Run α := do
  raiseWith .wrongType ("can only concatenate " ++ kind ++ " (not \"" ++ (← get).typeName b ++
    "\") to " ++ kind)

def joinValues (updating : Bool) (a b : Value) : Run Value := do
  match a, b with
  | .text s, .text t => pure (.text (s ++ t))
  | .text _, _ => cannotJoin "str" b
  | .list x, .list y => do
    let w ← get
    newList (w.listItems x ++ w.listItems y)
  | .list _, _ => cannotJoin "list" b
  | .tuple xs, .tuple ys | .tuple xs, .varargs ys | .varargs xs, .tuple ys
  | .varargs xs, .varargs ys => pure (.tuple (xs ++ ys))
  | .tuple _, _ | .varargs _, _ => cannotJoin "tuple" b
  | _, _ => unsupported .add updating a b

/-- So many copies of a list in a row, if there is memory for them. -/
def copies {α : Type} (xs : List α) (n : Nat) : Run (List α) := do
  if xs.isEmpty then pure []
  else
    requireMemory (xs.length * n)
    pure (List.replicate n xs).flatten

/-- Repeats a sequence; `none` if the value is no sequence. -/
def repeatValue? (v : Value) (times : Int) : Option (Run Value) :=
  let repeated (step : Nat → Run Value) : Run Value := do
    if times ≥ indexBound || times < -(indexBound : Int) then
      raiseWith .overflow "cannot fit 'int' into an index-sized integer"
    else step times.toNat
  match v with
  | .text s => some <| repeated fun n => do
    if s.length * n ≥ indexBound then raiseWith .overflow "repeated string is too long"
    else pure (.text (String.ofList (← copies s.toList n)))
  | .tuple xs | .varargs xs => some <| repeated fun n => do pure (.tuple (← copies xs n))
  | .list x => some <| repeated fun n => do newList (← copies ((← get).listItems x) n)
  | _ => none

def Value.isSequence : Value → Bool
  | .text _ | .tuple _ | .varargs _ | .list _ => true
  | _ => false

/-- Does the value hold items although it cannot be repeated? -/
def Value.isOtherCollection : Value → Bool
  | .dict _ | .names _ | .range _ _ _ => true
  | _ => false

/-- Multiplies two values of which one is no number. An update leaves it to its target to say what
that means, if the target holds items. -/
def multiplyValues (updating : Bool) (a b : Value) : Run Value := do
  if updating && a.isOtherCollection then unsupported .multiply updating a b
  else match a.isSequence, b.isSequence, a.integer?, b.integer? with
  | true, _, _, some n => (repeatValue? a n).getD (unsupported .multiply updating a b)
  | _, true, some n, _ => (repeatValue? b n).getD (unsupported .multiply updating a b)
  | true, _, _, none =>
    raiseWith .wrongType ("can't multiply sequence by non-int of type '" ++
      (← get).typeName b ++ "'")
  | _, true, none, _ =>
    raiseWith .wrongType ("can't multiply sequence by non-int of type '" ++
      (← get).typeName a ++ "'")
  | _, _, _, _ => unsupported .multiply updating a b

def Value.isMapping : Value → Bool
  | .dict _ | .names _ => true
  | _ => false

def Value.isType : Value → Bool
  | .builtin b => b.isType
  | .errorClass _ | .class_ _ => true
  | _ => false

def Value.isComplex : Value → Bool
  | .complex _ _ => true
  | _ => false

/-- Applies an operation. Arithmetic of complex numbers, and alternatives of mappings and of types,
are not followed. -/
def applyBinary (op : BinaryOp) (updating : Bool) (a b : Value) : Run Value := do
  if a.isComplex || b.isComplex then giveUp
  else match a.number?, b.number? with
  | some (.integer m), some (.integer n) => integerOperation op updating a b m n
  | some m, some n =>
    floatOperation op updating a b (← floatOfNumber m) (← floatOfNumber n)
  | _, _ =>
    match op, a with
    | .add, _ => joinValues updating a b
    | .multiply, _ => multiplyValues updating a b
    | .modulo, .text s => Percent.format s.toList b
    | .bitOr, _ =>
      if (a.isMapping && b.isMapping) || a.isType || b.isType then giveUp
      else unsupported op updating a b
    | _, _ => unsupported op updating a b

def applyUnary (op : UnaryOp) (v : Value) : Run Value := do
  let refuse (symbol : String) : Run Value := do
    if v.isComplex then giveUp
    else raiseWith .wrongType ("bad operand type for unary " ++ symbol ++ ": '" ++
      (← get).typeName v ++ "'")
  match op, v.number? with
  | .negation, _ => pure (.bool (!(← get).isTrue v))
  | .plus, some (.integer n) => pure (.integer n)
  | .plus, some (.float x) => pure (.float x)
  | .minus, some (.integer n) => pure (.integer (-n))
  | .minus, some (.float x) => pure (.float (-x))
  | .invert, some (.integer n) => pure (.integer (-n - 1))
  | .plus, none => refuse "+"
  | .minus, none => refuse "-"
  | .invert, _ => refuse "~"

end Codeweave.Script
