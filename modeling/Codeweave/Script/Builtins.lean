import Codeweave.Script.Order
import Codeweave.Script.TextMethods
import Codeweave.Text.Integer

/-!
The functions and types that every script can call.
-/

namespace Codeweave.Script

/-! ### Numbers and texts -/

def callRange (args : Arguments) : Run Value := do
  args.refuseNamed "range"
  match ← args.between "range" 1 3 with
  | [stop] => do pure (.range 0 (← requireInteger stop) 1)
  | start :: stop :: rest => do
    let first ← requireInteger start
    let last ← requireInteger stop
    let stride ← match rest with
      | step :: _ => requireInteger step
      | [] => pure 1
    if stride == 0 then raiseWith .badValue "range() arg 3 must not be zero"
    else pure (.range first last stride)
  | [] => throw .abandoned

def integerOfText (base : Nat) (s : String) : Run Value := do
  match Text.readIntegerIn base s.toList with
  | .ok n => pure (.integer n)
  | .error .malformed =>
    raiseWith .badValue ("invalid literal for int() with base " ++ toString base ++ ": " ++
      String.ofList ((Text.quoted s.toList).take 200))
  | .error (.tooLong digits) => raiseWith .badValue (Text.tooLongMessage digits)

/-- A value as an integer, rounded towards zero. -/
def integerOf (v : Value) : Run Value := do
  match v, v.number? with
  | .text s, _ => integerOfText 10 s
  | _, some (.integer n) => pure (.integer n)
  | _, some (.float x) => do
    pure (.integer (← truncateFloat x))
  | _, none =>
    raiseWith .wrongType
      ("int() argument must be a string, a bytes-like object or a real number, not '" ++
        (← get).typeName v ++ "'")

def callInteger (args : Arguments) : Run Value := do
  match ← args.unpack "int" 0 ["", "base"] with
  | [none, none] => pure (.integer 0)
  | [none, some _] => raiseWith .wrongType "int() missing string argument"
  | [some v, none] => integerOf v
  | [some v, some given] => do
    let base ← requireInteger given
    if base != 0 && (base < 2 || base > 36) then
      raiseWith .badValue "int() base must be >= 2 and <= 36, or 0"
    else
      match v with
      | .text s => integerOfText base.toNat s
      | _ => raiseWith .wrongType "int() can't convert non-string with explicit base"
  | _ => throw .abandoned

/-- The way in which bytes are read, of which only its kind matters as scripts have no bytes. -/
def requireCodec (name : String) (v : Option Value) : Run Unit := do
  match v with
  | none | some (.text _) => pure ()
  | some other =>
    raiseWith .wrongType ("str() argument '" ++ name ++ "' must be str, not " ++
      (← argumentKind other))

def callText (args : Arguments) : Run Value := do
  match ← args.unpack "str" 0 ["object", "encoding", "errors"] with
  | [object, encoding, errors] => do
    requireCodec "encoding" encoding
    requireCodec "errors" errors
    match object, encoding.isSome || errors.isSome with
    | none, _ => pure (.text "")
    | some v, false => do pure (.text (String.ofList (← writtenText v)))
    | some (.text _), true => raiseWith .wrongType "decoding str is not supported"
    | some v, true =>
      raiseWith .wrongType ("decoding to str: need a bytes-like object, " ++
        (← get).typeName v ++ " found")
  | _ => throw .abandoned

def callBoolean (args : Arguments) : Run Value := do
  args.refuseNamed "bool"
  match ← args.between "bool" 0 1 with
  | v :: _ => do pure (.bool ((← get).isTrue v))
  | [] => pure (.bool false)

def callMagnitude (args : Arguments) : Run Value := do
  let v ← args.only "abs"
  match v.number? with
  | some (.integer n) => pure (.integer n.natAbs)
  | some (.float x) => pure (.float x.abs)
  | none =>
    if v.isComplex then giveUp
    else raiseWith .wrongType ("bad operand type for abs(): '" ++ (← get).typeName v ++ "'")

def callCharacter (args : Arguments) : Run Value := do
  let n ← requireInteger (← args.only "chr")
  if n ≥ Int.pow 2 31 || n < -Int.pow 2 31 then
    raiseWith .overflow "Python int too large to convert to C int"
  else if 0 ≤ n ∧ n < 0x110000 then
    pure (.text (String.singleton (← characterOf n)))
  else raiseWith .badValue "chr() arg not in range(0x110000)"

def callCodePoint (args : Arguments) : Run Value := do
  let v ← args.only "ord"
  match v with
  | .text s =>
    match s.toList with
    | [c] => pure (.integer c.toNat)
    | cs =>
      raiseWith .wrongType ("ord() expected a character, but string of length " ++
        toString cs.length ++ " found")
  | _ =>
    raiseWith .wrongType ("ord() expected string of length 1, but " ++ (← get).typeName v ++
      " found")

/-! ### Output -/

/-- The text of a separator; no value stands for the usual one. -/
def separatorText (name usual : String) : Option Value → Run String
  | some (.text s) => pure s
  | some .none | none => pure usual
  | some v => do
    raiseWith .wrongType (name ++ " must be None or a string, not " ++ (← get).typeName v)

/-- Prints values one by one, so that those before a value without a text are printed. -/
def printValues (between : String) : List Value → Run Unit
  | [] => pure ()
  | v :: rest => do
    say (.printed (String.ofList (← writtenText v)))
    unless rest.isEmpty do say (.printed between)
    printValues between rest

def callPrint (args : Arguments) : Run Value := do
  match ← args.unpackNamed "print" ["sep", "end", "file", "flush"] with
  | sep :: stop :: file :: _ => do
    let between ← separatorText "sep" " " sep
    let after ← separatorText "end" "\n" stop
    match file with
    | none | some .none => do
      printValues between args.positional
      say (.printed after)
      pure .none
    | some .runtime | some (.output _) | some (.module _) | some (.class_ _) => giveUp
    | some v =>
      raiseWith .missingMember ("'" ++ (← get).typeName v ++ "' object has no attribute 'write'")
  | _ => throw .abandoned

/-! ### Collections -/

section

variable (m : Machine)

def callList (args : Arguments) : Run Value := do
  args.refuseNamed "list"
  match ← args.between "list" 0 1 with
  | v :: _ => do newList (← items m v)
  | [] => newList []

/-- The pairs that an iterator has left, from a position on, put over those that are there. -/
def takePairs (address : Nat) :
    Nat → Nat → List (Value × Value) → Run (List (Value × Value))
  | 0, _, _ => throw .abandoned
  | rounds + 1, position, entries => do
    match ← m.advance address with
    | none => pure entries
    | some pair => do
      match ← items? m pair with
      | some [k, v] => do
        requireKey k
        takePairs address rounds (position + 1) (← setEntry k v entries)
      | some xs =>
        raiseWith .badValue ("dictionary update sequence element #" ++ toString position ++
          " has length " ++ toString xs.length ++ "; 2 is required")
      | none =>
        raiseWith .wrongType ("cannot convert dictionary update sequence element #" ++
          toString position ++ " to a sequence")

def callDict (args : Arguments) : Run Value := do
  let base ← match ← args.between "dict" 0 1 with
    | [] => pure []
    | .dict address :: _ => do pure ((← get).dictEntries address)
    | .names space :: _ => do pure (((← get).names space).map fun (n, v) => (.text n, v))
    | v :: _ => do takePairs m (← iteratorOf v) m.rounds 0 []
  let entries ← args.named.foldlM
    (fun (acc : List (Value × Value)) (n, v) => setEntry (.text n) v acc) base
  pure (.dict (← allocate (.dict entries)))

def enumerated (v : Value) (start : Int) : Run Value := do
  pure (.iterator (← newIterator "enumerate" (.numbered (← iteratorOf v) start)))

def callEnumerate (args : Arguments) : Run Value := do
  let count := args.positional.length + args.named.length
  let invalid (name : String) : Run Value :=
    raiseWith .wrongType ("'" ++ name ++ "' is an invalid keyword argument for enumerate()")
  let numberFrom (v start : Value) : Run Value := do
    let first ← requireInteger start
    enumerated v first
  match args.positional, args.named with
  | [v], [] => enumerated v 0
  | [], [(name, v)] => if name == "iterable" then enumerated v 0 else invalid name
  | [v, start], [] => numberFrom v start
  | [v], [(name, start)] => if name == "start" then numberFrom v start else invalid name
  | [], [(first, a), (second, b)] =>
    if first == "start" then if second == "iterable" then numberFrom b a else invalid second
    else if first != "iterable" then invalid first
    else if second == "start" then numberFrom a b
    else invalid second
  | [], _ => raiseWith .wrongType "enumerate() missing required argument 'iterable'"
  | _, _ =>
    raiseWith .wrongType ("enumerate() takes at most 2 arguments" ++ givenCount count)

def callZip (args : Arguments) : Run Value := do
  let given ← args.unpackNamed "zip" ["strict"]
  let w ← get
  let strict := ((given.head?.join).map w.isTrue).getD false
  let iterators ← args.positional.mapM iteratorOf
  pure (.iterator (← newIterator "zip" (.together iterators strict)))

def reversedOf (v : Value) : Run Value := do
  let w ← get
  let made (kind : String) (source : Source) : Run Value := do
    pure (.iterator (← newIterator kind source))
  match v with
  | .text s => made "reversed" (.given (characters s).reverse)
  | .tuple xs | .varargs xs => made "reversed" (.given xs.reverse)
  | .list address => made "list_reverseiterator" (.listBack address (w.listArray address).size)
  | .range start stop step =>
    let count := rangeLength start stop step
    made "range_iterator" (.integers (start + step * ((count : Int) - 1)) (-step) count)
  | .dict address =>
    let size := (w.dictEntries address).length
    made "dict_reversekeyiterator" (.keysBack address size size)
  | .names space =>
    made "dict_reversekeyiterator" (.given ((w.names space).map fun (n, _) => .text n).reverse)
  | _ => raiseWith .wrongType ("'" ++ w.typeName v ++ "' object is not reversible")

def callReversed (args : Arguments) : Run Value := do
  args.refuseNamed "reversed"
  match ← args.between "reversed" 1 1 with
  | v :: _ => reversedOf v
  | [] => throw .abandoned

def sumUp (address : Nat) : Nat → Value → Run Value
  | 0, _ => throw .abandoned
  | rounds + 1, total => do
    match ← m.advance address with
    | some x => do sumUp address rounds (← applyBinary .add false total x)
    | none => pure total

def callSum (args : Arguments) : Run Value := do
  match ← args.unpack "sum" 1 ["", "start"] with
  | some v :: start => do
    let iterator ← iteratorOf v
    match (start.head?.join).getD (.integer 0) with
    | .text _ => raiseWith .wrongType "sum() can't sum strings [use ''.join(seq) instead]"
    | first => sumUp m iterator m.rounds first
  | _ => throw .abandoned

/-- Calls a function or type that every script has. `globals` is left to the place of the call,
which knows the names it sees. -/
def callBuiltin (b : Builtin) (args : Arguments) : Run Value := do
  match b with
  | .length => do pure (.integer (← lengthOf (← args.only "len")))
  | .range => callRange args
  | .text => callText args
  | .integer => callInteger args
  | .boolean => callBoolean args
  | .list => callList m args
  | .dict => callDict m args
  | .enumerate => callEnumerate args
  | .zip => callZip args
  | .sorted => callSorted m args
  | .reversed => callReversed args
  | .sum => callSum m args
  | .least => callExtreme m "min" "<" (· == .lt) args
  | .greatest => callExtreme m "max" ">" (· == .gt) args
  | .magnitude => callMagnitude args
  | .character => callCharacter args
  | .codePoint => callCodePoint args
  | .shown => do pure (.text (String.ofList (← shownText (← args.only "repr"))))
  | .print => callPrint args
  | .globals => do
    args.refuse "globals"
    pure (.names (← get).home)

end

end Codeweave.Script
