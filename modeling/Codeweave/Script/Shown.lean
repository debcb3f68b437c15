import Codeweave.Decimal.Written
import Codeweave.Script.ErrorText

/-!
Texts of values. A value has two: the text it is shown as inside other values and in log records,
where texts are quoted, and the text it is written as, which differs for texts and errors only.
-/

namespace Codeweave.Script

inductive TextError where
  | tooManyDigits
  | tooDeep
  /-- the text tells what is not known: the name of a run without one, or where in the memory
  something lies -/
  | unknown

/-- The least integer with more digits than are written out. -/
@[irreducible]
def digitBound : Nat := Nat.pow 10 Lexer.maxDigits

def integerText (n : Int) : Except TextError (List Char) :=
  if n.natAbs ≥ digitBound then .error .tooManyDigits
  else .ok ((if n < 0 then ['-'] else []) ++ Nat.toDigits 10 n.natAbs)

def bracketed (left : String) (items : List (List Char)) (right : String) : List Char :=
  left.toList ++ List.intercalate [',', ' '] items ++ right.toList

/-- A tuple; a comma follows a single item. -/
def tupleText : List (List Char) → List Char
  | [item] => '(' :: item ++ [',', ')']
  | items => bracketed "(" items ")"

/-- The text of a phrase, for given texts of values. -/
def Phrase.text (written shown : Value → Except TextError (List Char)) :
    Phrase → Except TextError (List Char)
  | .fixed text => .ok text
  | .written v => written v
  | .shown v => shown v

/-- The texts of phrases one after another. No text is asked for but theirs. -/
def phrasesText (written shown : Value → Except TextError (List Char)) (phrases : List Phrase) :
    Except TextError (List Char) := do
  .ok (← phrases.mapM (Phrase.text written shown)).flatten

/-- The text a value is shown as (`quoted`) or written as, inside the lists and dictionaries with
the given addresses. One of these that occurs in itself is shown as dots. -/
def World.textWithin (w : World) : Nat → List Nat → Bool → Value → Except TextError (List Char)
  | 0, _, _, _ => .error .tooDeep
  | fuel + 1, inside, quoted, value =>
    let show_ := w.textWithin fuel inside true
    match value with
    | .none => .ok "None".toList
    | .bool b => .ok (if b then "True".toList else "False".toList)
    | .integer n => integerText n
    | .float x => .ok (Decimal.write x)
    | .text s => .ok (if quoted then Text.quoted s.toList else s.toList)
    | .ellipsis => .ok "Ellipsis".toList
    | .tuple items | .varargs items => (items.mapM show_).map tupleText
    | .range start stop step => do
      let bounds ← [start, stop].mapM integerText
      let stride ← if step == 1 then .ok [] else [step].mapM integerText
      .ok (bracketed "range(" (bounds ++ stride) ")")
    | .slice low high step => do
      .ok (bracketed "slice(" (← [low, high, step].mapM show_) ")")
    | .list address =>
      if inside.contains address then .ok "[...]".toList
      else do
        let items ← (w.listItems address).mapM (w.textWithin fuel (address :: inside) true)
        .ok (bracketed "[" items "]")
    | .dict address =>
      if inside.contains address then .ok "\x7b...\x7d".toList
      else do
        let entries ← (w.dictEntries address).mapM fun (k, v) => do
          .ok ((← show_ k) ++ [':', ' '] ++ (← w.textWithin fuel (address :: inside) true v))
        .ok (bracketed "\x7b" entries "\x7d")
    | .names space => do
      let entries ← (w.names space).mapM fun (k, v) => do
        .ok (Text.quoted k.toList ++ [':', ' '] ++ (← show_ v))
      .ok (bracketed "\x7b" entries "\x7d")
    | .complex _ _ | .iterator _ | .function _ | .procedure _ | .action _ | .method _ _ | .runtime
    | .output _ | .module _ => .error .unknown
    | .template address =>
      match w.objects[address]?, w.label with
      | some (.template _ _), none => .error .unknown
      | some (.template t (.text _)), some label =>
        .ok ("<BoundTemplate " ++ t.shown ++ " in " ++ label ++ ">").toList
      | some (.template _ pattern), some label => do
        .ok ("<BoundTemplate Template('', ".toList ++ (← show_ pattern) ++ ") in ".toList ++
          label.toList ++ ['>'])
      | _, _ => .ok "<BoundTemplate>".toList
    | .builtin b =>
      .ok (if b.isType then "<class '" ++ b.name ++ "'>"
        else "<built-in function " ++ b.name ++ ">").toList
    | .errorClass c => .ok ("<class '" ++ c.name ++ "'>").toList
    | .class_ address => .ok ("<class '" ++ (w.classAt address).title ++ "'>").toList
    | .error address =>
      match w.problemAt address with
      | .plain class_ arguments detail =>
        if quoted then do
          let shown ← (reportedArguments class_ arguments).mapM show_
          .ok (class_.name.toList ++ bracketed "(" shown ")")
        else
          phrasesText (w.textWithin fuel inside false) show_ (errorPhrases class_ arguments detail)
      | .fault fault _ =>
        if quoted then
          .ok (fault.cause.kind.toList ++ '(' :: Text.quoted fault.cause.message.toList ++ [')'])
        else .ok fault.cause.message.toList

/-- The text a value is shown as. -/
def World.shown (w : World) (value : Value) : Except TextError (List Char) :=
  w.textWithin w.room [] true value

/-- The text a value is written as. -/
def World.written (w : World) (value : Value) : Except TextError (List Char) :=
  w.textWithin w.room [] false value

/-- The text that stands for a value in the output: nothing for no value, `true` and `false` in
lower case. -/
def World.outputText (w : World) : Value → Except TextError (List Char)
  | .none => .ok []
  | .bool b => .ok (if b then "true".toList else "false".toList)
  | value => w.written value

def World.plainText (w : World) (class_ : ErrorClass) (arguments : List Value)
    (detail : Option Detail := none) : Except TextError (List Char) :=
  phrasesText w.written w.shown (errorPhrases class_ arguments detail)

def World.problemText (w : World) : Problem → Except TextError String
  | .fault fault _ => .ok fault.cause.message
  | .plain class_ arguments detail => (w.plainText class_ arguments detail).map String.ofList

def tooManyDigitsMessage : String :=
  "Exceeds the limit (4300 digits) for integer string conversion; " ++
    "use sys.set_int_max_str_digits() to increase the limit"

/-- A text, or the error of a value without one. A run that needs a text that is not known is given
up. -/
def orRaise {α : Type} : Except TextError α → Run α
  | .ok a => pure a
  | .error .tooManyDigits => raiseWith .badValue tooManyDigitsMessage
  | .error .tooDeep => raiseTooDeep " while getting the repr of an object"
  | .error .unknown => giveUp

def shownText (value : Value) : Run (List Char) := do
  orRaise ((← get).shown value)

def writtenText (value : Value) : Run (List Char) := do
  orRaise ((← get).written value)

end Codeweave.Script
