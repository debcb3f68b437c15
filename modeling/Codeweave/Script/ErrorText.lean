import Codeweave.Decimal.Written
import Codeweave.Script.Arguments

/-!
What errors say. Most errors say what their arguments are written as; errors of the operating
system, of the parser, of conversions and groups of errors say it in words of their own. A text
that an error does not use is never asked for.
-/

namespace Codeweave.Script

/-- A part of what an error says: a text as it stands, or the text that a value is written or shown
as. -/
inductive Phrase where
  | fixed (text : List Char)
  | written (value : Value)
  | shown (value : Value)

def tuplePhrases : List Value → List Phrase
  | [v] => [.fixed ['('], .shown v, .fixed [',', ')']]
  | vs => .fixed ['('] :: (vs.map Phrase.shown).intersperse (.fixed [',', ' ']) ++ [.fixed [')']]

/-- Are the arguments those of an error of the operating system: a number, what it means, and
perhaps up to two names of files? -/
def isSystemReport (class_ : ErrorClass) (arguments : List Value) : Bool :=
  class_.isBelow .system && 2 ≤ arguments.length && arguments.length ≤ 5

/-- The files that the arguments of an error of the operating system name: none, one or two. -/
def namedFiles (class_ : ErrorClass) (arguments : List Value) : List Value :=
  match arguments.drop 2 with
  | [] | .none :: _ => []
  | file :: more =>
    if class_ == .blocking && file.isNumeric then []
    else
      match more.drop 1 with
      | [] | .none :: _ => [file]
      | second :: _ => [file, second]

/-- The arguments that an error tells of; names of files are not among them. -/
def reportedArguments (class_ : ErrorClass) (arguments : List Value) : List Value :=
  if isSystemReport class_ arguments && !(namedFiles class_ arguments).isEmpty then arguments.take 2
  else arguments

def systemPhrases (class_ : ErrorClass) (arguments : List Value) : List Phrase :=
  let report := (arguments.take 2).map Phrase.written
  let files := (namedFiles class_ arguments).map Phrase.shown
  .fixed "[Errno ".toList :: report.intersperse (.fixed [']', ' ']) ++
    if files.isEmpty then [] else .fixed [':', ' '] :: files.intersperse (.fixed " -> ".toList)

/-- Can a number be a size or a position? -/
def fitsIndex (n : Int) : Bool :=
  -(indexBound : Int) ≤ n && n < indexBound

/-- The file and the line of an error of the parser, as far as they are known. -/
def placeText (parts : List Value) : List Char :=
  let file := match parts with
    | .text file :: _ => [(file.toList.reverse.takeWhile (· != '/')).reverse]
    | _ => []
  let line := match parts with
    | _ :: .integer line :: _ =>
      ["line ".toList ++ (toString (if fitsIndex line then line else -1)).toList]
    | _ => []
  match file ++ line with
  | [] => []
  | known => " (".toList ++ List.intercalate [',', ' '] known ++ [')']

def parserPhrases (arguments : List Value) (detail : Option Detail) : List Phrase :=
  let message := match arguments with
    | [] => .fixed "None".toList
    | v :: _ => .written v
  match detail with
  | some (.place parts) => [message, .fixed (placeText parts)]
  | _ => [message]

def escapedCharacter (c : Char) : String :=
  let digits (width : Nat) : String :=
    String.ofList (Decimal.padZeros width (Nat.toDigits 16 c.toNat))
  if c.toNat < 0x100 then "\\x" ++ digits 2
  else if c.toNat < 0x10000 then "\\u" ++ digits 4
  else "\\U" ++ digits 8

def unconvertible (action text reason : String) (start stop : Int) : String :=
  match if start < 0 then none else (text.toList)[start.toNat]?, stop == start + 1 with
  | some c, true =>
    "can't " ++ action ++ " character '" ++ escapedCharacter c ++ "' in position " ++
      toString start ++ ": " ++ reason
  | _, _ =>
    "can't " ++ action ++ " characters in position " ++ toString start ++ "-" ++
      toString (stop - 1) ++ ": " ++ reason

/-- What an error says, phrase by phrase. -/
def errorPhrases (class_ : ErrorClass) (arguments : List Value) (detail : Option Detail) :
    List Phrase :=
  if isSystemReport class_ arguments then systemPhrases class_ arguments
  else if class_.isBelow .malformed then parserPhrases arguments detail
  else
    match class_, arguments, detail with
    | .unencodable, [.text codec, .text text, start, stop, .text reason], _ =>
      [.fixed ("'" ++ codec ++ "' codec " ++ unconvertible "encode" text reason
        (start.integer?.getD 0) (stop.integer?.getD 0)).toList]
    | .untranslatable, [.text text, start, stop, .text reason], _ =>
      [.fixed (unconvertible "translate" text reason
        (start.integer?.getD 0) (stop.integer?.getD 0)).toList]
    | _, message :: _, some (.members errors) =>
      [.written message, .fixed (" (" ++ counted errors.length "sub-exception" ++ ")").toList]
    | .missingKey, [key], _ => [.shown key]
    | _, [], _ => []
    | _, [v], _ => [.written v]
    | _, vs, _ => tuplePhrases vs

end Codeweave.Script
