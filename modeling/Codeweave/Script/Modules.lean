import Codeweave.Script.Value

/-!
Modules that a script can import: those of the standard library that are there in every installation
and do nothing but define names. Of their members only some fixed texts and numbers are known.
-/

namespace Codeweave.Script

def knownModules : List String :=
  ["abc", "ast", "base64", "bisect", "builtins", "calendar", "collections", "collections.abc",
   "contextlib", "copy", "csv", "dataclasses", "datetime", "decimal", "difflib", "enum", "fnmatch",
   "fractions", "functools", "hashlib", "heapq", "html", "inspect", "io", "itertools", "json",
   "keyword", "logging", "math", "numbers", "operator", "os", "os.path", "pathlib", "pprint",
   "random", "re", "shlex", "statistics", "string", "struct", "sys", "textwrap", "time", "types",
   "typing", "unicodedata", "uuid", "warnings", "zlib"]

/-- Modules that are known to themselves by another name. -/
def renamedModules : List String :=
  ["os.path"]

def lowerLetters : String := "abcdefghijklmnopqrstuvwxyz"

def upperLetters : String := "ABCDEFGHIJKLMNOPQRSTUVWXYZ"

def decimalDigits : String := "0123456789"

def punctuationMarks : String := "!\"#$%&'()*+,-./:;<=>?@[\\]^_" ++ "\x60\x7b|\x7d~"

def blankMarks : String := " \t\n\r\x0b\x0c"

/-- What is known of the members of a module. -/
def moduleMembers (name : String) : List (String × Value) :=
  if name == "string" then
    [("ascii_letters", .text (lowerLetters ++ upperLetters)),
     ("ascii_lowercase", .text lowerLetters), ("ascii_uppercase", .text upperLetters),
     ("digits", .text decimalDigits),
     ("hexdigits", .text (decimalDigits ++ "abcdefABCDEF")), ("octdigits", .text "01234567"),
     ("punctuation", .text punctuationMarks), ("whitespace", .text blankMarks),
     ("printable",
      .text (decimalDigits ++ lowerLetters ++ upperLetters ++ punctuationMarks ++ blankMarks))]
  else if name == "math" then
    [("pi", .float 3.141592653589793), ("e", .float 2.718281828459045),
     ("tau", .float 6.283185307179586), ("inf", .float (1.0 / 0.0))]
  else []

end Codeweave.Script
