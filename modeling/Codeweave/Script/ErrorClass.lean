/-!
Classes of the errors that scripts raise and handle. Every class but the first has a parent, and a
handler of a class takes the errors of all classes below it.
-/

namespace Codeweave.Script

inductive ErrorClass where
  | base
  | baseGroup
  | group
  | ordinary
  | arithmetic
  | floatingPoint
  | overflow
  | zeroDivision
  | assertion
  | missingMember
  | buffer
  | endOfFile
  | importing
  | moduleNotFound
  | lookup
  | outOfRange
  | missingKey
  | memory
  | undefinedName
  | unboundLocal
  | system
  | blocking
  | childProcess
  | connection
  | brokenPipe
  | connectionAborted
  | connectionRefused
  | connectionReset
  | fileExists
  | fileNotFound
  | interrupted
  | isDirectory
  | notDirectory
  | permission
  | processLookup
  | timeout
  | reference
  | runtime
  | notImplemented
  | recursion
  | stopAsyncIteration
  | stopIteration
  | malformed
  | indentation
  | tabs
  /-- what segments that are not as they should be raise; scripts cannot name it -/
  | irregular
  | internal
  | wrongType
  | badValue
  | unicode
  | undecodable
  | unencodable
  | untranslatable
  | warning
  | bytesWarning
  | deprecationWarning
  | encodingWarning
  | futureWarning
  | importWarning
  | pendingDeprecationWarning
  | resourceWarning
  | runtimeWarning
  | syntaxWarning
  | unicodeWarning
  | userWarning
  | generatorExit
  | interrupt
  | exit
deriving Repr, DecidableEq

namespace ErrorClass

/-- All classes, each with its name and its parent. -/
def table : List (ErrorClass × String × ErrorClass) :=
  [(.base, "BaseException", .base), (.baseGroup, "BaseExceptionGroup", .base),
   (.group, "ExceptionGroup", .ordinary), (.ordinary, "Exception", .base),
   (.arithmetic, "ArithmeticError", .ordinary), (.floatingPoint, "FloatingPointError", .arithmetic),
   (.overflow, "OverflowError", .arithmetic), (.zeroDivision, "ZeroDivisionError", .arithmetic),
   (.assertion, "AssertionError", .ordinary), (.missingMember, "AttributeError", .ordinary),
   (.buffer, "BufferError", .ordinary), (.endOfFile, "EOFError", .ordinary),
   (.importing, "ImportError", .ordinary), (.moduleNotFound, "ModuleNotFoundError", .importing),
   (.lookup, "LookupError", .ordinary), (.outOfRange, "IndexError", .lookup),
   (.missingKey, "KeyError", .lookup), (.memory, "MemoryError", .ordinary),
   (.undefinedName, "NameError", .ordinary), (.unboundLocal, "UnboundLocalError", .undefinedName),
   (.system, "OSError", .ordinary), (.blocking, "BlockingIOError", .system),
   (.childProcess, "ChildProcessError", .system), (.connection, "ConnectionError", .system),
   (.brokenPipe, "BrokenPipeError", .connection),
   (.connectionAborted, "ConnectionAbortedError", .connection),
   (.connectionRefused, "ConnectionRefusedError", .connection),
   (.connectionReset, "ConnectionResetError", .connection),
   (.fileExists, "FileExistsError", .system), (.fileNotFound, "FileNotFoundError", .system),
   (.interrupted, "InterruptedError", .system), (.isDirectory, "IsADirectoryError", .system),
   (.notDirectory, "NotADirectoryError", .system), (.permission, "PermissionError", .system),
   (.processLookup, "ProcessLookupError", .system), (.timeout, "TimeoutError", .system),
   (.reference, "ReferenceError", .ordinary), (.runtime, "RuntimeError", .ordinary),
   (.notImplemented, "NotImplementedError", .runtime), (.recursion, "RecursionError", .runtime),
   (.stopAsyncIteration, "StopAsyncIteration", .ordinary),
   (.stopIteration, "StopIteration", .ordinary), (.malformed, "SyntaxError", .ordinary),
   (.indentation, "IndentationError", .malformed), (.tabs, "TabError", .indentation),
   (.irregular, "CSTValidationError", .malformed),
   (.internal, "SystemError", .ordinary), (.wrongType, "TypeError", .ordinary),
   (.badValue, "ValueError", .ordinary), (.unicode, "UnicodeError", .badValue),
   (.undecodable, "UnicodeDecodeError", .unicode), (.unencodable, "UnicodeEncodeError", .unicode),
   (.untranslatable, "UnicodeTranslateError", .unicode), (.warning, "Warning", .ordinary),
   (.bytesWarning, "BytesWarning", .warning), (.deprecationWarning, "DeprecationWarning", .warning),
   (.encodingWarning, "EncodingWarning", .warning), (.futureWarning, "FutureWarning", .warning),
   (.importWarning, "ImportWarning", .warning),
   (.pendingDeprecationWarning, "PendingDeprecationWarning", .warning),
   (.resourceWarning, "ResourceWarning", .warning), (.runtimeWarning, "RuntimeWarning", .warning),
   (.syntaxWarning, "SyntaxWarning", .warning), (.unicodeWarning, "UnicodeWarning", .warning),
   (.userWarning, "UserWarning", .warning), (.generatorExit, "GeneratorExit", .base),
   (.interrupt, "KeyboardInterrupt", .base), (.exit, "SystemExit", .base)]

def aliases : List (String × ErrorClass) :=
  [("IOError", .system), ("EnvironmentError", .system)]

/-- The classes of the errors of the operating system with a number of their own. -/
def numbers : List (Int × ErrorClass) :=
  [(1, .permission), (2, .fileNotFound), (3, .processLookup), (4, .interrupted),
   (10, .childProcess), (11, .blocking), (13, .permission), (17, .fileExists), (20, .notDirectory),
   (21, .isDirectory), (32, .brokenPipe), (103, .connectionAborted), (104, .connectionReset),
   (108, .brokenPipe), (110, .timeout), (111, .connectionRefused), (114, .blocking),
   (115, .blocking)]

def name (c : ErrorClass) : String :=
  ((table.lookup c).map Prod.fst).getD ""

/-- The class above a class; the topmost is its own parent. -/
def parent (c : ErrorClass) : ErrorClass :=
  ((table.lookup c).map Prod.snd).getD .base

def ofName? (s : String) : Option ErrorClass :=
  match table.find? fun (c, n, _) => n == s && c != .irregular with
  | some (c, _) => some c
  | none => aliases.lookup s

/-- Is `c` the class `d` or below it, at most the given number of steps? -/
def isBelowWithin : Nat → ErrorClass → ErrorClass → Bool
  | 0, c, d => c == d
  | steps + 1, c, d => c == d || (c != .base && isBelowWithin steps c.parent d)

/-- Is `c` the class `d` or below it? No class is more than five steps below the topmost. -/
def isBelow (c d : ErrorClass) : Bool :=
  isBelowWithin 5 c d

end ErrorClass

end Codeweave.Script
