import Codeweave.Fault
import Codeweave.Script.ErrorClass

/-!
What ends an operation as a whole, as opposed to a fault that is held against one directive.
-/

namespace Codeweave

inductive FileError where
  | notFound
  | isDirectory
  | notDirectory
  | undecodable
  /-- a name or a whole path has more bytes than a name or a path may have -/
  | tooLong
  | nullCharacter
deriving Repr, DecidableEq

def FileError.name : FileError → String
  | notFound => "FileNotFoundError"
  | isDirectory => "IsADirectoryError"
  | notDirectory => "NotADirectoryError"
  | undecodable => "UnicodeDecodeError"
  | tooLong => "OSError"
  | nullCharacter => "ValueError"

/-- What ends an operation before its result is there. -/
inductive Escape where
  /-- no span of the source can be trusted -/
  | fault (fault : Fault)
  /-- an error that nothing handles -/
  | raised (errorClass : Script.ErrorClass) (message : String)
  | file (error : FileError)
  /-- a script goes on longer than it is followed -/
  | abandoned
deriving Repr, DecidableEq

def Escape.ofFile : FileError → Escape
  | .nullCharacter => .raised .badValue "embedded null byte"
  | error => .file error

end Codeweave
