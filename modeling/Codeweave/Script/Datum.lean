/-!
Data that a program hands to scripts and gets back from them, free of any memory of their own: plain
values, and procedures that write to the output before they give a value back.
-/

namespace Codeweave.Script

mutual

inductive Datum where
  | none
  | bool (value : Bool)
  | integer (value : Int)
  | float (value : Float)
  | text (value : String)
  | list (items : List Datum)
  | tuple (items : List Datum)
  | varargs (items : List Datum)
  | dict (entries : List (String × Datum))
  /-- does its steps on the current output, then ends -/
  | procedure (steps : List Step) (ending : Ending)
  /-- a value that is known only by how it is shown -/
  | shown (text : String)

inductive Step where
  | write (text : String)
  | writeText (text : String)
  | newline
  | indent
  | unindent
  | content
  | finish
  | currentLine
  | emit (value : Datum)

inductive Ending where
  | returns (value : Datum)
  | raises (errorClass : String) (arguments : List Datum)

end

end Codeweave.Script
