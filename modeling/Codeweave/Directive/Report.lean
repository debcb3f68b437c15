import Codeweave.Directive.Splice

/-!
Regeneration of all directives of a source. A source that cannot be scanned is left alone; a
directive that fails keeps the region it has.
-/

namespace Codeweave.Directive

structure Report where
  path : String
  source : List Char
  text : List Char
  results : List (Block × Outcome)

namespace Report

def changed (r : Report) : Bool :=
  r.text != r.source

def ok (r : Report) : Bool :=
  r.results.all fun (_, outcome) => outcome.ok

end Report

def regenerateAll (config : Config) (path : String) :
    List Block → Except Escape (List (Block × Outcome)) × List Remark
  | [] => (.ok [], [])
  | b :: rest =>
    match regenerate config path b.toDirective with
    | (.error escape, said) => (.error escape, said)
    | (.ok outcome, said) =>
      let (results, more) := regenerateAll config path rest
      (results.map ((b, outcome) :: ·), said ++ more)

/-- The report on a source whose directives were regenerated. There is none when the number for a
closer cannot be written. -/
def reportOn (config : Config) (path : String) (source : List Char)
    (results : List (Block × Outcome)) : Except Escape Report :=
  if results.any fun (b, _) => countTooLong config b then .error (textEscape .tooManyDigits)
  else
    .ok
      { path := Fault.pathOrMemory path
        source := source
        text := splice config source (results.map fun (b, outcome) => (b, outcome.artifact?))
        results := results }

/-- Regenerates all directives of a source. -/
def regenerateSource (config : Config) (path : String) (source : List Char) :
    Except Escape Report × List Remark :=
  match scan source with
  | .error broken => (.error broken.escape, [])
  | .ok blocks =>
    let (results, said) := regenerateAll config path blocks
    (results.bind (reportOn config path source), found blocks :: said)

end Codeweave.Directive
