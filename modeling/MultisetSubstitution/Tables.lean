import MultisetSubstitution.Engine.Run
import MultisetSubstitution.Files
import MultisetSubstitution.Files.Path
import MultisetSubstitution.RuleSet
import MultisetSubstitution.Vocabulary.Loading

/-! Loading vocabularies, rule sets and engines from files. -/

set_option autoImplicit false

namespace MultisetSubstitution

abbrev FileReader := Path → Except Files.Fault ByteArray

inductive LoadFault where
  | unreadable (fault : Files.Fault)
  | obstacle (obstacle : Obstacle)
  | engine (fault : Engine.Fault)
  deriving DecidableEq, Repr

def FileReader.text (reader : FileReader) (path : String) : Except Files.Fault String :=
  (reader (Path.ofText path)).bind Files.textOfBytes

def FileReader.load (reader : FileReader) (path : String) : Reporting LoadFault String :=
  fun _ => ExceptT.mk fun output => ((reader.text path).mapError .unreadable, output)

def Vocabulary.ofFile (reader : FileReader) (path : String) : Reporting LoadFault Vocabulary := do
  let text ← reader.load path
  Reporting.mapFailure .obstacle (Vocabulary.ofText text)

def RuleSet.ofFile (reader : FileReader) (vocabulary : Vocabulary) (path : String) :
    Reporting LoadFault RuleSet := do
  let text ← reader.load path
  Reporting.mapFailure .obstacle (RuleSet.ofText vocabulary text)

/-- The vocabulary is read before the rules, and both are logged at the end if asked for. -/
def Engine.ofFiles (reader : FileReader) (attributes rules : String) (dump verbose : Bool)
    (maxIterations : Int) : Reporting LoadFault Engine := do
  let vocabulary ← Vocabulary.ofFile reader attributes
  let rules ← RuleSet.ofFile reader vocabulary rules
  match Engine.ofTables vocabulary rules verbose maxIterations with
  | .error fault => throw (.engine fault)
  | .ok engine =>
    if dump then
      Reporting.mapFailure .obstacle engine.logTables
    return engine

end MultisetSubstitution
