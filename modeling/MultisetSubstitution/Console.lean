import MultisetSubstitution.Console.Command
import MultisetSubstitution.Engine.Run

/-! The console: a state machine that answers lines, which are commands or multisets. -/

set_option autoImplicit false

namespace MultisetSubstitution

structure Console where
  engine : Engine
  tracing : Bool := false
  running : Bool := true
  failures : Nat := 0

namespace Console

def helpText : String :=
  "TRANSMUTE REPL Commands:\n" ++
  "  :help              Show this help\n" ++
  "  :vocab             List attributes with their ids\n" ++
  "  :rules             List loaded rules in priority order\n" ++
  "  :verbose on|off    Toggle verbose diagnostics\n" ++
  "  :trace on|off      Toggle tracing\n" ++
  "  :quit              Exit\n" ++
  "\n" ++
  "Input:\n" ++
  "  water, fire, fire  Rewrite a multiset (repeat a name for multiplicity)\n"

def numbered (mark : String) (items : List String) : String :=
  "\n".intercalate (items.zipIdx.map fun (item, number) => toString number ++ mark ++ item)

def vocabularyText (vocabulary : Vocabulary) : String :=
  match vocabulary.names with
  | [] => "No attributes loaded"
  | names => numbered ": " names

def rulesText (rules : RuleSet) : String :=
  match rules.descriptions with
  | [] => "No rules loaded"
  | descriptions => numbered ". " descriptions

def settingText (setting : String) (enabled : Bool) : String :=
  setting ++ if enabled then " enabled" else " disabled"

def obey (console : Console) : Command → Option String × Console
  | .help => (some helpText, console)
  | .quit => (none, { console with running := false })
  | .vocabulary => (some (vocabularyText console.engine.vocabulary), console)
  | .rules => (some (rulesText console.engine.rules), console)
  | .verbose switch =>
    let verbose := switch.set console.engine.verbose
    (some (settingText "Verbose" verbose),
      { console with engine := { console.engine with verbose } })
  | .trace switch =>
    let tracing := switch.set console.tracing
    (some (settingText "Tracing" tracing), { console with tracing })
  | .unknown word =>
    (some ("Unknown command: " ++ word ++ ". Type :help for help."), console)
  | .missing => (some "Unknown command. Type :help for help.", console)

def numbers (console : Console) : Command → List Int
  | .rules => console.engine.rules.numbers
  | _ => []

def carryOut (console : Console) (command : Command) :
    Reporting Obstacle (Option String × Console) :=
  Reporting.write (console.numbers command) (console.obey command)

/-- The text shown for an outcome: below a trace that has steps stands its chain of rules. -/
def outcomeText (outcome : Outcome) : String :=
  match outcome.trace? with
  | some trace => if trace.nonempty then outcome.text ++ "\n" ++ trace.chain else outcome.text
  | none => outcome.text

def run (console : Console) (line : String) :
    Reporting Obstacle (Option String × Console) := do
  let outcome ← console.engine.execute (Text.commaPieces line) console.tracing
  let failures := if outcome.settled then console.failures else console.failures + 1
  return (some (outcomeText outcome), { console with failures })

def isCommand (line : String) : Bool := Text.beginsWith (Text.trim line) ":"

def answer (console : Console) (line : String) : Reporting Obstacle (Option String × Console) :=
  if Text.isSkipped line then pure (none, console)
  else if isCommand line then console.carryOut (Command.ofText (Text.trim line))
  else console.run line

end Console

end MultisetSubstitution
