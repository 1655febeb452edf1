import MultisetSubstitution.CommandLine
import MultisetSubstitution.Console
import MultisetSubstitution.Tables

/-! The program: a request is a single multiset, a filter over input lines, or a conversation. -/

set_option autoImplicit false

namespace MultisetSubstitution

inductive Event where
  | line (text : String)
  | interrupt
  | endOfInput
  deriving DecidableEq, Repr

inductive Escape where
  | obstacle (obstacle : Obstacle)
  | nulInPath
  | noRulesPath
  | noLimit
  | engine (fault : Engine.Fault)
  | listing (fault : Vocabulary.ListingFault)
  deriving DecidableEq, Repr

def Escape.message : Escape → String
  | .obstacle cause => cause.message
  | .nulInPath => Files.Fault.nulInPath.message
  | .noRulesPath => "the rules have no path"
  | .noLimit => "the limit on passes is no number"
  | .engine fault => fault.message
  | .listing fault => fault.message

inductive Phase where
  | finished (status : Nat)
  | filtering (engine : Engine) (tracing : Bool) (failed : Bool)
  | conversing (console : Console)

namespace Program

def reporting {α : Type} (action : Reporting Obstacle α) : Reporting Escape α :=
  Reporting.mapFailure .obstacle action

def statusOf (failed : Bool) : Nat := if failed then 1 else 0

def runAndPrint (engine : Engine) (tracing : Bool) (tokens : Tokens) :
    Reporting Escape Bool := do
  let outcome ← reporting (engine.execute tokens.toList tracing)
  Reporting.print ("\n" ++ outcome.text ++ "\n")
  if let some trace := outcome.trace? then
    if trace.nonempty then
      match trace.text (← read).digits .verbose with
      | .ok text => Reporting.print (text ++ "\n")
      | .error fault => throw (.listing fault)
  Reporting.print "\n"
  return !outcome.settled

def prompt : String := "transmute> "

def greeting (engine : Engine) : String :=
  "TRANSMUTE - multiset rewriting\n" ++
  toString engine.vocabulary.size ++ " attributes, " ++ toString engine.rules.size ++ " rules\n" ++
  "Type :help for help, :quit to exit\n\n"

/-- The tables a request names; nothing is known of the rules without a path. -/
def loadTables (reader : FileReader) (request : CommandLine.Request) (maxIterations : Int) :
    Reporting LoadFault (Option Engine) :=
  match request.attributes, request.rules with
  | some attributes, some rules =>
    some <$> Engine.ofFiles reader attributes rules request.verbose request.verbose
      maxIterations
  | some attributes, none => do
    let _ ← Vocabulary.ofFile reader attributes
    return none
  | none, _ => pure none

def load (reader : FileReader) (request : CommandLine.Request) (maxIterations : Int) :
    Reporting Escape (Option Engine) := fun around => ExceptT.mk fun output =>
  match (loadTables reader request maxIterations).runWith around output with
  | (.ok (some engine), output) => (.ok (some engine), output)
  | (.ok none, output) => (.error .noRulesPath, output)
  | (.error (.unreadable .nulInPath), output) => (.error .nulInPath, output)
  | (.error (.unreadable fault), output) =>
    let message := "Error loading tables: " ++ fault.message ++ "\n"
    (.ok none, { output with err := output.err ++ message })
  | (.error (.engine fault), output) => (.error (.engine fault), output)
  | (.error (.obstacle obstacle), output) => (.error (.obstacle obstacle), output)

def start (reader : FileReader) (terminal : Bool) (request : CommandLine.Request) :
    Reporting Escape Phase := do
  match request.maxIterations with
  | none => throw .noLimit
  | some maxIterations =>
    match ← load reader request maxIterations with
    | none => return .finished 1
    | some engine =>
      match request.input with
      | some tokens => return .finished (statusOf (← runAndPrint engine request.trace tokens))
      | none =>
        if request.interactive || terminal then
          Reporting.print (greeting engine ++ prompt)
          return .conversing { engine, tracing := request.trace }
        else return .filtering engine request.trace false

def converse (console : Console) (line : String) : Reporting Escape Phase := do
  let (answer, console) ← reporting (console.answer line)
  if let some text := answer then
    if text != "" then
      Reporting.print (text ++ "\n")
  if console.running then
    Reporting.print prompt
    return .conversing console
  else return .finished (statusOf (console.failures != 0))

def dropLineFeed (line : String) : String :=
  match line.toList.reverse with
  | '\n' :: rest => .ofList rest.reverse
  | _ => line

/-- Go on with an event. An interrupt makes a console ask again, and breaks nothing else off. -/
def feed (phase : Phase) (event : Event) : Reporting Escape Phase :=
  match phase, event with
  | .finished status, _ => pure (.finished status)
  | .filtering engine tracing failed, .line text =>
    if Text.isSkipped text then pure (.filtering engine tracing failed)
    else do
      let newlyFailed ← runAndPrint engine tracing (.joined (Text.dropLineFeeds text))
      return .filtering engine tracing (failed || newlyFailed)
  | .filtering _ _ failed, .endOfInput => pure (.finished (statusOf failed))
  | .filtering engine tracing failed, .interrupt => pure (.filtering engine tracing failed)
  | .conversing console, .line text => converse console (dropLineFeed text)
  | .conversing console, .endOfInput => do
    Reporting.print "\n"
    return .finished (statusOf (console.failures != 0))
  | .conversing console, .interrupt => do
    Reporting.print ("\n" ++ prompt)
    return .conversing console

def feedAll (phase : Phase) : List Event → Reporting Escape Phase
  | [] => feed phase .endOfInput
  | event :: rest => do
    match ← feed phase event with
    | .finished status => return .finished status
    | phase => feedAll phase rest

structure Exit where
  status : Nat
  early : Bool
  deriving DecidableEq, Repr

def leave (reason : CommandLine.Leave) : Reporting Escape Exit :=
  match reason with
  | .help => do
    Reporting.print CommandLine.helpText
    return ⟨0, true⟩
  | .version => do
    Reporting.print (CommandLine.programName ++ " " ++ CommandLine.version ++ "\n")
    return ⟨0, true⟩
  | .usage fault => do
    Reporting.printError (CommandLine.usageText ++ CommandLine.programName ++ ": error: " ++
      fault.message ++ "\n")
    return ⟨2, true⟩

def run (reader : FileReader) (terminal : Bool) (arguments : List String)
    (events : List Event) : Reporting Escape Exit :=
  match CommandLine.parse arguments with
  | .error reason => leave reason
  | .ok request => do
    match ← start reader terminal request with
    | .finished status => return ⟨status, false⟩
    | phase =>
      match ← feedAll phase events with
      | .finished status => return ⟨status, false⟩
      | _ => return ⟨1, false⟩

end Program

end MultisetSubstitution
