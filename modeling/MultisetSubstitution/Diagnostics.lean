import MultisetSubstitution.Text.Numeral

/-! Diagnostics: records, the sinks that take them, and computations that report as they go. -/

set_option autoImplicit false

namespace MultisetSubstitution

inductive Level where
  | log
  | warn
  deriving DecidableEq, Repr

structure Record where
  level : Level
  message : String
  deriving DecidableEq, Repr

/-- Where records go. The refusing sink takes none, and reporting to it stops a computation. -/
inductive Sink where
  | discarding
  | collecting
  | console (mark : String)
  | refusing
  deriving DecidableEq, Repr

structure Output where
  records : Array Record := #[]
  out : String := ""
  err : String := ""
  deriving DecidableEq

def defaultMark : String := "[transmute] "

def Sink.Accepting (sink : Sink) : Prop := sink ≠ .refusing

instance (sink : Sink) : Decidable sink.Accepting := inferInstanceAs (Decidable (sink ≠ .refusing))

def Sink.deliver (sink : Sink) (record : Record) (output : Output) : Output :=
  match sink with
  | .discarding | .refusing => output
  | .collecting => { output with records := output.records.push record }
  | .console mark =>
    match record.level with
    | .log => { output with out := output.out ++ mark ++ record.message ++ "\n" }
    | .warn => { output with err := output.err ++ mark ++ "Warning: " ++ record.message ++ "\n" }

/-- What is around a computation: the sink it reports to, and how many digits the numbers in its
texts may have, if that is limited. -/
structure Surroundings where
  sink : Sink
  digits : Option Nat := some Text.digitLimit
  deriving DecidableEq, Repr

inductive Obstacle where
  | refusingSink
  | longNumber
  deriving DecidableEq, Repr

def Obstacle.message : Obstacle → String
  | .refusingSink => "the sink takes no records"
  | .longNumber => "a number is too long to be written"

/-- A computation that may stop with a failure. Its output stands whether it stops or not. -/
abbrev Reporting (ε α : Type) := ReaderT Surroundings (ExceptT ε (StateM Output)) α

namespace Reporting

def runWith {ε α : Type} (action : Reporting ε α) (around : Surroundings) (output : Output) :
    Except ε α × Output :=
  action around output

def report (record : Record) : Reporting Obstacle Unit := fun around => ExceptT.mk fun output =>
  if around.sink.Accepting then (.ok (), around.sink.deliver record output)
  else (.error .refusingSink, output)

def log (message : String) : Reporting Obstacle Unit := report ⟨.log, message⟩

def warn (message : String) : Reporting Obstacle Unit := report ⟨.warn, message⟩

/-- A text with numbers in it. There is none if one of them is too long. -/
def write {α : Type} (numbers : List Int) (text : α) : Reporting Obstacle α := fun around =>
  if numbers.all (Text.fits around.digits) then pure text else throw .longNumber

def print {ε : Type} (text : String) : Reporting ε Unit :=
  modifyThe Output fun output => { output with out := output.out ++ text }

def printError {ε : Type} (text : String) : Reporting ε Unit :=
  modifyThe Output fun output => { output with err := output.err ++ text }

def mapFailure {ε δ α : Type} (change : ε → δ) (action : Reporting ε α) : Reporting δ α :=
  fun around => ExceptT.adapt change (action around)

@[simp] theorem runWith_pure {ε α : Type} (value : α) (around : Surroundings) (output : Output) :
    (pure value : Reporting ε α).runWith around output = (.ok value, output) := rfl

theorem runWith_bind {ε α β : Type} (action : Reporting ε α) (next : α → Reporting ε β)
    (around : Surroundings) (output : Output) :
    (action >>= next).runWith around output =
      match action.runWith around output with
      | (.ok value, after) => (next value).runWith around after
      | (.error fault, after) => (.error fault, after) := by
  simp only [runWith, bind, ReaderT.bind, ExceptT.bind, ExceptT.mk, StateT.bind]
  cases action around output with
  | mk result after => cases result <;> rfl

@[simp] theorem runWith_report {around : Surroundings} (accepting : around.sink.Accepting)
    (record : Record) (output : Output) :
    (report record).runWith around output = (.ok (), around.sink.deliver record output) := by
  simp [runWith, report, ExceptT.mk, accepting]

theorem runWith_write_eq {α : Type} (numbers : List Int) (text : α) (around : Surroundings)
    (output : Output) :
    (write numbers text).runWith around output =
      (if numbers.all (Text.fits around.digits) then .ok text else .error .longNumber, output) := by
  simp only [runWith, write]
  split <;> rfl

theorem runWith_write {α : Type} {numbers : List Int} {around : Surroundings}
    (fits : numbers.all (Text.fits around.digits) = true) (text : α) (output : Output) :
    (write numbers text).runWith around output = (.ok text, output) := by
  rw [runWith_write_eq, if_pos fits]

end Reporting

end MultisetSubstitution
