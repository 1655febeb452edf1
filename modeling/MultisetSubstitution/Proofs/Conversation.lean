import MultisetSubstitution.Console
import MultisetSubstitution.Proofs.Lines
import MultisetSubstitution.Proofs.Observation

/-! Conversations with a console. What a line does to a console is read off its words; what it is
answered depends on the tables, the limit on passes and the tracing, and on being verbose only so
far as that writes counts which may be too long to be written. -/

set_option autoImplicit false

namespace MultisetSubstitution

namespace Reporting

variable {α : Type} {value : α}

theorem eq_of_elim {obstacle? : Option Obstacle} {result : α}
    (returned : obstacle?.elim (.ok value) .error = Except.ok result) : result = value := by
  cases obstacle? with
  | none => exact (Except.ok.inj returned).symm
  | some obstacle => exact nomatch returned

theorem elim_eq_elim {first second : Option Obstacle} :
    first.elim (.ok value) .error = second.elim (Except.ok value) .error ↔ first = second := by
  cases first <;> cases second <;> simp

end Reporting

namespace Engine

variable {engine : Engine} {tokens : List String}

theorem firstObstacle?_effects {around : Surroundings} (accepting : around.sink.Accepting) :
    Effect.firstObstacle? around (engine.effects tokens) =
      engine.stoppedBy? around.digits tokens := by
  have same : Effect.obstacle? around = Effect.obstacle? ⟨.discarding, around.digits⟩ :=
    funext fun effect => Effect.obstacle?_of_accepting accepting effect
  rw [stoppedBy?, Effect.firstObstacle?, same, Effect.firstObstacle?]

theorem outcomeIn_of_accepting {around : Surroundings} (accepting : around.sink.Accepting)
    (traced : Bool) (output : Output) :
    engine.outcomeIn tokens traced around output =
      (engine.stoppedBy? around.digits tokens).elim (.ok (engine.outcome tokens traced)) .error :=
  congrArg Prod.fst (execute_accepting accepting around.digits tokens traced output)

/-- To be verbose or not makes no difference to what stops a run, unless the run returns when it is
quiet and comes to a count that is too long to be written. -/
theorem stoppedBy?_withVerbose_eq_iff {digits : Option Nat} {first second : Bool} :
    (engine.withVerbose first).stoppedBy? digits tokens =
        (engine.withVerbose second).stoppedBy? digits tokens ↔
      first = second ∨ ((engine.withVerbose false).stoppedBy? digits tokens = none →
        (engine.traceOf tokens).Fits digits) := by
  constructor
  · intro same
    by_contra neither
    obtain ⟨differ, unwritten⟩ := not_or.mp neither
    obtain ⟨free, long⟩ := Classical.not_imp.mp unwritten
    -- One of the two is the quiet run, which returns, so the verbose one does as well.
    have verbose : (engine.withVerbose true).stoppedBy? digits tokens = none := by
      cases first <;> cases second
      · exact absurd rfl differ
      · exact same.symm.trans free
      · exact same.trans free
      · exact absurd rfl differ
    exact long ((engine.withVerbose true).fits_of_verbose rfl verbose)
  · rintro (rfl | writes)
    · rfl
    · rw [stoppedBy?_withVerbose writes first, stoppedBy?_withVerbose writes second]

end Engine

def Engine.givesUp (engine : Engine) (line : String) : Bool :=
  !engine.settles (Text.commaPieces line)

theorem Engine.givesUp_withVerbose (engine : Engine) (verbose : Bool) :
    (engine.withVerbose verbose).givesUp = engine.givesUp := rfl

namespace Console

def isInput (line : String) : Bool := !Text.isSkipped line && !isCommand line

/-- The word of a command and its argument, both in lower case. -/
def words? (line : String) : Option (String × String) :=
  if isCommand line then
    (Text.firstWord? (Text.trim line).toList.tail).map fun (word, rest) =>
      (Text.lower (.ofList word), Text.lower (Text.trim (.ofList rest)))
  else none

def quits (line : String) : Bool := (words? line).any fun (word, _) => word ∈ ["quit", "exit", "q"]

def switched (argument : String) (current : Bool) : Bool :=
  if argument ∈ ["on", "true", "1"] then true
  else if argument ∈ ["off", "false", "0"] then false
  else !current

def setting (name line : String) (current : Bool) : Bool :=
  match words? line with
  | some (word, argument) => if word = name then switched argument current else current
  | none => current

theorem set_ofText (argument : String) (current : Bool) :
    (Switch.ofText argument).set current = switched argument current := by
  rw [Switch.ofText, switched]
  split
  · rfl
  · split <;> rfl

theorem not_skipped_of_isCommand {line : String} (command : isCommand line = true) :
    Text.isSkipped line = false := by
  obtain ⟨rest, marked⟩ := List.isPrefixOf_iff_prefix.mp command
  have colon : ":".toList = [':'] := rfl
  rw [colon, List.singleton_append] at marked
  rw [← Text.isSkipped_trim, Text.isSkipped, ← marked, Text.trimStart_cons (by decide)]
  rfl

theorem obey_eq {console : Console} {line : String} (command : isCommand line = true) :
    (console.obey (Command.ofText (Text.trim line))).2 =
      { console with
        engine := console.engine.withVerbose (setting "verbose" line console.engine.verbose)
        tracing := setting "trace" line console.tracing
        running := console.running && !quits line } := by
  rw [Command.ofText, setting, setting, quits, words?, if_pos command]
  cases found : Text.firstWord? (Text.trim line).toList.tail with
  | none => simp [obey]
  | some words =>
    obtain ⟨word, rest⟩ := words
    simp only [Option.map_some, Option.any_some]
    split_ifs <;> simp_all [obey, set_ofText, Engine.withVerbose]

theorem obey_of_numbers {console : Console} {command : Command}
    (shows : console.numbers command ≠ []) : (console.obey command).2 = console := by
  cases command <;> simp_all [numbers, obey]

def reply (console : Console) (line : String) : Option String × Console :=
  if isInput line then
    let outcome := console.engine.outcome (Text.commaPieces line) console.tracing
    (some (outcomeText outcome),
      { console with failures := console.failures + if outcome.settled then 0 else 1 })
  else if isCommand line then console.obey (Command.ofText (Text.trim line))
  else (none, console)

def effectsOf (console : Console) (line : String) : List Effect :=
  if isInput line then console.engine.effects (Text.commaPieces line)
  else if isCommand line then [.spell (console.numbers (Command.ofText (Text.trim line)))]
  else []

theorem answer_eq_perform (console : Console) (line : String) :
    console.answer line = Reporting.perform (console.reply line) (console.effectsOf line) := by
  rw [answer, reply, effectsOf]
  by_cases skipped : Text.isSkipped line = true
  · have silent : isCommand line = false := by
      by_contra command
      rw [not_skipped_of_isCommand (by simpa using command)] at skipped
      exact nomatch skipped
    simp [isInput, skipped, silent, Reporting.pure_eq_perform]
  · rw [if_neg skipped]
    by_cases command : isCommand line = true
    · simp [isInput, command, carryOut, Reporting.write_eq_perform]
    · have input : isInput line = true := by simp [isInput, skipped, command]
      rw [if_neg command, if_pos input, if_pos input, run, Engine.execute_eq_perform]
      refine Reporting.perform_bind_pure ?_
      split <;> simp_all

theorem unchanged_of_not_command {line : String} (plain : isCommand line = false) :
    (∀ name current, setting name line current = current) ∧ quits line = false := by
  have silent : words? line = none := by rw [words?, plain]; rfl
  refine ⟨fun name current => ?_, ?_⟩
  · rw [setting, silent]
  · rw [quits, silent]
    rfl

/-- What a line does to a console. Only a command changes its settings or stops it, and only an
input can fail. -/
theorem reply_console (console : Console) (line : String) :
    (console.reply line).2 =
      { engine := console.engine.withVerbose (setting "verbose" line console.engine.verbose)
        tracing := setting "trace" line console.tracing
        running := console.running && !quits line
        failures := console.failures + (isInput line && console.engine.givesUp line).toNat } := by
  rw [reply]
  by_cases command : isCommand line = true
  · have idle : isInput line = false := by simp [isInput, command]
    simp [idle, command, obey_eq command]
  · obtain ⟨same, goesOn⟩ := unchanged_of_not_command (by simpa using command)
    by_cases input : isInput line = true
    · cases settled : console.engine.settles (Text.commaPieces line) <;>
        simp [input, same, goesOn, Engine.settled_outcome, Engine.givesUp, settled]
    · simp [input, command, same, goesOn]

/-- What is said to a line by a console with what has reached the outside, if anything is: a run may
be broken off. -/
def said (around : Surroundings) (state : Console × Output) (line : String) :
    Except Obstacle (Option String) :=
  ((state.1.answer line).runWith around state.2).1.map (·.1)

/-- What a line leaves behind. A line that is broken off does not change the console. -/
def hear (around : Surroundings) (state : Console × Output) (line : String) : Console × Output :=
  match (state.1.answer line).runWith around state.2 with
  | (.ok (_, console), output) => (console, output)
  | (.error _, output) => (state.1, output)

def hearAll (around : Surroundings) (state : Console × Output) (lines : List String) :
    Console × Output :=
  lines.foldl (hear around) state

def history (around : Surroundings) (state : Console × Output) :
    List String → List ((Console × Output) × String)
  | [] => []
  | line :: rest => (state, line) :: history around (hear around state line) rest

def fails (around : Surroundings) (state : Console × Output) (line : String) : Bool :=
  isInput line &&
    match ((state.1.engine.execute (Text.commaPieces line) state.1.tracing).runWith around
      state.2).1 with
    | .ok outcome => !outcome.settled
    | .error _ => false

theorem answer_of_command (console : Console) {line : String} (command : isCommand line = true) :
    console.answer line = console.carryOut (Command.ofText (Text.trim line)) := by
  rw [answer, not_skipped_of_isCommand command, if_neg Bool.false_ne_true, if_pos command]

theorem hear_of_command {line : String} (command : isCommand line = true) (around : Surroundings)
    (state : Console × Output) :
    hear around state line = ((state.1.obey (Command.ofText (Text.trim line))).2, state.2) := by
  rw [hear, answer_of_command state.1 command, carryOut, Reporting.runWith_write_eq]
  by_cases fits : (state.1.numbers (Command.ofText (Text.trim line))).all
      (Text.fits around.digits) = true
  · rw [if_pos fits]
  · -- An answer that is broken off has numbers in it, so it is to a command that changes nothing.
    have shows : state.1.numbers (Command.ofText (Text.trim line)) ≠ [] := by
      intro none
      rw [none] at fits
      exact fits rfl
    rw [if_neg fits, obey_of_numbers shows]

theorem hear_of_not_input {line : String} (idle : isInput line = false) (around : Surroundings)
    (state : Console × Output) :
    hear around state line = ((state.1.reply line).2, state.2) := by
  by_cases command : isCommand line = true
  · rw [hear_of_command command, reply, idle, if_neg Bool.false_ne_true, if_pos command]
  · rw [hear, answer_eq_perform, effectsOf, idle, if_neg Bool.false_ne_true, if_neg command]
    rfl

theorem hear_eq (around : Surroundings) (state : Console × Output) (line : String) :
    (hear around state line).1 =
      { engine := state.1.engine.withVerbose (setting "verbose" line state.1.engine.verbose)
        tracing := setting "trace" line state.1.tracing
        running := state.1.running && !quits line
        failures := state.1.failures + (fails around state line).toNat } := by
  by_cases input : isInput line = true
  · have plain : isCommand line = false := by
      rw [isInput, Bool.and_eq_true, Bool.not_eq_true'] at input
      simpa using input.2
    obtain ⟨same, goesOn⟩ := unchanged_of_not_command plain
    rw [hear, fails, answer_eq_perform, Engine.execute_eq_perform, effectsOf,
      if_pos input, input, Reporting.runWith_perform_eq, Reporting.runWith_perform_eq]
    cases Effect.firstObstacle? around (state.1.engine.effects (Text.commaPieces line)) with
    | none => simp [reply_console, input, Engine.settled_outcome, Engine.givesUp]
    | some obstacle => simp [same, goesOn]
  · rw [Bool.not_eq_true] at input
    simp [hear_of_not_input input, reply_console, fails, input]

section

variable (around : Surroundings) (state : Console × Output) (lines : List String)

theorem hearAll_running :
    (hearAll around state lines).1.running = (state.1.running && !lines.any quits) := by
  induction lines generalizing state with
  | nil => simp [hearAll]
  | cons line rest ih =>
    rw [hearAll, List.foldl_cons, ← hearAll, ih, hear_eq, List.any_cons, Bool.not_or,
      Bool.and_assoc]

theorem hearAll_failures :
    (hearAll around state lines).1.failures = state.1.failures +
      (history around state lines).countP fun entry => fails around entry.1 entry.2 := by
  induction lines generalizing state with
  | nil => rfl
  | cons line rest ih =>
    rw [hearAll, List.foldl_cons, ← hearAll, ih, hear_eq, history, List.countP_cons]
    cases fails around state line with
    | false => rfl
    | true => simp only [Bool.toNat_true, if_true]; omega

theorem hearAll_engine :
    (hearAll around state lines).1.engine =
      state.1.engine.withVerbose (hearAll around state lines).1.engine.verbose := by
  induction lines generalizing state with
  | nil => rfl
  | cons line rest ih =>
    rw [hearAll, List.foldl_cons, ← hearAll, ih, hear_eq, Engine.withVerbose_withVerbose,
      Engine.verbose_withVerbose]

end

theorem said_eq {around : Surroundings} (accepting : around.sink.Accepting)
    (state : Console × Output) {line : String} (plain : isCommand line = false) :
    said around state line =
      if isInput line then
        (state.1.engine.stoppedBy? around.digits (Text.commaPieces line)).elim
          (.ok (some (outcomeText
            (state.1.engine.outcome (Text.commaPieces line) state.1.tracing)))) .error
      else .ok none := by
  rw [said, answer_eq_perform, Reporting.runWith_perform_eq, effectsOf, reply]
  by_cases input : isInput line = true
  · simp only [input, if_true, Engine.firstObstacle?_effects accepting]
    cases state.1.engine.stoppedBy? around.digits (Text.commaPieces line) <;> rfl
  · simp only [input, plain]
    rfl

section

variable {around : Surroundings} {engine : Engine} {first second : Console × Output}
  {verbose other : Bool} {line : String}

theorem said_withVerbose (accepting : around.sink.Accepting)
    (here : first.1.engine = engine.withVerbose verbose) (plain : isCommand line = false) :
    said around first line =
      if isInput line then
        ((engine.withVerbose verbose).stoppedBy? around.digits (Text.commaPieces line)).elim
          (.ok (some (outcomeText (engine.outcome (Text.commaPieces line) first.1.tracing)))) .error
      else .ok none := by
  rw [said_eq accepting first plain, here, Engine.outcome_withVerbose]

theorem said_same (accepting : around.sink.Accepting)
    (here : first.1.engine = engine.withVerbose verbose)
    (there : second.1.engine = engine.withVerbose other)
    (tracings : second.1.tracing = first.1.tracing) (plain : isCommand line = false)
    (text different : Option String) (saidFirst : said around first line = .ok text)
    (saidSecond : said around second line = .ok different) : text = different := by
  rw [said_withVerbose accepting here plain] at saidFirst
  rw [said_withVerbose accepting there plain, tracings] at saidSecond
  by_cases input : isInput line = true
  · rw [if_pos input] at saidFirst saidSecond
    exact (Reporting.eq_of_elim saidFirst).trans (Reporting.eq_of_elim saidSecond).symm
  · rw [if_neg input] at saidFirst saidSecond
    exact Except.ok.inj (saidFirst.symm.trans saidSecond)

/-- They say the same unless only one of them is verbose, comes to a count that is too long to be
written, and is broken off by it where the other is not. -/
theorem said_eq_iff (accepting : around.sink.Accepting)
    (here : first.1.engine = engine.withVerbose verbose)
    (there : second.1.engine = engine.withVerbose other)
    (tracings : second.1.tracing = first.1.tracing) (plain : isCommand line = false) :
    said around first line = said around second line ↔
      verbose = other ∨ isInput line = false ∨
        ((engine.withVerbose false).stoppedBy? around.digits (Text.commaPieces line) = none →
          (engine.traceOf (Text.commaPieces line)).Fits around.digits) := by
  rw [said_withVerbose accepting here plain, said_withVerbose accepting there plain, tracings]
  by_cases input : isInput line = true
  · rw [if_pos input, if_pos input, Reporting.elim_eq_elim, Engine.stoppedBy?_withVerbose_eq_iff]
    simp [input]
  · simp [input]

end

/-- How lines change a console: it runs until it is told to stop, it counts the inputs that fail, a
line changes a setting only if it is the command for it, and the tables and the limit stay. -/
structure Course (around : Surroundings) (start : Console × Output) (lines : List String) :
    Prop where
  running : (hearAll around start lines).1.running = false ↔ ∃ line ∈ lines, quits line = true
  failures : (hearAll around start lines).1.failures =
    (history around start lines).countP fun entry => fails around entry.1 entry.2
  verbose : ∀ entry ∈ history around start lines,
    (hear around entry.1 entry.2).1.engine.verbose =
      setting "verbose" entry.2 entry.1.1.engine.verbose
  tracing : ∀ entry ∈ history around start lines,
    (hear around entry.1 entry.2).1.tracing = setting "trace" entry.2 entry.1.1.tracing
  rules : (hearAll around start lines).1.engine.rules = start.1.engine.rules
  limit : (hearAll around start lines).1.engine.maxIterations = start.1.engine.maxIterations

theorem course_of_fresh (around : Surroundings) (engine : Engine) (tracing : Bool)
    (output : Output) (lines : List String) :
    Course around ({ engine, tracing }, output) lines where
  running := by simp [hearAll_running]
  failures := by simp [hearAll_failures]
  verbose _ _ := by rw [hear_eq, Engine.verbose_withVerbose]
  tracing _ _ := by rw [hear_eq]
  rules := by
    rw [hearAll_engine]
    rfl
  limit := by
    rw [hearAll_engine]
    rfl

/-- A fresh console takes its course. After any lines it says the same to an input as another
console over the same tables, with the same limit and tracing, whatever came to that one, if both
say something. If one says something and the other does not, only one of them is verbose, and the
input leads to a count that is too long to be logged and not otherwise written. -/
theorem conversation_states (engine : Engine) (tracing : Bool) (lines : List String)
    (around : Surroundings) (accepting : around.sink.Accepting) (output : Output) :
    Course around ({ engine, tracing }, output) lines ∧
    ∀ (other : Engine) (otherTracing : Bool) (others : List String) (otherOutput : Output),
      other.rules = engine.rules → other.maxIterations = engine.maxIterations →
      let here := hearAll around ({ engine, tracing }, output) lines
      let there := hearAll around ({ engine := other, tracing := otherTracing }, otherOutput) others
      there.1.tracing = here.1.tracing → ∀ line, isCommand line = false →
        (∀ text different, said around here line = .ok text →
          said around there line = .ok different → text = different) ∧
        (said around here line = said around there line ↔
          here.1.engine.verbose = there.1.engine.verbose ∨ isInput line = false ∨
            ∀ outcome, (engine.withVerbose false).outcomeIn (Text.commaPieces line)
                here.1.tracing around output = .ok outcome →
              (engine.traceOf (Text.commaPieces line)).Fits around.digits) := by
  refine ⟨course_of_fresh around engine tracing output lines, ?_⟩
  intro other otherTracing others otherOutput rules limit here there tracings line plain
  have first := hearAll_engine around ({ engine, tracing }, output) lines
  have second : there.1.engine = engine.withVerbose there.1.engine.verbose := by
    refine (hearAll_engine around ({ engine := other, tracing := otherTracing }, otherOutput)
      others).trans ?_
    simp only [Engine.withVerbose, rules, limit, there]
  have quiet : (∀ outcome, (engine.withVerbose false).outcomeIn (Text.commaPieces line)
        here.1.tracing around output = .ok outcome →
          (engine.traceOf (Text.commaPieces line)).Fits around.digits) ↔
      ((engine.withVerbose false).stoppedBy? around.digits (Text.commaPieces line) = none →
        (engine.traceOf (Text.commaPieces line)).Fits around.digits) := by
    rw [Engine.outcomeIn_of_accepting accepting]
    cases (engine.withVerbose false).stoppedBy? around.digits (Text.commaPieces line) <;> simp
  exact ⟨said_same accepting first second tracings plain,
    (said_eq_iff accepting first second tracings plain).trans
      (or_congr_right (or_congr_right quiet.symm))⟩

/-- A console whose engine allows no pass, so that every young one is a failure. -/
def impatient : Console := { engine := { Engine.aging with maxIterations := 0 } }

def chatter : List String :=
  [" :Verbose", "young", "# young", ":trace maybe", ":EXIT now", ":TRACE off", "lava, young", "old"]

theorem conversation_states_impatient :
    Sink.collecting.Accepting ∧
    Course ⟨.collecting, none⟩ (impatient, {}) chatter ∧
    (hearAll ⟨.collecting, none⟩ (impatient, {}) chatter).1.running = false ∧
    (hearAll ⟨.collecting, none⟩ (impatient, {}) chatter).1.failures = 2 ∧
    (hearAll ⟨.collecting, none⟩ (impatient, {}) chatter).1.engine.verbose = true ∧
    isCommand "young" = false ∧
    said ⟨.collecting, none⟩ (hearAll ⟨.collecting, none⟩ (impatient, {}) chatter) "young" =
      said ⟨.collecting, none⟩ (hearAll ⟨.collecting, none⟩ (impatient, {}) []) "young" := by
  have accepting := Sink.accepting_collecting
  have plain : isCommand "young" = false := by decide +kernel
  obtain ⟨course, agree⟩ :=
    conversation_states impatient.engine false chatter ⟨.collecting, none⟩ accepting {}
  have counted : (history ⟨.collecting, none⟩ (impatient, {}) chatter).countP
      (fun entry => fails ⟨.collecting, none⟩ entry.1 entry.2) = 2 := by decide +kernel
  have untraced : (hearAll ⟨.collecting, none⟩ (impatient, {}) []).1.tracing =
    (hearAll ⟨.collecting, none⟩ (impatient, {}) chatter).1.tracing := by decide +kernel
  have same := (agree impatient.engine false [] {} rfl rfl untraced "young" plain).2
  exact ⟨accepting, course, course.running.mpr ⟨":EXIT now", by decide +kernel, by decide +kernel⟩,
    course.failures.trans counted, by decide +kernel, plain,
    same.mpr (.inr (.inr fun _ _ _ _ number _ => Text.fits_none number))⟩

/-- A fresh console of this engine says what is left. After it is made verbose, which changes
nothing else, it says nothing to the same line, since it comes to log a count that is too long to be
written. -/
theorem surging_said :
    let around : Surroundings := ⟨.collecting, some Text.digitLimit⟩
    let fresh : Console × Output := ({ engine := Engine.surging }, {})
    let verbose := hearAll around fresh [":verbose on"]
    isCommand "spark,spark,ember" = false ∧ verbose.1.tracing = fresh.1.tracing ∧
    said around fresh "spark,spark,ember" = .ok (some "ember:1") ∧
    said around verbose "spark,spark,ember" = .error .longNumber := by
  decide +kernel

end Console

end MultisetSubstitution
