import Mathlib.Data.List.TakeWhile
import MultisetSubstitution.Diagnostics

/-! Effects: what a computation that reports does to its surroundings, in order. A computation that
is written as its effects and its value can be compared with others of its kind. -/

set_option autoImplicit false

namespace MultisetSubstitution

theorem Sink.accepting_discarding : discarding.Accepting := by decide

theorem Sink.accepting_collecting : collecting.Accepting := by decide

/-- A record is told, or numbers are spelled out in a text. -/
inductive Effect where
  | tell (record : Record)
  | spell (numbers : List Int)

namespace Effect

def obstacle? (around : Surroundings) : Effect → Option Obstacle
  | .tell _ => if around.sink.Accepting then none else some .refusingSink
  | .spell numbers => if numbers.all (Text.fits around.digits) then none else some .longNumber

def record? : Effect → Option Record
  | .tell record => some record
  | .spell _ => none

def happen : Effect → Reporting Obstacle Unit
  | .tell record => Reporting.report record
  | .spell numbers => Reporting.write numbers ()

def Clear (around : Surroundings) (effect : Effect) : Prop := effect.obstacle? around = none

theorem clear_tell {around : Surroundings} (accepting : around.sink.Accepting)
    (record : Record) : (Effect.tell record).Clear around := by
  simp [Clear, obstacle?, accepting]

theorem clear_tells {around : Surroundings} (accepting : around.sink.Accepting)
    (told : List Record) : ∀ effect ∈ told.map Effect.tell, effect.Clear around := by
  intro effect member
  obtain ⟨record, _, rfl⟩ := List.mem_map.mp member
  exact clear_tell accepting record

@[simp] theorem clear_spell {around : Surroundings} {numbers : List Int} :
    (Effect.spell numbers).Clear around ↔ numbers.all (Text.fits around.digits) = true := by
  simp [Clear, obstacle?]

theorem long_of_accepting {around : Surroundings} (accepting : around.sink.Accepting)
    {effect : Effect} {obstacle : Obstacle} (met : effect.obstacle? around = some obstacle) :
    obstacle = .longNumber ∧
      ∃ numbers, effect = .spell numbers ∧
        ∃ number ∈ numbers, Text.fits around.digits number = false := by
  cases effect with
  | tell record => simp [obstacle?, accepting] at met
  | spell numbers =>
    simp only [obstacle?] at met
    split at met
    · exact nomatch met
    · rename_i long
      refine ⟨(Option.some.inj met).symm, numbers, rfl, ?_⟩
      simpa using long

theorem obstacle?_of_accepting {around : Surroundings} (accepting : around.sink.Accepting)
    (effect : Effect) :
    effect.obstacle? around = effect.obstacle? ⟨.discarding, around.digits⟩ := by
  cases effect with
  | tell record => rw [obstacle?, obstacle?, if_pos accepting, if_pos Sink.accepting_discarding]
  | spell numbers => rfl

def firstObstacle? (around : Surroundings) (effects : List Effect) : Option Obstacle :=
  effects.findSome? (obstacle? around)

def reached (around : Surroundings) (effects : List Effect) : List Effect :=
  effects.takeWhile fun effect => (effect.obstacle? around).isNone

section

variable {around : Surroundings} {effect : Effect} {effects : List Effect} {obstacle : Obstacle}

theorem firstObstacle?_cons_clear (clear : effect.Clear around) :
    firstObstacle? around (effect :: effects) = firstObstacle? around effects := by
  rw [Clear] at clear
  rw [firstObstacle?, List.findSome?_cons_of_isNone (by rw [clear]; rfl), firstObstacle?]

theorem firstObstacle?_cons_obstacle (met : effect.obstacle? around = some obstacle) :
    firstObstacle? around (effect :: effects) = some obstacle := by
  rw [firstObstacle?, List.findSome?_cons, met]

theorem firstObstacle?_eq_none :
    firstObstacle? around effects = none ↔ ∀ effect ∈ effects, effect.Clear around :=
  List.findSome?_eq_none_iff

theorem firstObstacle?_of_accepting (accepting : around.sink.Accepting) :
    firstObstacle? around effects = none ↔
      ∀ numbers, .spell numbers ∈ effects →
        ∀ number ∈ numbers, Text.fits around.digits number = true := by
  rw [firstObstacle?_eq_none]
  constructor
  · intro clear numbers member
    exact List.all_eq_true.mp (clear_spell.mp (clear _ member))
  · intro fits effect member
    cases effect with
    | tell record => exact clear_tell accepting record
    | spell numbers => exact clear_spell.mpr (List.all_eq_true.mpr (fits numbers member))

theorem reached_cons_clear (clear : effect.Clear around) :
    reached around (effect :: effects) = effect :: reached around effects :=
  List.takeWhile_cons_of_pos (by rw [clear]; rfl)

theorem reached_cons_obstacle (met : effect.obstacle? around = some obstacle) :
    reached around (effect :: effects) = [] :=
  List.takeWhile_cons_of_neg (by rw [met]; exact Bool.false_ne_true)

theorem reached_append_of_clear (clear : ∀ effect ∈ effects, effect.Clear around)
    (more : List Effect) : reached around (effects ++ more) = effects ++ reached around more := by
  refine List.takeWhile_append_of_pos fun effect member => ?_
  rw [clear effect member]
  rfl

theorem reached_append_of_not_clear (met : ¬ ∀ effect ∈ effects, effect.Clear around)
    (more : List Effect) : reached around (effects ++ more) = reached around effects := by
  have short : (effects.takeWhile fun effect => (effect.obstacle? around).isNone).length ≠
      effects.length := by
    intro whole
    refine met fun effect member => ?_
    rw [← (List.takeWhile_prefix _).eq_of_length whole] at member
    have clear := List.mem_takeWhile_imp member
    exact Option.isNone_iff_eq_none.mp clear
  rw [reached, List.takeWhile_append, if_neg short, reached]

theorem reached_of_clear (clear : ∀ effect ∈ effects, effect.Clear around) :
    reached around effects = effects := by
  rw [reached, List.takeWhile_eq_self_iff]
  intro effect member
  rw [clear effect member]
  rfl

end

def records (effects : List Effect) : List Record := effects.filterMap record?

@[simp] theorem records_append (first second : List Effect) :
    records (first ++ second) = records first ++ records second := by
  simp [records]

@[simp] theorem records_map_tell (told : List Record) : records (told.map .tell) = told := by
  induction told with
  | nil => rfl
  | cons record rest ih => exact congrArg (record :: ·) ih

def warnings (effects : List Effect) : List Record :=
  (records effects).filter (·.level = .warn)

@[simp] theorem warnings_append (first second : List Effect) :
    warnings (first ++ second) = warnings first ++ warnings second := by
  simp [warnings]

theorem warnings_reached_isPrefix (around : Surroundings) (effects : List Effect) :
    warnings (reached around effects) <+: warnings effects :=
  ((List.takeWhile_prefix _).filterMap record?).filter _

end Effect

def Sink.deliverAll (sink : Sink) (records : List Record) (output : Output) : Output :=
  records.foldl (fun output record => sink.deliver record output) output

theorem Sink.deliverAll_append (sink : Sink) (first second : List Record) (output : Output) :
    sink.deliverAll (first ++ second) output =
      sink.deliverAll second (sink.deliverAll first output) :=
  List.foldl_append

def Output.collect (output : Output) (records : List Record) : Output :=
  { output with records := output.records ++ records.toArray }

theorem Sink.deliverAll_collecting (records : List Record) (output : Output) :
    Sink.collecting.deliverAll records output = output.collect records := by
  induction records generalizing output with
  | nil => simp [deliverAll, Output.collect]
  | cons record rest ih =>
    have step : Sink.collecting.deliverAll (record :: rest) output =
        Sink.collecting.deliverAll rest { output with records := output.records.push record } := rfl
    rw [step, ih]
    simp [Output.collect]

namespace Reporting

variable {α β : Type}

def perform (value : α) : List Effect → Reporting Obstacle α
  | [] => pure value
  | effect :: rest => do
    effect.happen
    perform value rest

theorem pure_eq_perform (value : α) : (pure value : Reporting Obstacle α) = perform value [] := rfl

theorem perform_bind {value : α} {effects : List Effect} {next : α → Reporting Obstacle β}
    {result : β} {more : List Effect} (goesOn : next value = perform result more) :
    perform value effects >>= next = perform result (effects ++ more) := by
  induction effects with
  | nil => rw [perform, pure_bind, goesOn, List.nil_append]
  | cons effect rest ih => rw [perform, bind_assoc, ih, List.cons_append, perform]

theorem perform_bind_pure {value : α} {effects : List Effect} {next : α → Reporting Obstacle β}
    {result : β} (ends : next value = pure result) :
    perform value effects >>= next = perform result effects := by
  rw [perform_bind (ends.trans (pure_eq_perform result)), List.append_nil]

theorem report_eq_perform (record : Record) : report record = perform () [.tell record] := by
  rw [perform, perform, Effect.happen]
  exact (bind_pure_unit (x := report record)).symm

theorem log_eq_perform (message : String) :
    log message = perform () [.tell ⟨.log, message⟩] := report_eq_perform _

theorem warn_eq_perform (message : String) :
    warn message = perform () [.tell ⟨.warn, message⟩] := report_eq_perform _

theorem write_eq_perform (numbers : List Int) (text : α) :
    write numbers text = perform text [.spell numbers] := by
  funext around
  rw [perform, perform, Effect.happen]
  by_cases fits : numbers.all (Text.fits around.digits) = true
  · simp only [write, bind, ReaderT.bind, fits, if_true]
    rfl
  · simp only [write, bind, ReaderT.bind, fits]
    rfl

theorem write_bind {numbers : List Int} {text : α} {next : α → Reporting Obstacle β} {result : β}
    {more : List Effect} (goesOn : next text = perform result more) :
    write numbers text >>= next = perform result (.spell numbers :: more) := by
  rw [write_eq_perform]
  exact perform_bind goesOn

theorem log_bind {message : String} {next : Unit → Reporting Obstacle β} {result : β}
    {more : List Effect} (goesOn : next () = perform result more) :
    log message >>= next = perform result (.tell ⟨.log, message⟩ :: more) := by
  rw [log_eq_perform]
  exact perform_bind goesOn

theorem warn_bind {message : String} {next : Unit → Reporting Obstacle β} {result : β}
    {more : List Effect} (goesOn : next () = perform result more) :
    warn message >>= next = perform result (.tell ⟨.warn, message⟩ :: more) := by
  rw [warn_eq_perform]
  exact perform_bind goesOn

theorem logAll_eq_perform (messages : List String) :
    messages.forM log = perform () (messages.map fun message => .tell ⟨.log, message⟩) := by
  induction messages with
  | nil => rfl
  | cons message rest ih => exact log_bind ih

theorem runWith_mapFailure {ε δ : Type} (change : ε → δ) (action : Reporting ε α)
    (around : Surroundings) (output : Output) :
    (mapFailure change action).runWith around output =
      ((action.runWith around output).1.mapError change,
        (action.runWith around output).2) := rfl

theorem runWith_mapFailure_ok {ε δ : Type} (change : ε → δ) {action : Reporting ε α}
    {around : Surroundings} {value : α} {output after : Output}
    (ran : action.runWith around output = (.ok value, after)) :
    (mapFailure change action).runWith around output = (.ok value, after) := by
  rw [runWith_mapFailure, ran]
  rfl

theorem runWith_happen_clear {around : Surroundings} {effect : Effect}
    (clear : effect.Clear around) (output : Output) :
    effect.happen.runWith around output =
      (.ok (), around.sink.deliverAll effect.record?.toList output) := by
  cases effect with
  | tell record =>
    have accepting : around.sink.Accepting := by
      simpa [Effect.Clear, Effect.obstacle?] using clear
    exact runWith_report accepting record output
  | spell numbers =>
    rw [Effect.happen, runWith_write (Effect.clear_spell.mp clear)]
    rfl

theorem runWith_happen_obstacle {around : Surroundings} {effect : Effect} {obstacle : Obstacle}
    (met : effect.obstacle? around = some obstacle) (output : Output) :
    effect.happen.runWith around output = (.error obstacle, output) := by
  cases effect with
  | tell record =>
    simp only [Effect.obstacle?] at met
    split at met
    · exact nomatch met
    · rename_i refusing
      cases met
      simp [Effect.happen, report, runWith, ExceptT.mk, refusing]
  | spell numbers =>
    simp only [Effect.obstacle?] at met
    split at met
    · exact nomatch met
    · rename_i long
      cases met
      simp only [Effect.happen, runWith, write, long]
      rfl

/-- A computation returns its value unless one of its effects meets an obstacle, and reports what
comes before that. -/
theorem runWith_perform_eq (around : Surroundings) (value : α) (effects : List Effect)
    (output : Output) :
    (perform value effects).runWith around output =
      ((Effect.firstObstacle? around effects).elim (.ok value) .error,
        around.sink.deliverAll (Effect.records (Effect.reached around effects)) output) := by
  induction effects generalizing output with
  | nil => rfl
  | cons effect rest ih =>
    rw [perform, runWith_bind]
    cases met : effect.obstacle? around with
    | none =>
      rw [runWith_happen_clear met, Effect.reached_cons_clear met,
        Effect.firstObstacle?_cons_clear met]
      simp only [ih]
      cases effect <;> rfl
    | some obstacle =>
      rw [runWith_happen_obstacle met, Effect.reached_cons_obstacle met,
        Effect.firstObstacle?_cons_obstacle met]
      rfl

theorem runWith_perform {around : Surroundings} {value : α} {effects : List Effect}
    (clear : ∀ effect ∈ effects, effect.Clear around) (output : Output) :
    (perform value effects).runWith around output =
      (.ok value, around.sink.deliverAll (Effect.records effects) output) := by
  rw [runWith_perform_eq, Effect.firstObstacle?_eq_none.mpr clear, Effect.reached_of_clear clear]
  rfl

theorem perform_returns_iff {around : Surroundings} {value result : α} {effects : List Effect}
    {output : Output} :
    ((perform value effects).runWith around output).1 = .ok result ↔
      result = value ∧ ∀ effect ∈ effects, effect.Clear around := by
  rw [runWith_perform_eq, ← Effect.firstObstacle?_eq_none]
  cases Effect.firstObstacle? around effects <;> simp [eq_comm]

/-- Under an accepting sink a computation returns its value, unless it comes to spell a number that
is too long. -/
theorem perform_returns_or_long {around : Surroundings} (accepting : around.sink.Accepting)
    (value : α) (effects : List Effect) (output : Output) :
    ((perform value effects).runWith around output).1 = .ok value ∨
      ((perform value effects).runWith around output).1 = .error .longNumber ∧
        ∃ numbers, .spell numbers ∈ effects ∧
          ∃ number ∈ numbers, Text.fits around.digits number = false := by
  rw [runWith_perform_eq]
  cases first : Effect.firstObstacle? around effects with
  | none => exact .inl rfl
  | some obstacle =>
    obtain ⟨effect, member, met⟩ := List.exists_of_findSome?_eq_some first
    obtain ⟨rfl, numbers, rfl, long⟩ := Effect.long_of_accepting accepting met
    exact .inr ⟨rfl, numbers, member, long⟩

/-- What an action gives, whatever it is around: a value, and reports to every sink that takes
records. -/
def Gives (action : Reporting Obstacle α) (value : α) (reports : List Record) : Prop :=
  ∀ around : Surroundings, around.sink.Accepting → ∀ output,
    action.runWith around output = (.ok value, around.sink.deliverAll reports output)

theorem gives_perform (value : α) (reports : List Record) :
    (perform value (reports.map .tell)).Gives value reports := by
  intro around accepting output
  rw [runWith_perform (Effect.clear_tells accepting reports), Effect.records_map_tell]

/-- What an action gives that writes numbers in its reports: a value, unless there is something to
report and a number is too long for it. -/
def GivesWith (action : Reporting Obstacle α) (numbers : List Int) (value : α)
    (reports : List Record) : Prop :=
  ∀ around : Surroundings, around.sink.Accepting → ∀ output,
    action.runWith around output =
      if reports = [] ∨ numbers.all (Text.fits around.digits) then
        (.ok value, around.sink.deliverAll reports output)
      else (.error .longNumber, output)

theorem Gives.givesWith {action : Reporting Obstacle α} {value : α}
    (gives : action.Gives value []) (numbers : List Int) : action.GivesWith numbers value [] := by
  intro around accepting output
  rw [if_pos (.inl rfl), gives around accepting output]

theorem givesWith_perform (numbers : List Int) (value : α) (record : Record) :
    (perform value [.spell numbers, .tell record]).GivesWith numbers value [record] := by
  intro around accepting output
  have spelled : (write numbers () >>= fun _ => perform value [.tell record]) =
      perform value [.spell numbers, .tell record] := write_bind rfl
  rw [← spelled, runWith_bind, runWith_write_eq]
  by_cases fits : numbers.all (Text.fits around.digits) = true
  · rw [if_pos fits, if_pos (.inr fits)]
    exact gives_perform value [record] around accepting output
  · rw [if_neg fits, if_neg (by simpa using fits)]

theorem gives_iff {action : Reporting Obstacle α} {value : α} {reports : List Record} :
    action.Gives value reports ↔ action.GivesWith [] value reports := by
  simp [Gives, GivesWith]

theorem GivesWith.unique {action : Reporting Obstacle α} {numbers : List Int} {value other : α}
    {reports others : List Record} (first : action.GivesWith numbers value reports)
    (second : action.GivesWith numbers other others) : value = other ∧ reports = others := by
  have fits : numbers.all (Text.fits none) = true := List.all_eq_true.mpr fun _ _ => rfl
  have ran := first ⟨.collecting, none⟩ Sink.accepting_collecting {}
  rw [second ⟨.collecting, none⟩ Sink.accepting_collecting {}, if_pos (.inr fits),
    if_pos (.inr fits)] at ran
  obtain ⟨values, outputs⟩ := Prod.mk.inj ran
  rw [Sink.deliverAll_collecting, Sink.deliverAll_collecting] at outputs
  have collected := congrArg (·.records.toList) outputs
  exact ⟨(Except.ok.inj values).symm, by simpa [Output.collect] using collected.symm⟩

theorem Gives.unique {action : Reporting Obstacle α} {value other : α}
    {reports others : List Record} (first : action.Gives value reports)
    (second : action.Gives other others) : value = other ∧ reports = others :=
  (gives_iff.mp first).unique (gives_iff.mp second)

end Reporting

end MultisetSubstitution
