import MultisetSubstitution.Program
import MultisetSubstitution.Proofs.Runs

/-! Deeds: what the program does to its surroundings, in order. Between the effects of its runs it
writes to the output stream and shows traces there. A part of the program that is written as its
deeds and what it comes to can be compared with others. -/

set_option autoImplicit false

namespace MultisetSubstitution

theorem Sink.records_deliver_congr {sink : Sink} {first second : Output}
    (same : first.records = second.records) (record : Record) :
    (sink.deliver record first).records = (sink.deliver record second).records := by
  cases sink with
  | collecting => exact congrArg (Array.push · record) same
  | discarding => exact same
  | refusing => exact same
  | console mark =>
    rw [deliver, deliver]
    cases record.level <;> exact same

theorem Sink.records_deliverAll_congr {sink : Sink} {first second : Output}
    (same : first.records = second.records) (told : List Record) :
    (sink.deliverAll told first).records = (sink.deliverAll told second).records := by
  induction told generalizing first second with
  | nil => exact same
  | cons record rest ih => exact ih (records_deliver_congr same record)

/-- An effect of a run takes place, a text is written to the output stream, or a trace is shown
there. -/
inductive Deed where
  | cause (effect : Effect)
  | print (text : String)
  | exhibit (trace : Trace)

namespace Deed

def happen : Deed → Reporting Escape Unit
  | .cause effect => Program.reporting effect.happen
  | .print text => Reporting.print text
  | .exhibit trace => do
    match trace.text (← read).digits .verbose with
    | .ok text => Reporting.print (text ++ "\n")
    | .error fault => throw (.listing fault)

def effect? : Deed → Option Effect
  | .cause effect => some effect
  | .print _ | .exhibit _ => none

def effects (deeds : List Deed) : List Effect := deeds.filterMap effect?

@[simp] theorem effects_nil : effects [] = [] := rfl

@[simp] theorem effects_cons_print (text : String) (rest : List Deed) :
    effects (.print text :: rest) = effects rest := rfl

@[simp] theorem effects_cons_cause (effect : Effect) (rest : List Deed) :
    effects (.cause effect :: rest) = effect :: effects rest := rfl

@[simp] theorem effects_append (first second : List Deed) :
    effects (first ++ second) = effects first ++ effects second := by
  simp [effects]

theorem effects_flatMap {α : Type} (items : List α) (deeds : α → List Deed) :
    effects (items.flatMap deeds) = items.flatMap fun item => effects (deeds item) :=
  List.filterMap_flatMap

@[simp] theorem effects_map_cause (caused : List Effect) :
    effects (caused.map .cause) = caused := by
  induction caused with
  | nil => rfl
  | cons effect rest ih => exact congrArg (effect :: ·) ih

end Deed

namespace Program

variable {α β : Type}

theorem reporting_bind (action : Reporting Obstacle α) (next : α → Reporting Obstacle β) :
    reporting (action >>= next) = reporting action >>= fun value => reporting (next value) := by
  funext around output
  change (Reporting.mapFailure Escape.obstacle (action >>= next)).runWith around output =
    (Reporting.mapFailure Escape.obstacle action >>= fun value =>
      Reporting.mapFailure Escape.obstacle (next value)).runWith around output
  rw [Reporting.runWith_mapFailure, Reporting.runWith_bind, Reporting.runWith_bind,
    Reporting.runWith_mapFailure]
  cases action.runWith around output with
  | mk result after => cases result <;> rfl

def enact (value : α) : List Deed → Reporting Escape α
  | [] => pure value
  | deed :: rest => do
    deed.happen
    enact value rest

theorem pure_eq_enact (value : α) : (pure value : Reporting Escape α) = enact value [] := rfl

theorem enact_bind {value : α} {deeds : List Deed} {next : α → Reporting Escape β} {result : β}
    {more : List Deed} (goesOn : next value = enact result more) :
    enact value deeds >>= next = enact result (deeds ++ more) := by
  induction deeds with
  | nil => rw [enact, pure_bind, goesOn, List.nil_append]
  | cons deed rest ih => rw [enact, bind_assoc, ih, List.cons_append, enact]

theorem enact_bind_pure {value : α} {deeds : List Deed} {next : α → Reporting Escape β}
    {result : β} (ends : next value = pure result) :
    enact value deeds >>= next = enact result deeds := by
  rw [enact_bind (ends.trans (pure_eq_enact result)), List.append_nil]

theorem print_bind {text : String} {next : Unit → Reporting Escape β} {result : β}
    {more : List Deed} (goesOn : next () = enact result more) :
    Reporting.print text >>= next = enact result (.print text :: more) := by
  rw [enact, ← goesOn]
  rfl

/-- Effects of a run are deeds of the program. -/
theorem reporting_perform (value : α) (effects : List Effect) :
    reporting (Reporting.perform value effects) = enact value (effects.map .cause) := by
  induction effects with
  | nil => rfl
  | cons effect rest ih =>
    rw [Reporting.perform, reporting_bind, List.map_cons, enact, ih]
    rfl

theorem mapM_eq_enact {action : α → Reporting Escape β} {value : α → β} {deeds : α → List Deed}
    {items : List α} (each : ∀ item ∈ items, action item = enact (value item) (deeds item)) :
    items.mapM action = enact (items.map value) (items.flatMap deeds) := by
  induction items with
  | nil => rfl
  | cons item rest ih =>
    obtain ⟨here, later⟩ := List.forall_mem_cons.mp each
    rw [List.mapM_cons, here, ih later, List.flatMap_cons]
    exact enact_bind (enact_bind_pure rfl)

/-- Deeds come to what their effects come to, and leave the same records, unless one of them is a
trace that cannot be written. -/
def LikeEffects (around : Surroundings) (deeds : List Deed) (enacted : Except Escape α × Output)
    (performed : Except Obstacle α × Output) : Prop :=
  (enacted.1 = performed.1.mapError .obstacle ∧ enacted.2.records = performed.2.records) ∨
    ∃ trace fault, .exhibit trace ∈ deeds ∧ trace.text around.digits .verbose = .error fault ∧
      enacted.1 = .error (.listing fault)

theorem LikeEffects.cons {around : Surroundings} {deeds : List Deed}
    {enacted : Except Escape α × Output} {performed : Except Obstacle α × Output}
    (like : LikeEffects around deeds enacted performed) (deed : Deed) :
    LikeEffects around (deed :: deeds) enacted performed :=
  like.imp_right fun ⟨trace, fault, member, met⟩ =>
    ⟨trace, fault, List.mem_cons_of_mem deed member, met⟩

theorem runWith_exhibit (around : Surroundings) (trace : Trace) (output : Output) :
    (Deed.exhibit trace).happen.runWith around output =
      match trace.text around.digits .verbose with
      | .ok text => (.ok (), { output with out := output.out ++ (text ++ "\n") })
      | .error fault => (.error (.listing fault), output) := by
  change (match trace.text around.digits .verbose with
    | .ok text => Reporting.print (text ++ "\n")
    | .error fault => throw (.listing fault) : Reporting Escape Unit).runWith around output = _
  cases trace.text around.digits .verbose <;> rfl

theorem runWith_enact (around : Surroundings) (value : α) (deeds : List Deed)
    {first second : Output} (same : first.records = second.records) :
    LikeEffects around deeds ((enact value deeds).runWith around first)
      ((Reporting.perform value (Deed.effects deeds)).runWith around second) := by
  induction deeds generalizing first second with
  | nil => exact .inl ⟨rfl, same⟩
  | cons deed rest ih =>
    rw [enact, Reporting.runWith_bind]
    cases deed with
    | print text =>
      have kept : ({ first with out := first.out ++ text } : Output).records = second.records :=
        same
      exact (ih kept).cons (.print text)
    | exhibit trace =>
      rw [runWith_exhibit]
      cases written : trace.text around.digits .verbose with
      | ok text =>
        have kept : ({ first with out := first.out ++ (text ++ "\n") } : Output).records =
            second.records := same
        exact (ih kept).cons (.exhibit trace)
      | error fault => exact .inr ⟨trace, fault, List.mem_cons_self, written, rfl⟩
    | cause effect =>
      rw [Deed.effects_cons_cause, Reporting.perform, Reporting.runWith_bind, Deed.happen,
        reporting, Reporting.runWith_mapFailure]
      cases met : effect.obstacle? around with
      | none =>
        rw [Reporting.runWith_happen_clear met, Reporting.runWith_happen_clear met]
        exact (ih (Sink.records_deliverAll_congr same _)).cons (.cause effect)
      | some obstacle =>
        rw [Reporting.runWith_happen_obstacle met, Reporting.runWith_happen_obstacle met]
        exact .inl ⟨rfl, same⟩

end Program

end MultisetSubstitution
