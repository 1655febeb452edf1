import MultisetSubstitution.Proofs.Grammar
import MultisetSubstitution.Proofs.Loading
import MultisetSubstitution.Proofs.Runs

/-! The sink that takes no records. What reports to it stops where it would first say something, and
what has nothing to say comes to the same as before a sink that collects records. -/

set_option autoImplicit false

namespace MultisetSubstitution

theorem Sink.deliverAll_refusing (records : List Record) (output : Output) :
    Sink.refusing.deliverAll records output = output := by
  induction records with
  | nil => rfl
  | cons record rest ih => exact ih

namespace Effect

/-- Before a sink that takes no records effects get to their first record. If they get to none, they
meet what they meet before a sink that collects records. -/
theorem firstObstacle?_refusing (digits : Option Nat) (effects : List Effect) :
    firstObstacle? ⟨.refusing, digits⟩ effects =
      if records (reached ⟨.collecting, digits⟩ effects) = []
        then firstObstacle? ⟨.collecting, digits⟩ effects
        else some .refusingSink := by
  induction effects with
  | nil => rfl
  | cons effect rest ih =>
    cases effect with
    | tell record =>
      have refused : obstacle? ⟨.refusing, digits⟩ (.tell record) = some .refusingSink := rfl
      have clear : Clear ⟨.collecting, digits⟩ (.tell record) :=
        clear_tell Sink.accepting_collecting record
      rw [firstObstacle?_cons_obstacle refused, reached_cons_clear clear, if_neg]
      exact List.cons_ne_nil record _
    | spell numbers =>
      -- Whether numbers can be written has nothing to do with the sink.
      have same : obstacle? ⟨.refusing, digits⟩ (.spell numbers) =
          obstacle? ⟨.collecting, digits⟩ (.spell numbers) := rfl
      cases met : obstacle? ⟨.collecting, digits⟩ (.spell numbers) with
      | none =>
        rw [firstObstacle?_cons_clear (same.trans met), reached_cons_clear met,
          firstObstacle?_cons_clear met, ih]
        rfl
      | some obstacle =>
        rw [firstObstacle?_cons_obstacle (same.trans met), reached_cons_obstacle met,
          firstObstacle?_cons_obstacle met]
        rfl

end Effect

namespace Reporting

variable {α : Type}

/-- What an action comes to before a sink that takes no records. It is refused exactly if it reports
something to a sink that collects records, which has nothing in it before. Otherwise it comes to the
same before both: one value, or one failure if there is none. -/
structure StopsOnReport (action : Reporting Obstacle α) : Prop where
  refused_iff : ∀ digits output,
    (action.runWith ⟨.refusing, digits⟩ output).1 = .error .refusingSink ↔
      (action.runWith ⟨.collecting, digits⟩ {}).2.records ≠ #[]
  otherwise : ∀ digits output,
    (action.runWith ⟨.collecting, digits⟩ {}).2.records = #[] →
      action.runWith ⟨.refusing, digits⟩ output =
        ((action.runWith ⟨.collecting, digits⟩ {}).1, output)

theorem perform_stopsOnReport (value : α) (effects : List Effect) :
    (perform value effects).StopsOnReport := by
  have collected : ∀ digits, ((perform value effects).runWith ⟨.collecting, digits⟩ {}).2.records =
      (Effect.records (Effect.reached ⟨.collecting, digits⟩ effects)).toArray := by
    intro digits
    rw [runWith_perform_eq, Sink.deliverAll_collecting, Output.collect, Array.empty_append]
  have silent : ∀ digits, ((perform value effects).runWith ⟨.collecting, digits⟩ {}).2.records =
      #[] ↔ Effect.records (Effect.reached ⟨.collecting, digits⟩ effects) = [] := by
    intro digits
    simp [collected]
  constructor
  · intro digits output
    rw [ne_eq, silent, runWith_perform_eq, Effect.firstObstacle?_refusing]
    split
    · rename_i none
      -- A sink that collects records is never what stops an action.
      refine iff_of_false (fun stopped => ?_) (not_not.mpr none)
      cases first : Effect.firstObstacle? ⟨.collecting, digits⟩ effects with
      | none =>
        rw [first] at stopped
        cases stopped
      | some obstacle =>
        obtain ⟨effect, -, met⟩ := List.exists_of_findSome?_eq_some first
        rw [first, (Effect.long_of_accepting Sink.accepting_collecting met).1] at stopped
        cases stopped
    · rename_i some
      exact iff_of_true rfl some
  · intro digits output none
    rw [runWith_perform_eq, runWith_perform_eq, Sink.deliverAll_refusing,
      Effect.firstObstacle?_refusing, if_pos ((silent digits).mp none)]

theorem tells_give {action : Reporting Obstacle α} {value : α} {reports : List Record}
    (tells : action = perform value (reports.map .tell)) :
    (∃ given told, action.Gives given told) ∧ action.StopsOnReport := by
  rw [tells]
  exact ⟨⟨value, reports, gives_perform value reports⟩, perform_stopsOnReport value _⟩

end Reporting

theorem Rule.parse_stopsOnReport (vocabulary : Vocabulary) (text : String) (line : Option Int) :
    (parse vocabulary text line).StopsOnReport := by
  cases reading : read vocabulary text line with
  | ok found =>
    rw [parse, reading]
    exact Reporting.perform_stopsOnReport found []
  | error rejection =>
    rw [parse_eq_of_error reading]
    exact Reporting.perform_stopsOnReport none _

/-- A sink that takes no records is noticed exactly if there is something to say. This is so of
reading a vocabulary, a rule set or one rule, of counting tokens and of running them. All but the
last give something to a sink that takes records, one rule unless there is a report of it and its
line has a number that is too long to be written. -/
theorem refused_iff_reporting :
    (∀ lines, (∃ vocabulary reports, (Vocabulary.ofLines lines).Gives vocabulary reports) ∧
      (Vocabulary.ofLines lines).StopsOnReport) ∧
    (∀ vocabulary lines, (∃ set reports, (RuleSet.ofLines vocabulary lines).Gives set reports) ∧
      (RuleSet.ofLines vocabulary lines).StopsOnReport) ∧
    (∀ vocabulary text line,
      (∃ found reports, (Rule.parse vocabulary text line).GivesWith line.toList found reports) ∧
      (Rule.parse vocabulary text line).StopsOnReport) ∧
    (∀ (engine : Engine) (tokens : Tokens),
      (∃ counts reports, (engine.count tokens.toList).Gives counts reports) ∧
      (engine.count tokens.toList).StopsOnReport) ∧
    ∀ (engine : Engine) (tokens : Tokens) traced,
      (engine.execute tokens.toList traced).StopsOnReport := by
  refine ⟨fun lines => ?_, fun vocabulary lines => ?_, fun vocabulary text line => ?_,
    fun engine tokens => ?_, fun engine tokens traced => ?_⟩
  · exact Reporting.tells_give (Vocabulary.empty.pushLines_eq_perform lines)
  · exact Reporting.tells_give ((RuleSet.empty vocabulary).pushLines_eq_perform 1 lines)
  · obtain ⟨found, reports, reading⟩ := Rule.exists_reading vocabulary text line
    exact ⟨⟨found, reports, reading.parse_gives⟩, Rule.parse_stopsOnReport vocabulary text line⟩
  · exact Reporting.tells_give (engine.count_eq_perform tokens.toList)
  · rw [engine.execute_eq_perform]
    exact Reporting.perform_stopsOnReport _ _

end MultisetSubstitution
