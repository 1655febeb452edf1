import Mathlib.Data.List.Find
import MultisetSubstitution.Proofs.Correspondence
import MultisetSubstitution.Proofs.Loading

/-! Programs over two vocabularies that have the same of their tokens as names. The same lines of a
text are rules over both, and the rules run alike: of a vocabulary a program sees which tokens are
names, and only its listings show their order. -/

set_option autoImplicit false

namespace MultisetSubstitution

namespace Text

def lineTokens (line : String) : List String :=
  if isSkipped line then []
  else match arrowPieces line with
    | [left, right] => tokens left ++ tokens right
    | _ => []

def ruleTokens (text : String) : List String := (lines text).flatMap lineTokens

end Text

namespace Vocabulary

variable {first second : Vocabulary} {text : String}

instance (tokens : List String) : Decidable (first.AgreeOn second tokens) :=
  inferInstanceAs (Decidable (∀ token ∈ tokens, token ∈ first.names ↔ token ∈ second.names))

theorem blank_not_mem (vocabulary : Vocabulary) : "" ∉ vocabulary.names := by
  intro member
  exact absurd (vocabulary.valid "" member) (by decide)

theorem AgreeOn.readSide_error (agree : first.AgreeOn second (Text.tokens text)) {token : String}
    (unknown : first.readSide text = .error token) : second.readSide text = .error token := by
  rw [readSide_eq_error] at unknown ⊢
  rw [← unknown]
  refine (List.find?_congr fun token member => ?_).symm
  rw [decide_eq_decide]
  exact (agree token member).not

theorem AgreeOn.readSide_ok (agree : first.AgreeOn second (Text.tokens text)) {counts : Counts}
    (read : first.readSide text = .ok counts) :
    ∃ other, second.readSide text = .ok other ∧ first.SameMultiset second counts other := by
  obtain ⟨names, rfl⟩ := readSide_eq_ok.mp read
  have otherNames : ∀ token ∈ Text.tokens text, token ∈ second.names :=
    fun token member => (agree token member).mp (names token member)
  refine ⟨_, readSide_eq_ok.mpr ⟨otherNames, rfl⟩, (SameMultiset.zeros first second).tally ?_⟩
  rw [map_trim_of_names names]
  exact agree

end Vocabulary

namespace Rule

inductive SameReading (first second : Vocabulary) :
    Except Rejection (Option Rule) → Except Rejection (Option Rule) → Prop
  | skipped : SameReading first second (.ok none) (.ok none)
  | accepted {rule other : Rule} (alike : Rule.Alike first second rule other) :
      SameReading first second (.ok (some rule)) (.ok (some other))
  | rejected (rejection : Rejection) :
      SameReading first second (.error rejection) (.error rejection)

variable {first second : Vocabulary}

theorem readSides_same {left right : String}
    (agree : first.AgreeOn second (Text.tokens left ++ Text.tokens right)) (line : Option Int) :
    SameReading first second ((readSides first left right line).map some)
      ((readSides second left right line).map some) := by
  obtain ⟨leftAgree, rightAgree⟩ : first.AgreeOn second (Text.tokens left) ∧
      first.AgreeOn second (Text.tokens right) := List.forall_mem_append.mp agree
  -- The faults of the two sides are looked for in the same order over both vocabularies.
  cases leftRead : first.readSide left with
  | error token =>
    rw [readSides_of_unknown_left leftRead,
      readSides_of_unknown_left (leftAgree.readSide_error leftRead)]
    exact .rejected _
  | ok inputs =>
    obtain ⟨otherInputs, otherLeft, same⟩ := leftAgree.readSide_ok leftRead
    cases consumes : inputs.isZero with
    | true =>
      rw [readSides_of_no_input leftRead consumes,
        readSides_of_no_input otherLeft (same.isZero_eq ▸ consumes)]
      exact .rejected _
    | false =>
      have otherConsumes := same.isZero_eq ▸ consumes
      cases rightRead : first.readSide right with
      | error token =>
        rw [readSides_of_unknown_right leftRead consumes rightRead,
          readSides_of_unknown_right otherLeft otherConsumes (rightAgree.readSide_error rightRead)]
        exact .rejected _
      | ok outputs =>
        obtain ⟨otherOutputs, otherRight, sameOutputs⟩ := rightAgree.readSide_ok rightRead
        by_cases unchanged : inputs = outputs
        · subst unchanged
          obtain rfl := (same.eq_iff sameOutputs).mp rfl
          rw [readSides_of_unchanged leftRead consumes rightRead,
            readSides_of_unchanged otherLeft otherConsumes otherRight]
          exact .rejected _
        · have otherUnchanged := (same.eq_iff sameOutputs).not.mp unchanged
          obtain ⟨rule, read, rfl, rfl, rfl⟩ :=
            readSides_of_changed leftRead consumes rightRead unchanged line
          obtain ⟨other, otherRead, rfl, rfl, sameLine⟩ :=
            readSides_of_changed otherLeft otherConsumes otherRight otherUnchanged rule.line
          rw [read, otherRead]
          exact .accepted ⟨same, sameOutputs, sameLine.symm⟩

theorem read_same {text : String} (agree : first.AgreeOn second (Text.lineTokens text))
    (line : Option Int) :
    SameReading first second (read first text line) (read second text line) := by
  rw [Text.lineTokens] at agree
  rw [read, read]
  split
  · exact .skipped
  · rename_i held
    rw [if_neg held] at agree
    split
    · rename_i left right pieces
      rw [pieces] at agree
      exact readSides_same agree line
    · exact .rejected _

end Rule

namespace RuleSet

variable {first second : Vocabulary}

/-- The same lines are accepted over both vocabularies, as alike rules, and the others are reported
in the same way. -/
theorem acceptedFrom_alike {lines : List String}
    (agree : ∀ line ∈ lines, first.AgreeOn second (Text.lineTokens line)) (number : Int) :
    List.Forall₂ (Rule.Alike first second) (acceptedFrom first number lines)
        (acceptedFrom second number lines) ∧
      rejectionsFrom first number lines = rejectionsFrom second number lines := by
  induction lines generalizing number with
  | nil => exact ⟨.nil, rfl⟩
  | cons text rest ih =>
    obtain ⟨here, later⟩ := List.forall_mem_cons.mp agree
    obtain ⟨alike, reports⟩ := ih later (number + 1)
    have reading := Rule.read_same here (some number)
    simp only [acceptedFrom, rejectionsFrom, Text.numbered, List.filterMap_cons, Rule.accepted?,
      Rule.rejection?] at alike reports ⊢
    generalize Rule.read first text (some number) = read at reading ⊢
    generalize Rule.read second text (some number) = otherRead at reading ⊢
    cases reading with
    | skipped => exact ⟨alike, reports⟩
    | accepted here => exact ⟨.cons here alike, reports⟩
    | rejected rejection => exact ⟨alike, congrArg _ reports⟩

theorem loaded_alike {text : String} (agree : first.AgreeOn second (Text.ruleTokens text)) :
    (loaded first text).Alike (loaded second text) ∧
      rejectionsFrom first 1 (Text.lines text) = rejectionsFrom second 1 (Text.lines text) := by
  have lines : ∀ line ∈ Text.lines text, first.AgreeOn second (Text.lineTokens line) :=
    fun line inText token inLine => agree token (List.mem_flatMap.mpr ⟨line, inText, inLine⟩)
  rw [Alike, rules_loaded, rules_loaded]
  exact acceptedFrom_alike lines 1

/-- Which vocabulary a program is run over matters only through what is in it. If the tokens of the
rules in a text and those of the input are names in both of two vocabularies or in neither, then the
same lines are loaded over both with the same reports. With any limit, both runs settle or both are
stopped, with the same warnings, after steps at the same places, and with the same multiset of
names, which each vocabulary lists in its own order. -/
theorem runs_by_membership (first second : Vocabulary) (text : String) (tokens : List String)
    (agree : first.AgreeOn second
      (Text.ruleTokens text ++ (tokens.map Text.trim).filter (· ≠ ""))) :
    ∃ rules others reports,
      (∀ around : Surroundings, around.sink.Accepting → ∀ output,
        (ofText first text).runWith around output =
          (.ok rules, around.sink.deliverAll reports output) ∧
        (ofText second text).runWith around output =
          (.ok others, around.sink.deliverAll reports output)) ∧
      rules.vocabulary = first ∧ others.vocabulary = second ∧
      rules.rules.map Rule.line = others.rules.map Rule.line ∧
      ∀ limit : Int, ∃ places, ∀ traced, ∃ outcome other warnings,
        Engine.ComesTo { rules, verbose := false, maxIterations := limit } tokens traced outcome
          warnings ∧
        Engine.ComesTo { rules := others, verbose := false, maxIterations := limit } tokens traced
          other warnings ∧
        outcome.Corresponds first second other ∧
        outcome.trace?.map Trace.places = (if traced then some places else none) ∧
        other.trace?.map Trace.places = (if traced then some places else none) := by
  obtain ⟨ruleTokens, inputs⟩ := List.forall_mem_append.mp agree
  obtain ⟨alike, sameReports⟩ := loaded_alike ruleTokens
  have inputsAgree : first.AgreeOn second (tokens.map Text.trim) := by
    intro token member
    by_cases blank : token = ""
    · -- A blank token is a name in neither vocabulary.
      simp only [blank, first.blank_not_mem, second.blank_not_mem]
    · exact inputs token (List.mem_filter.mpr ⟨member, by simpa using blank⟩)
  refine ⟨loaded first text, loaded second text, rejectionsFrom first 1 (Text.lines text), ?_, rfl,
    rfl, alike.map_line, fun limit => ?_⟩
  · intro around accepting output
    rw [runWith_ofText accepting, runWith_ofText accepting, sameReports]
    exact ⟨rfl, rfl⟩
  · have engines : Engine.Alike ⟨loaded first text, false, limit⟩ ⟨loaded second text, false, limit⟩
        tokens := ⟨alike, rfl, inputsAgree⟩
    refine ⟨(Engine.traceOf ⟨loaded first text, false, limit⟩ tokens).places, fun traced =>
      ⟨_, _, _, Engine.comesTo_of_quiet rfl tokens traced, ?_, engines.outcome_corresponds traced,
        ?_, ?_⟩⟩
    · have omissions := engines.omissions_eq
      rw [omissions]
      exact Engine.comesTo_of_quiet rfl tokens traced
    · rw [Engine.outcome_trace?]
      cases traced <;> rfl
    · rw [Engine.outcome_trace?, engines.places_eq]
      cases traced <;> rfl

def reordered : Vocabulary := ⟨["old", "lava", "young"], by decide, by decide +kernel⟩

theorem runs_by_membership_reordered :
    Engine.aging.vocabulary.AgreeOn reordered (Text.ruleTokens "young -> old\nfire -> old" ++
      (["young", " young", "x"].map Text.trim).filter (· ≠ "")) ∧
    ∃ rules others places outcome other warnings,
      rules.rules.map Rule.line = [some 1] ∧ others.rules.map Rule.line = [some 1] ∧
      Engine.ComesTo { rules, verbose := false, maxIterations := 9 } ["young", " young", "x"] true
        outcome warnings ∧
      Engine.ComesTo { rules := others, verbose := false, maxIterations := 9 }
        ["young", " young", "x"] true other warnings ∧
      outcome.Corresponds Engine.aging.vocabulary reordered other ∧
      outcome.items = ["old:2"] ∧
      outcome.trace?.map Trace.places = some places ∧ other.trace?.map Trace.places = some places ∧
      places = [(1, 0), (2, 0)] := by
  have agree : Engine.aging.vocabulary.AgreeOn reordered
      (Text.ruleTokens "young -> old\nfire -> old" ++
        (["young", " young", "x"].map Text.trim).filter (· ≠ "")) := by decide +kernel
  refine ⟨agree, ?_⟩
  obtain ⟨rules, others, reports, loads, -, -, lines, runs⟩ := runs_by_membership _ _ _ _ agree
  obtain ⟨places, runs⟩ := runs 9
  obtain ⟨outcome, other, warnings, comes, otherComes, corresponds, shown, otherShown⟩ := runs true
  have known : (((ofText Engine.aging.vocabulary "young -> old\nfire -> old").runWith
      ⟨.collecting, none⟩ {}).1.bind fun rules =>
        (Engine.outcomeIn ⟨rules, false, 9⟩ ["young", " young", "x"] true ⟨.collecting, none⟩
          {}).map fun outcome => (rules.rules.map Rule.line, outcome.items,
            outcome.trace?.map Trace.places)) =
      .ok ([some 1], ["old:2"], some [(1, 0), (2, 0)]) := by
    decide +kernel
  have returned : Engine.outcomeIn ⟨rules, false, 9⟩ ["young", " young", "x"] true
      ⟨.collecting, none⟩ {} = .ok outcome := by
    rw [Engine.outcomeIn, comes ⟨.collecting, none⟩ Sink.accepting_collecting {},
      if_pos outcome.fits_none]
  rw [(loads ⟨.collecting, none⟩ Sink.accepting_collecting {}).1, Except.bind, returned,
    Except.map, shown] at known
  obtain ⟨here, items, steps⟩ : rules.rules.map Rule.line = [some 1] ∧
      outcome.items = ["old:2"] ∧ some places = some [(1, 0), (2, 0)] := by
    simpa using Except.ok.inj known
  exact ⟨rules, others, places, outcome, other, warnings, here, lines ▸ here, comes, otherComes,
    corresponds, items, shown, otherShown, Option.some.inj steps⟩

end RuleSet

end MultisetSubstitution
