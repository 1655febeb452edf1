import MultisetSubstitution.Proofs.Grammar
import MultisetSubstitution.Proofs.Loading

/-! Accounts of what is loaded from lines. Each line is skipped, taken in or reported. What is
loaded from lines and from others after them is loaded from either, but for the numbers of the
lines. -/

set_option autoImplicit false

namespace MultisetSubstitution

namespace Text

variable {number : Int} {lines : List String}

theorem numbered_append (number : Int) (first second : List String) :
    numbered number (first ++ second) =
      numbered number first ++ numbered (number + first.length) second := by
  induction first generalizing number with
  | nil => simp [numbered]
  | cons line rest ih =>
    have later : number + 1 + (rest.length : Int) = number + ((line :: rest).length : Int) := by
      rw [List.length_cons]
      omega
    rw [List.cons_append, numbered, numbered, List.cons_append, ih, later]

theorem mem_numbered {line : Int × String} (member : line ∈ numbered number lines) :
    ∃ index : Nat, lines[index]? = some line.2 ∧ line.1 = number + index := by
  induction lines generalizing number with
  | nil => exact nomatch member
  | cons text rest ih =>
    rcases List.mem_cons.mp member with rfl | later
    · exact ⟨0, rfl, by simp⟩
    · obtain ⟨index, here, same⟩ := ih later
      exact ⟨index + 1, here, by omega⟩

theorem numbered_increasing (number : Int) (lines : List String) :
    (numbered number lines).Pairwise (·.1 < ·.1) := by
  induction lines generalizing number with
  | nil => exact .nil
  | cons text rest ih =>
    refine List.pairwise_cons.mpr ⟨fun line member => ?_, ih (number + 1)⟩
    obtain ⟨index, -, same⟩ := mem_numbered member
    simp only [same]
    omega

end Text

namespace Vocabulary

theorem size_register (vocabulary : Vocabulary) (line : String) :
    (vocabulary.register line).size + (vocabulary.refusal? line).toList.length +
      (if Text.isSkipped line then 1 else 0) = vocabulary.size + 1 := by
  rw [register, refusal?]
  by_cases skipped : Text.isSkipped line = true
  · simp [skipped]
  · by_cases valid : isName (Text.trim line) = true
    · by_cases present : Text.trim line ∈ vocabulary.names
      · simp [skipped, valid, present]
      · simp [skipped, valid, present, size, Names.push]
    · simp [skipped, valid]

theorem size_foldl_register (vocabulary : Vocabulary) (lines : List String) :
    (lines.foldl register vocabulary).size + (vocabulary.refusals lines).length +
      lines.countP Text.isSkipped = vocabulary.size + lines.length := by
  induction lines generalizing vocabulary with
  | nil => rfl
  | cons line rest ih =>
    have here := vocabulary.size_register line
    have later := ih (vocabulary.register line)
    rw [List.foldl_cons, refusals, List.length_append, List.countP_cons, List.length_cons]
    omega

theorem refusals_append (vocabulary : Vocabulary) (first second : List String) :
    vocabulary.refusals (first ++ second) =
      vocabulary.refusals first ++ (first.foldl register vocabulary).refusals second := by
  induction first generalizing vocabulary with
  | nil => rfl
  | cons line rest ih =>
    rw [List.cons_append, refusals, refusals, List.foldl_cons, ih, List.append_assoc]

end Vocabulary

namespace Rule

variable {vocabulary : Vocabulary}

def lowered (offset : Int) (rule : Rule) : Rule :=
  { rule with line := rule.line.map (· + offset) }

def Precedes (rule other : Rule) : Prop :=
  ∃ line later, rule.line = some line ∧ other.line = some later ∧ line < later

theorem read_eq_none {text : String} {line : Option Int} :
    read vocabulary text line = .ok none ↔ Text.isSkipped text = true := by
  rw [read]
  cases Text.isSkipped text with
  | true => simp
  | false =>
    simp only [Bool.false_eq_true, if_false, iff_false]
    split
    · cases readSides vocabulary _ _ line <;> simp [Except.map]
    · simp

theorem readSides_relined (left right : String) (line other : Option Int) :
    readSides vocabulary left right other =
      (readSides vocabulary left right line).map fun rule => { rule with line := other } := by
  cases leftRead : vocabulary.readSide left with
  | error token =>
    rw [readSides_of_unknown_left leftRead, readSides_of_unknown_left leftRead]
    rfl
  | ok inputs =>
    cases consumes : inputs.isZero with
    | true =>
      rw [readSides_of_no_input leftRead consumes, readSides_of_no_input leftRead consumes]
      rfl
    | false =>
      cases rightRead : vocabulary.readSide right with
      | error token =>
        rw [readSides_of_unknown_right leftRead consumes rightRead,
          readSides_of_unknown_right leftRead consumes rightRead]
        rfl
      | ok outputs =>
        by_cases unchanged : inputs = outputs
        · subst unchanged
          rw [readSides_of_unchanged leftRead consumes rightRead,
            readSides_of_unchanged leftRead consumes rightRead]
          rfl
        · obtain ⟨rule, found, rfl, rfl, -⟩ :=
            readSides_of_changed leftRead consumes rightRead unchanged line
          have again : readSides vocabulary left right other =
              .ok { rule with line := other } := readSides_eq_ok.mpr ⟨leftRead, rightRead, rfl⟩
          rw [found, again]
          rfl

theorem read_relined (vocabulary : Vocabulary) (text : String) (line other : Option Int) :
    read vocabulary text other =
      (read vocabulary text line).map (Option.map fun rule => { rule with line := other }) := by
  rw [read, read]
  split
  · rfl
  · split
    · rename_i left right pieces
      rw [readSides_relined left right line other]
      cases readSides vocabulary left right line <;> rfl
    · rfl

theorem accepted?_lowered (number offset : Int) (text : String) :
    accepted? vocabulary (number + offset, text) =
      (accepted? vocabulary (number, text)).map (lowered offset) := by
  have again := read_relined vocabulary text (some number) (some (number + offset))
  cases found : read vocabulary text (some number) with
  | error rejection =>
    rw [found] at again
    rw [accepted?_of_error found, accepted?_of_error again]
    rfl
  | ok rule? =>
    rw [found] at again
    rw [accepted?_of_ok found, accepted?_of_ok again]
    cases rule? with
    | none => rfl
    | some rule =>
      have line : rule.line = some number := (read_eq_some.mp found).2.1
      rw [Option.map_some, Option.map_some, lowered, line, Option.map_some]

theorem parse_gives (vocabulary : Vocabulary) (number : Int) (text : String) :
    (parse vocabulary text (some number)).GivesWith [number] (accepted? vocabulary (number, text))
      (rejection? vocabulary (number, text)).toList := by
  cases found : read vocabulary text (some number) with
  | error rejection =>
    rw [accepted?_of_error found, rejection?_of_error found]
    exact parse_of_error found
  | ok rule? =>
    rw [accepted?_of_ok found, rejection?_of_ok found]
    exact (parse_of_ok found).givesWith _

theorem length_accepted? (vocabulary : Vocabulary) (number : Int) (text : String) :
    (accepted? vocabulary (number, text)).toList.length +
      (rejection? vocabulary (number, text)).toList.length +
      (if Text.isSkipped text then 1 else 0) = 1 := by
  by_cases skipped : Text.isSkipped text = true
  · have nothing : read vocabulary text (some number) = .ok none := read_eq_none.mpr skipped
    simp [accepted?_of_ok nothing, rejection?_of_ok nothing, skipped]
  · cases found : read vocabulary text (some number) with
    | error rejection => simp [accepted?_of_error found, rejection?_of_error found, skipped]
    | ok rule? =>
      cases rule? with
      | none => exact absurd (read_eq_none.mp found) skipped
      | some rule => simp [accepted?_of_ok found, rejection?_of_ok found, skipped]

end Rule

namespace RuleSet

variable {vocabulary : Vocabulary}

/-- Lines that are read one after the other, the first under a given number, the rules that are
found in them, and what is reported of them. -/
inductive ReadOn (vocabulary : Vocabulary) : Int → List String → List Rule → List Record → Prop
  | nil {number : Int} : ReadOn vocabulary number [] [] []
  | cons {number : Int} {text : String} {rest : List String} {found : Option Rule}
      {rules : List Rule} {told reports : List Record}
      (here : (Rule.parse vocabulary text (some number)).GivesWith [number] found told)
      (later : ReadOn vocabulary (number + 1) rest rules reports) :
      ReadOn vocabulary number (text :: rest) (found.toList ++ rules) (told ++ reports)

theorem acceptedFrom_cons (vocabulary : Vocabulary) (number : Int) (text : String)
    (rest : List String) :
    acceptedFrom vocabulary number (text :: rest) =
      (Rule.accepted? vocabulary (number, text)).toList ++
        acceptedFrom vocabulary (number + 1) rest := by
  rw [acceptedFrom, Text.numbered, List.filterMap_cons, acceptedFrom]
  cases Rule.accepted? vocabulary (number, text) <;> rfl

theorem rejectionsFrom_cons (vocabulary : Vocabulary) (number : Int) (text : String)
    (rest : List String) :
    rejectionsFrom vocabulary number (text :: rest) =
      (Rule.rejection? vocabulary (number, text)).toList ++
        rejectionsFrom vocabulary (number + 1) rest := by
  rw [rejectionsFrom, Text.numbered, List.filterMap_cons, rejectionsFrom]
  cases Rule.rejection? vocabulary (number, text) <;> rfl

theorem readOn (vocabulary : Vocabulary) (number : Int) (lines : List String) :
    ReadOn vocabulary number lines (acceptedFrom vocabulary number lines)
      (rejectionsFrom vocabulary number lines) := by
  induction lines generalizing number with
  | nil => exact .nil
  | cons text rest ih =>
    rw [acceptedFrom_cons, rejectionsFrom_cons]
    exact .cons (Rule.parse_gives vocabulary number text) (ih (number + 1))

theorem acceptedFrom_append (vocabulary : Vocabulary) (number : Int)
    (first second : List String) :
    acceptedFrom vocabulary number (first ++ second) =
      acceptedFrom vocabulary number first ++
        acceptedFrom vocabulary (number + first.length) second := by
  rw [acceptedFrom, Text.numbered_append, List.filterMap_append, acceptedFrom, acceptedFrom]

theorem rejectionsFrom_append (vocabulary : Vocabulary) (number : Int)
    (first second : List String) :
    rejectionsFrom vocabulary number (first ++ second) =
      rejectionsFrom vocabulary number first ++
        rejectionsFrom vocabulary (number + first.length) second := by
  rw [rejectionsFrom, Text.numbered_append, List.filterMap_append, rejectionsFrom, rejectionsFrom]

theorem acceptedFrom_lowered (vocabulary : Vocabulary) (number offset : Int)
    (lines : List String) :
    acceptedFrom vocabulary (number + offset) lines =
      (acceptedFrom vocabulary number lines).map (Rule.lowered offset) := by
  induction lines generalizing number with
  | nil => rfl
  | cons text rest ih =>
    have next : number + offset + 1 = number + 1 + offset := by omega
    rw [acceptedFrom_cons, acceptedFrom_cons, List.map_append, ← ih, next,
      Rule.accepted?_lowered]
    cases Rule.accepted? vocabulary (number, text) <;> rfl

theorem length_acceptedFrom (vocabulary : Vocabulary) (number : Int) (lines : List String) :
    (acceptedFrom vocabulary number lines).length +
      (rejectionsFrom vocabulary number lines).length + lines.countP Text.isSkipped =
        lines.length := by
  induction lines generalizing number with
  | nil => rfl
  | cons text rest ih =>
    have here := Rule.length_accepted? vocabulary number text
    have later := ih (number + 1)
    rw [acceptedFrom_cons, rejectionsFrom_cons, List.length_append, List.length_append,
      List.countP_cons, List.length_cons]
    omega

theorem acceptedFrom_placed {number : Int} {lines : List String} {rule : Rule}
    (member : rule ∈ acceptedFrom vocabulary number lines) :
    ∃ (index : Nat) (text : String), lines[index]? = some text ∧
      rule.line = some (number + index) ∧
      (Rule.parse vocabulary text (some (number + index))).Gives (some rule) [] := by
  obtain ⟨line, inLines, accepted⟩ := List.mem_filterMap.mp member
  obtain ⟨index, here, same⟩ := Text.mem_numbered inLines
  have found := Rule.accepted?_eq_some.mp accepted
  rw [same] at found
  exact ⟨index, line.2, here, (Rule.read_eq_some.mp found).2.1, Rule.parse_of_ok found⟩

theorem acceptedFrom_increasing (vocabulary : Vocabulary) (number : Int) (lines : List String) :
    (acceptedFrom vocabulary number lines).Pairwise Rule.Precedes := by
  refine (Text.numbered_increasing number lines).filterMap _ ?_
  intro line later before rule accepted other otherAccepted
  exact ⟨line.1, later.1, (Rule.read_eq_some.mp (Rule.accepted?_eq_some.mp accepted)).2.1,
    (Rule.read_eq_some.mp (Rule.accepted?_eq_some.mp otherAccepted)).2.1, before⟩

theorem ofRules_rules (set : RuleSet) : ofRules set.vocabulary set.rules = .ok set := by
  unfold ofRules
  split
  · rename_i rule misfit
    have unfit := List.find?_some misfit
    rw [set.fits rule (List.mem_of_find?_eq_some misfit), bne_self_eq_false] at unfit
    cases unfit
  · rfl

/-- What is to be said of a rule set and the reports that come of lines. The rules are made to the
set without a fault. They are what is found in the lines when these are read one after the other,
each in the line whose number it has, and in the order of the lines. All that is reported is a
warning, and each line is skipped, has a rule or is warned of. -/
structure Accounts (vocabulary : Vocabulary) (lines : List String) (set : RuleSet)
    (reports : List Record) : Prop where
  made : ofRules vocabulary set.rules = .ok set
  readOn : ReadOn vocabulary 1 lines set.rules reports
  placed : ∀ rule ∈ set.rules, ∃ (index : Nat) (text : String), lines[index]? = some text ∧
    rule.line = some (1 + index) ∧
    (Rule.parse vocabulary text (some (1 + index))).Gives (some rule) []
  increasing : set.rules.Pairwise Rule.Precedes
  warned : ∀ record ∈ reports, record.level = .warn
  complete : set.rules.length + reports.length + lines.countP Text.isSkipped = lines.length

theorem accounts (vocabulary : Vocabulary) (lines : List String) :
    Accounts vocabulary lines ((empty vocabulary).extend 1 lines)
      (rejectionsFrom vocabulary 1 lines) where
  made := ofRules_rules ((empty vocabulary).extend 1 lines)
  readOn := readOn vocabulary 1 lines
  placed _ member := acceptedFrom_placed member
  increasing := acceptedFrom_increasing vocabulary 1 lines
  warned _ member := rejectionsFrom_warn member
  complete := length_acceptedFrom vocabulary 1 lines

/-- Lines always give a rule set. It accounts for each of them. What is loaded of lines and others
after them is what is loaded of either, where the others are read from where the first end. -/
theorem ofLines_accounts (vocabulary : Vocabulary) (first second : List String) :
    ∃ set other whole reports otherReports raised,
      (ofLines vocabulary first).Gives set reports ∧
      (ofLines vocabulary second).Gives other otherReports ∧
      (ofLines vocabulary (first ++ second)).Gives whole (reports ++ raised) ∧
      Accounts vocabulary first set reports ∧
      whole.rules = set.rules ++ other.rules.map (Rule.lowered first.length) ∧
      ReadOn vocabulary (1 + first.length) second
        (other.rules.map (Rule.lowered first.length)) raised := by
  refine ⟨(empty vocabulary).extend 1 first, (empty vocabulary).extend 1 second,
    (empty vocabulary).extend 1 (first ++ second), rejectionsFrom vocabulary 1 first,
    rejectionsFrom vocabulary 1 second, rejectionsFrom vocabulary (1 + first.length) second,
    ofLines_gives vocabulary first, ofLines_gives vocabulary second, ?_,
    accounts vocabulary first, ?_, ?_⟩
  · rw [← rejectionsFrom_append]
    exact ofLines_gives vocabulary (first ++ second)
  · rw [rules_extend_empty, rules_extend_empty, rules_extend_empty, acceptedFrom_append,
      acceptedFrom_lowered]
  · rw [rules_extend_empty, ← acceptedFrom_lowered]
    exact readOn vocabulary (1 + first.length) second

end RuleSet

end MultisetSubstitution
