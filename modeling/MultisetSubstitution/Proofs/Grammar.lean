import MultisetSubstitution.Proofs.Effects
import MultisetSubstitution.Proofs.Lines
import MultisetSubstitution.Proofs.Numbers
import MultisetSubstitution.Proofs.Reading

/-! The grammar of the lines that hold rules. A line is skipped, or it holds a rule, or it has a
first fault, and the reader of rules follows this for every line. -/

set_option autoImplicit false

namespace MultisetSubstitution

namespace Vocabulary

variable {vocabulary : Vocabulary} {tokens others : List String}

def occurrences (vocabulary : Vocabulary) (tokens : List String) : Counts :=
  vocabulary.names.map fun name => (tokens.count name : Int)

theorem tally_zeros_eq (vocabulary : Vocabulary) (tokens : List String) :
    vocabulary.tally vocabulary.zeros tokens = vocabulary.occurrences (tokens.map Text.trim) := by
  apply List.ext_getElem?
  intro id
  rw [occurrences, List.getElem?_map]
  cases here : vocabulary.names[id]? with
  | none =>
    have tallied : vocabulary.Counted (vocabulary.tally vocabulary.zeros tokens) :=
      Counted.zeros.tally tokens
    have outside : vocabulary.size ≤ id := List.getElem?_eq_none_iff.mp here
    exact List.getElem?_eq_none (tallied.length ▸ outside)
  | some name =>
    have inside : id < vocabulary.size := (List.getElem?_eq_some_iff.mp here).1
    rw [getElem?_tally here, zeros, Counts.zeros, List.getElem?_replicate_of_lt inside]
    simp

theorem tally_zeros (named : ∀ token ∈ tokens, token ∈ vocabulary.names) :
    vocabulary.tally vocabulary.zeros tokens = vocabulary.occurrences tokens := by
  rw [tally_zeros_eq, map_trim_of_names named]

theorem readSide_of_named {text : String}
    (named : ∀ token ∈ Text.tokens text, token ∈ vocabulary.names) :
    vocabulary.readSide text = .ok (vocabulary.occurrences (Text.tokens text)) :=
  readSide_eq_ok.mpr ⟨named, (tally_zeros named).symm⟩

theorem isZero_occurrences (named : ∀ token ∈ tokens, token ∈ vocabulary.names) :
    (vocabulary.occurrences tokens).isZero = true ↔ tokens = [] := by
  have absent : (vocabulary.occurrences tokens).isZero = true ↔
      ∀ name ∈ vocabulary.names, name ∉ tokens := by
    simp [Counts.isZero, occurrences, List.count_eq_zero]
  rw [absent, List.eq_nil_iff_forall_not_mem]
  exact ⟨fun none token member => none token (named token member) member,
    fun none name _ => none name⟩

/-- Names that occur as often are the same multiset, since nothing else is among the tokens. -/
theorem occurrences_eq_iff (named : ∀ token ∈ tokens, token ∈ vocabulary.names)
    (othersNamed : ∀ token ∈ others, token ∈ vocabulary.names) :
    vocabulary.occurrences tokens = vocabulary.occurrences others ↔ tokens.Perm others := by
  rw [occurrences, occurrences, List.map_inj_left, List.perm_iff_count]
  constructor
  · intro same token
    by_cases name : token ∈ vocabulary.names
    · exact Int.ofNat_inj.mp (same token name)
    · rw [List.count_eq_zero.mpr fun member => name (named token member),
        List.count_eq_zero.mpr fun member => name (othersNamed token member)]
  · intro same name _
    exact congrArg Int.ofNat (same name)

end Vocabulary

namespace Text

/-- The two sides of the only arrow in a text. -/
structure Parted (text left right : String) : Prop where
  whole : text = left ++ arrow ++ right
  leftArrowless : Arrowless left.toList
  rightArrowless : Arrowless right.toList

theorem Parted.arrowPieces_eq {text left right : String} (parted : Parted text left right) :
    arrowPieces text = [left, right] :=
  arrowPieces_eq_pair.mpr ⟨parted.whole, parted.leftArrowless, parted.rightArrowless⟩

theorem parted_of_arrowPieces {text left right : String}
    (pieces : arrowPieces text = [left, right]) : Parted text left right := by
  obtain ⟨whole, leftArrowless, rightArrowless⟩ := arrowPieces_eq_pair.mp pieces
  exact ⟨whole, leftArrowless, rightArrowless⟩

end Text

namespace Rule

variable {vocabulary : Vocabulary} {text : String} {line : Option Int}

theorem ofSides_eq_ok {inputs outputs : Counts} {rule : Rule} :
    ofSides inputs outputs line = .ok rule ↔
      rule.inputs = inputs ∧ rule.outputs = outputs ∧ rule.line = line := by
  constructor
  · intro made
    unfold ofSides at made
    split at made
    · split at made
      · split at made
        · split at made
          · cases made
            exact ⟨rfl, rfl, rfl⟩
          · cases made
        · cases made
      · cases made
    · cases made
  · rintro ⟨rfl, rfl, rfl⟩
    have signs : rule.inputs.hasNegative = false ∧ rule.outputs.hasNegative = false :=
      ⟨Counts.hasNegative_eq_false.mpr rule.inputsNonnegative,
        Counts.hasNegative_eq_false.mpr rule.outputsNonnegative⟩
    rw [ofSides, dif_pos rule.sameLength, dif_pos signs, dif_pos rule.consumes,
      dif_pos rule.changes]

def Skipped (text : String) : Prop :=
  Text.trim text = "" ∨ Text.beginsWith (Text.trim text) "#" = true

def Named (vocabulary : Vocabulary) (side : String) : Prop :=
  ∀ token ∈ Text.tokens side, token ∈ vocabulary.names

/-- A side with a token that is no name, with only names before it. -/
def FirstUnknown (vocabulary : Vocabulary) (side token : String) : Prop :=
  ∃ before after, Text.tokens side = before ++ token :: after ∧
    (∀ name ∈ before, name ∈ vocabulary.names) ∧ token ∉ vocabulary.names

/-- A text in which names are taken out and others, or not as many, are put in. -/
structure Grammatical (vocabulary : Vocabulary) (text left right : String) : Prop where
  parted : Text.Parted text left right
  leftNamed : Named vocabulary left
  rightNamed : Named vocabulary right
  consumes : Text.tokens left ≠ []
  changes : ¬ (Text.tokens left).Perm (Text.tokens right)

inductive FirstFault (vocabulary : Vocabulary) (text : String) : Rejection → Prop
  | arrows (unparted : ∀ left right, ¬ Text.Parted text left right) :
      FirstFault vocabulary text .arrows
  | unknownLeft {left right token : String} (parted : Text.Parted text left right)
      (unknown : FirstUnknown vocabulary left token) :
      FirstFault vocabulary text (.unknown token)
  | noInput {left right : String} (parted : Text.Parted text left right)
      (none : Text.tokens left = []) :
      FirstFault vocabulary text .noInput
  | unknownRight {left right token : String} (parted : Text.Parted text left right)
      (leftNamed : Named vocabulary left) (some : Text.tokens left ≠ [])
      (unknown : FirstUnknown vocabulary right token) :
      FirstFault vocabulary text (.unknown token)
  | unchanged {left right : String} (parted : Text.Parted text left right)
      (leftNamed : Named vocabulary left) (some : Text.tokens left ≠ [])
      (rightNamed : Named vocabulary right)
      (same : (Text.tokens left).Perm (Text.tokens right)) :
      FirstFault vocabulary text .unchanged

/-- What there is in a line, and what is to be reported of it. -/
inductive Reading (vocabulary : Vocabulary) (text : String) (line : Option Int) :
    Option Rule → List Record → Prop
  | skipped (skipped : Skipped text) : Reading vocabulary text line none []
  | rule {left right : String} {rule : Rule} (held : ¬ Skipped text)
      (grammatical : Grammatical vocabulary text left right)
      (inputs : rule.inputs = vocabulary.occurrences (Text.tokens left))
      (outputs : rule.outputs = vocabulary.occurrences (Text.tokens right))
      (number : rule.line = line) : Reading vocabulary text line (some rule) []
  | rejected {rejection : Rejection} (held : ¬ Skipped text)
      (fault : FirstFault vocabulary text rejection) :
      Reading vocabulary text line none [⟨.warn, rejection.message line⟩]

theorem named_or_firstUnknown (vocabulary : Vocabulary) (side : String) :
    Named vocabulary side ∨ ∃ token, FirstUnknown vocabulary side token := by
  cases unknown : (Text.tokens side).find? (· ∉ vocabulary.names) with
  | none =>
    left
    intro token member
    simpa using List.find?_eq_none.mp unknown token member
  | some token =>
    right
    obtain ⟨missing, before, after, tokens, names⟩ := List.find?_eq_some_iff_append.mp unknown
    exact ⟨token, before, after, tokens, fun name member => by simpa using names name member,
      by simpa using missing⟩

theorem FirstUnknown.readSide_eq {side token : String}
    (unknown : FirstUnknown vocabulary side token) :
    vocabulary.readSide side = .error token := by
  obtain ⟨before, after, tokens, names, missing⟩ := unknown
  rw [Vocabulary.readSide_eq_error, List.find?_eq_some_iff_append]
  exact ⟨by simpa using missing, before, after, tokens, fun name member => by
    simpa using names name member⟩

theorem isZero_of_consumes {side : String} (named : Named vocabulary side)
    (some : Text.tokens side ≠ []) :
    (vocabulary.occurrences (Text.tokens side)).isZero = false :=
  Bool.eq_false_iff.mpr fun zero => some ((Vocabulary.isZero_occurrences named).mp zero)

/-- The sides of a grammatical text pass all that is asked of the sides of a rule. -/
theorem Grammatical.makes {left right : String}
    (grammatical : Grammatical vocabulary text left right) (line : Option Int) :
    ∃ rule, ofSides (vocabulary.occurrences (Text.tokens left))
      (vocabulary.occurrences (Text.tokens right)) line = .ok rule := by
  have changes : vocabulary.occurrences (Text.tokens left) ≠
      vocabulary.occurrences (Text.tokens right) := fun same =>
    grammatical.changes
      ((Vocabulary.occurrences_eq_iff grammatical.leftNamed grammatical.rightNamed).mp same)
  obtain ⟨rule, -, inputs, outputs, number⟩ :=
    readSides_of_changed (Vocabulary.readSide_of_named grammatical.leftNamed)
      (isZero_of_consumes grammatical.leftNamed grammatical.consumes)
      (Vocabulary.readSide_of_named grammatical.rightNamed) changes line
  exact ⟨rule, ofSides_eq_ok.mpr ⟨inputs, outputs, number⟩⟩

theorem FirstFault.read_eq {rejection : Rejection} (held : Text.isSkipped text = false)
    (fault : FirstFault vocabulary text rejection) (line : Option Int) :
    read vocabulary text line = .error rejection := by
  have sides : ∀ {left right}, Text.Parted text left right →
      readSides vocabulary left right line = .error rejection →
      read vocabulary text line = .error rejection := by
    intro left right parted rejected
    rw [read, held, parted.arrowPieces_eq]
    simp only [Bool.false_eq_true, if_false, rejected]
    rfl
  cases fault with
  | arrows unparted =>
    rw [read, held]
    simp only [Bool.false_eq_true, if_false]
    split
    · rename_i left right pieces
      exact absurd (Text.parted_of_arrowPieces pieces) (unparted left right)
    · rfl
  | unknownLeft parted unknown => exact sides parted (readSides_of_unknown_left unknown.readSide_eq)
  | @noInput left right parted none =>
    have named : Named vocabulary left := by simp [Named, none]
    exact sides parted (readSides_of_no_input (Vocabulary.readSide_of_named named)
      ((Vocabulary.isZero_occurrences named).mpr none))
  | unknownRight parted leftNamed some unknown =>
    exact sides parted (readSides_of_unknown_right (Vocabulary.readSide_of_named leftNamed)
      (isZero_of_consumes leftNamed some) unknown.readSide_eq)
  | unchanged parted leftNamed some rightNamed same =>
    have counted := (Vocabulary.occurrences_eq_iff leftNamed rightNamed).mpr same
    exact sides parted (readSides_of_unchanged (Vocabulary.readSide_of_named leftNamed)
      (isZero_of_consumes leftNamed some)
      (counted ▸ Vocabulary.readSide_of_named rightNamed))

theorem parse_of_ok {found : Option Rule} (same : read vocabulary text line = .ok found) :
    (parse vocabulary text line).Gives found [] := by
  rw [parse, same]
  exact Reporting.gives_perform found []

theorem Rejection.report_bind {α : Type} {rejection : Rejection} {value : α} :
    (do rejection.report line; return value) = Reporting.perform value
      [.spell line.toList, .tell ⟨.warn, rejection.message line⟩] := by
  rw [report, bind_assoc]
  exact Reporting.write_bind (Reporting.warn_bind rfl)

theorem parse_eq_of_error {rejection : Rejection}
    (rejected : read vocabulary text line = .error rejection) :
    parse vocabulary text line = Reporting.perform none
      [.spell line.toList, .tell ⟨.warn, rejection.message line⟩] := by
  rw [parse, rejected]
  exact Rejection.report_bind

theorem parse_of_error {rejection : Rejection}
    (rejected : read vocabulary text line = .error rejection) :
    (parse vocabulary text line).GivesWith line.toList none
      [⟨.warn, rejection.message line⟩] := by
  rw [parse_eq_of_error rejected]
  exact Reporting.givesWith_perform line.toList none ⟨.warn, rejection.message line⟩

theorem Reading.parse_gives {found : Option Rule} {reports : List Record}
    (reading : Reading vocabulary text line found reports) :
    (parse vocabulary text line).GivesWith line.toList found reports := by
  cases reading with
  | skipped skipped =>
    refine (parse_of_ok ?_).givesWith _
    rw [read, if_pos (Text.isSkipped_iff.mpr skipped)]
  | @rule left right rule held grammatical inputs outputs number =>
    refine (parse_of_ok (read_eq_some.mpr ⟨Bool.eq_false_iff.mpr (mt Text.isSkipped_iff.mp held),
      number, left, right, grammatical.parted.arrowPieces_eq, ?_, ?_⟩)).givesWith _
    · rw [inputs, Vocabulary.readSide_of_named grammatical.leftNamed]
    · rw [outputs, Vocabulary.readSide_of_named grammatical.rightNamed]
  | rejected held fault =>
    have unskipped := Bool.eq_false_iff.mpr (mt Text.isSkipped_iff.mp held)
    exact parse_of_error (fault.read_eq unskipped line)

theorem exists_reading (vocabulary : Vocabulary) (text : String) (line : Option Int) :
    ∃ found reports, Reading vocabulary text line found reports := by
  by_cases held : Skipped text
  · exact ⟨none, [], .skipped held⟩
  have faulty : ∀ {rejection}, FirstFault vocabulary text rejection →
      ∃ found reports, Reading vocabulary text line found reports :=
    fun fault => ⟨none, _, .rejected held fault⟩
  by_cases parted : ∃ left right, Text.Parted text left right
  · obtain ⟨left, right, parted⟩ := parted
    -- The faults in the order in which they are looked for.
    rcases named_or_firstUnknown vocabulary left with leftNamed | ⟨token, unknown⟩
    · by_cases none : Text.tokens left = []
      · exact faulty (.noInput parted none)
      · rcases named_or_firstUnknown vocabulary right with rightNamed | ⟨token, unknown⟩
        · by_cases same : (Text.tokens left).Perm (Text.tokens right)
          · exact faulty (.unchanged parted leftNamed none rightNamed same)
          · have grammatical : Grammatical vocabulary text left right :=
              ⟨parted, leftNamed, rightNamed, none, same⟩
            obtain ⟨rule, made⟩ := grammatical.makes line
            obtain ⟨inputs, outputs, number⟩ := ofSides_eq_ok.mp made
            exact ⟨some rule, [], .rule held grammatical inputs outputs number⟩
        · exact faulty (.unknownRight parted leftNamed none unknown)
    · exact faulty (.unknownLeft parted unknown)
  · exact faulty (.arrows fun left right here => parted ⟨left, right, here⟩)

/-- Reading a line follows the grammar. Every line has a reading: nothing for a line that is
skipped, the rule of a grammatical line, and otherwise one warning of the first fault. What is given
is just that, unless there is a warning and the number of the line is too long for it. The counts of
a grammatical line always make a rule. -/
theorem parse_follows_grammar (vocabulary : Vocabulary) (text : String) (line : Option Int) :
    (∃ found reports, Reading vocabulary text line found reports) ∧
    (∀ found reports, (parse vocabulary text line).GivesWith line.toList found reports ↔
      Reading vocabulary text line found reports) ∧
    ∀ left right, Grammatical vocabulary text left right →
      ∃ rule, ofSides (vocabulary.occurrences (Text.tokens left))
        (vocabulary.occurrences (Text.tokens right)) line = .ok rule := by
  obtain ⟨found, reports, reading⟩ := exists_reading vocabulary text line
  refine ⟨⟨found, reports, reading⟩, fun other others => ⟨fun gives => ?_,
    Reading.parse_gives⟩, fun left right grammatical => grammatical.makes line⟩
  obtain ⟨rfl, rfl⟩ := reading.parse_gives.unique gives
  exact reading

/-- A line without an arrow is no rule. If its number is too long to be written, there is no warning
of it, and reading it gives nothing. -/
theorem parse_without_warning :
    (∃ told, Reading .empty "water" (some Text.overlong) none [told]) ∧
    (parse .empty "water" (some Text.overlong)).runWith ⟨.collecting, some Text.digitLimit⟩ {} =
      (.error .longNumber, {}) := by
  have reading : Reading .empty "water" (some Text.overlong) none
      [⟨.warn, Rejection.arrows.message (some Text.overlong)⟩] := by
    refine .rejected (mt Text.isSkipped_iff.mpr (by decide +kernel)) (.arrows ?_)
    intro left right parted
    have pieces : Text.arrowPieces "water" = ["water"] := by decide +kernel
    rw [parted.arrowPieces_eq] at pieces
    simp at pieces
  refine ⟨⟨_, reading⟩, ?_⟩
  rw [reading.parse_gives _ Sink.accepting_collecting, if_neg]
  simp [Text.not_fits_overlong.1]

end Rule

end MultisetSubstitution
