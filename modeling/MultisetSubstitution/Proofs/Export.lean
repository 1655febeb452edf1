import MultisetSubstitution.Proofs.Loading

/-! Rule sets written as text and loaded again. A rule is read back from its line if the names that
it needs hold no comma and no arrow and the line is no comment, and rules that were loaded are such
rules. -/

set_option autoImplicit false

namespace MultisetSubstitution

namespace Rule

/-- The names on the line of a rule can be told apart there, and the line is no comment. -/
structure Writable (vocabulary : Vocabulary) (rule : Rule) : Prop where
  plain : ∀ name ∈ vocabulary.attributes rule.inputs ++ vocabulary.attributes rule.outputs,
    ',' ∉ name.toList ∧ Text.Arrowless name.toList
  uncommented : ∀ name ∈ (vocabulary.attributes rule.inputs).head?, Text.isSkipped name = false

variable {vocabulary : Vocabulary} {rule : Rule}

theorem plain_of_read {text : String} {line : Option Int}
    (found : read vocabulary text line = .ok (some rule)) :
    ∀ name ∈ vocabulary.attributes rule.inputs ++ vocabulary.attributes rule.outputs,
      ',' ∉ name.toList ∧ Text.Arrowless name.toList := by
  obtain ⟨_, _, left, right, pieces, leftRead, rightRead⟩ := read_eq_some.mp found
  -- Each token is part of a piece between arrows and of a piece between commas.
  have plainToken : ∀ side ∈ Text.arrowPieces text, ∀ token ∈ Text.tokens side,
      ',' ∉ token.toList ∧ Text.Arrowless token.toList := by
    intro side inPieces token inSide
    obtain ⟨piece, member, rfl⟩ := List.mem_map.mp inPieces
    obtain ⟨within, noComma⟩ := Text.of_mem_tokens inSide
    rw [String.toList_ofList] at within
    exact ⟨noComma, (Text.arrowless_of_mem_pieces member).of_isInfix within⟩
  intro name member
  rcases List.mem_append.mp member with input | output
  · exact plainToken left (by simp [pieces]) name
      (Vocabulary.mem_tokens_of_readSide leftRead input)
  · exact plainToken right (by simp [pieces]) name
      (Vocabulary.mem_tokens_of_readSide rightRead output)

theorem writable_of_read {text : String} {line : Option Int}
    (uncommented : vocabulary.Uncommented)
    (found : read vocabulary text line = .ok (some rule)) : rule.Writable vocabulary where
  plain := plain_of_read found
  uncommented name first :=
    uncommented name (Vocabulary.name_of_mem_attributes (List.mem_of_mem_head? first))

theorem attributes_inputs_ne_nil (fits : rule.dimension = vocabulary.size) :
    vocabulary.attributes rule.inputs ≠ [] := by
  intro none
  have zero := Vocabulary.tally_attributes (rule.counted_inputs fits)
  rw [none] at zero
  have consumes := rule.consumes
  rw [← zero] at consumes
  simp [Vocabulary.tally, Vocabulary.zeros, Counts.zeros, Counts.isZero] at consumes

/-- Blanks are trimmed only after the arrow, so the left side keeps its space. -/
theorem source_eq (vocabulary : Vocabulary) (rule : Rule) :
    rule.source vocabulary = sideSource vocabulary rule.inputs ++ " " ++ Text.arrow ++
      .ofList (Text.trimEnd (" " ++ sideSource vocabulary rule.outputs).toList) := by
  have chars : (sideSource vocabulary rule.inputs ++ " " ++ Text.arrow ++ " " ++
      sideSource vocabulary rule.outputs).toList =
        (sideSource vocabulary rule.inputs ++ " -").toList ++
          '>' :: (" " ++ sideSource vocabulary rule.outputs).toList := by
    simp [Text.arrow]
  rw [source, chars, Text.trimEnd_append_cons (by decide), ← String.toList_inj]
  simp [Text.arrow]

theorem source_ne_empty (vocabulary : Vocabulary) (rule : Rule) :
    rule.source vocabulary ≠ "" := by
  rw [source_eq]
  simp [Text.arrow]

/-- A line begins with the first attribute, and is a comment if the name of that is one. -/
theorem isSkipped_source {name : String}
    (first : (vocabulary.attributes rule.inputs).head? = some name) :
    Text.isSkipped (rule.source vocabulary) = Text.isSkipped name := by
  obtain ⟨rest, attributes⟩ := List.head?_eq_some_iff.mp first
  have member : name ∈ vocabulary.attributes rule.inputs := attributes ▸ List.mem_cons_self
  have valid := vocabulary.valid name (Vocabulary.name_of_mem_attributes member)
  obtain ⟨more, begins⟩ : ∃ more, sideSource vocabulary rule.inputs = name ++ more := by
    rw [sideSource, ← Vocabulary.attributes, attributes]
    cases rest with
    | nil => exact ⟨"", by simp⟩
    | cons next rest => exact ⟨_, by rw [String.intercalate_cons_cons, String.append_assoc]⟩
  rw [source_eq, begins, String.append_assoc, String.append_assoc, String.append_assoc,
    Text.isSkipped_append valid]

theorem Writable.source_sides (writable : rule.Writable vocabulary) :
    ∃ right, rule.source vocabulary =
        sideSource vocabulary rule.inputs ++ " " ++ Text.arrow ++ right ∧
      Text.Arrowless right.toList ∧ Text.tokens right = vocabulary.attributes rule.outputs := by
  have plain : ∀ name ∈ vocabulary.attributes rule.outputs, _ := fun name member =>
    writable.plain name (List.mem_append_right _ member)
  have spaced : Text.Arrowless (" " ++ sideSource vocabulary rule.outputs).toList := by
    rw [String.toList_append]
    exact Text.arrowless_nil.append_cons
      (Text.arrowless_joined fun name member => (plain name member).2) (by decide) (by decide)
  refine ⟨_, source_eq vocabulary rule, ?_, ?_⟩
  · rw [String.toList_ofList]
    exact spaced.of_isInfix (Text.trimEnd_isPrefix _).isInfix
  · exact Text.tokens_trimEnd_joined
      (fun name member => vocabulary.valid name (Vocabulary.name_of_mem_attributes member))
      (fun name member => (plain name member).1) Text.blank_space

theorem Writable.isSkipped_source (writable : rule.Writable vocabulary)
    (fits : rule.dimension = vocabulary.size) :
    Text.isSkipped (rule.source vocabulary) = false := by
  obtain ⟨name, first⟩ := Option.ne_none_iff_exists'.mp
    (mt List.head?_eq_none_iff.mp (attributes_inputs_ne_nil fits))
  rw [Rule.isSkipped_source first]
  exact writable.uncommented name first

theorem Writable.read_source (writable : rule.Writable vocabulary)
    (fits : rule.dimension = vocabulary.size) (line : Option Int) :
    read vocabulary (rule.source vocabulary) line = .ok (some { rule with line := line }) := by
  obtain ⟨right, same, arrowless, outputs⟩ := writable.source_sides
  have plain : ∀ name ∈ vocabulary.attributes rule.inputs, _ := fun name member =>
    writable.plain name (List.mem_append_left _ member)
  have inputs : Text.tokens (sideSource vocabulary rule.inputs ++ " ") =
      vocabulary.attributes rule.inputs := by
    have joined := Text.tokens_joined
      (fun name member => vocabulary.valid name (Vocabulary.name_of_mem_attributes member))
      (fun name member => (plain name member).1) Text.blank_empty Text.blank_space
    rwa [String.empty_append] at joined
  have spaced : Text.Arrowless (sideSource vocabulary rule.inputs ++ " ").toList := by
    rw [String.toList_append]
    exact (Text.arrowless_joined fun name member => (plain name member).2).append_cons
      Text.arrowless_nil (by decide) (by decide)
  refine read_eq_some.mpr ⟨writable.isSkipped_source fits, rfl,
    sideSource vocabulary rule.inputs ++ " ", right, ?_,
    Vocabulary.readSide_of_tokens (counted_inputs fits) inputs,
    Vocabulary.readSide_of_tokens (counted_outputs fits) outputs⟩
  have chars : (rule.source vocabulary).toList =
      (sideSource vocabulary rule.inputs ++ " ").toList ++ '-' :: '>' :: right.toList := by
    simp [same, Text.arrow]
  rw [Text.arrowPieces, chars, Text.arrowPieceChars_append spaced,
    Text.arrowPieceChars_of_arrowless arrowless]
  simp

theorem unbroken_source (vocabulary : Vocabulary) (rule : Rule) :
    Text.Unbroken (rule.source vocabulary) := by
  have side : ∀ counts, Text.Unbroken (sideSource vocabulary counts) := fun counts =>
    Text.unbroken_joined fun name member =>
      vocabulary.valid name (Vocabulary.name_of_mem_attributes member)
  have space : Text.Unbroken " " := Text.unbroken_of_all rfl
  have arrow : Text.Unbroken Text.arrow := Text.unbroken_of_all rfl
  have line := (((side rule.inputs).append space).append arrow).append space
  intro c member
  rw [source, String.toList_ofList] at member
  exact line.append (side rule.outputs) c ((Text.trimEnd_isPrefix _).subset member)

def renumbered (number : Int) : List Rule → List Rule
  | [] => []
  | rule :: rest => { rule with line := some number } :: renumbered (number + 1) rest

theorem map_renumbered {α : Type} {view : Rule → α}
    (blind : ∀ (rule : Rule) line, view { rule with line := line } = view rule) (number : Int)
    (rules : List Rule) : (renumbered number rules).map view = rules.map view := by
  induction rules generalizing number with
  | nil => rfl
  | cons rule rest ih => rw [renumbered, List.map_cons, List.map_cons, blind, ih]

def sides (rule : Rule) : Counts × Counts := (rule.inputs, rule.outputs)

theorem sideCopies_eq {counts : Counts} (counted : vocabulary.Counted counts) :
    sideCopies vocabulary counts = counts :=
  List.map_snd_zip (Nat.le_of_eq counted.length)

end Rule

namespace RuleSet

variable {vocabulary : Vocabulary}

theorem acceptedFrom_sources {rules : List Rule}
    (writable : ∀ rule ∈ rules, rule.Writable vocabulary)
    (fits : ∀ rule ∈ rules, rule.dimension = vocabulary.size) (number : Int) :
    acceptedFrom vocabulary number (rules.map (Rule.source vocabulary)) =
      Rule.renumbered number rules := by
  induction rules generalizing number with
  | nil => rfl
  | cons rule rest ih =>
    obtain ⟨here, later⟩ := List.forall_mem_cons.mp writable
    obtain ⟨size, sizes⟩ := List.forall_mem_cons.mp fits
    have found : Rule.accepted? vocabulary (number, rule.source vocabulary) =
        some { rule with line := some number } :=
      Rule.accepted?_eq_some.mpr (here.read_source size (some number))
    rw [acceptedFrom, List.map_cons, Text.numbered, List.filterMap_cons_some found,
      Rule.renumbered, ← ih later sizes, acceptedFrom]

theorem rejectionsFrom_sources {rules : List Rule}
    (writable : ∀ rule ∈ rules, rule.Writable vocabulary)
    (fits : ∀ rule ∈ rules, rule.dimension = vocabulary.size) (number : Int) :
    rejectionsFrom vocabulary number (rules.map (Rule.source vocabulary)) = [] := by
  induction rules generalizing number with
  | nil => rfl
  | cons rule rest ih =>
    obtain ⟨here, later⟩ := List.forall_mem_cons.mp writable
    obtain ⟨size, sizes⟩ := List.forall_mem_cons.mp fits
    have silent : Rule.rejection? vocabulary (number, rule.source vocabulary) = none :=
      Rule.rejection?_of_ok (here.read_source size (some number))
    rw [rejectionsFrom, List.map_cons, Text.numbered, List.filterMap_cons_none silent,
      ← rejectionsFrom, ih later sizes]

theorem lines_source (set : RuleSet) :
    Text.lines (set.source none) = set.rules.map (Rule.source set.vocabulary) := by
  apply Text.lines_joined
  · intro text member
    obtain ⟨rule, _, rfl⟩ := List.mem_map.mp member
    exact rule.source_ne_empty set.vocabulary
  · intro text member
    obtain ⟨rule, _, rfl⟩ := List.mem_map.mp member
    exact rule.unbroken_source set.vocabulary

theorem ofText_source {set : RuleSet}
    (writable : ∀ rule ∈ set.rules, rule.Writable set.vocabulary) :
    ∃ reloaded, ofText set.vocabulary (set.source none) = pure reloaded ∧
      reloaded.vocabulary = set.vocabulary ∧
      reloaded.rules = Rule.renumbered 1 set.rules := by
  refine ⟨loaded set.vocabulary (set.source none), ?_, rfl, ?_⟩
  · rw [ofText_eq_perform, lines_source, rejectionsFrom_sources writable set.fits]
    rfl
  · rw [rules_loaded, lines_source]
    exact acceptedFrom_sources writable set.fits 1

theorem writable_of_mem_loaded (uncommented : vocabulary.Uncommented) {text : String} {rule : Rule}
    (member : rule ∈ (loaded vocabulary text).rules) : rule.Writable vocabulary := by
  obtain ⟨_, _, _, found⟩ := exists_of_mem_loaded member
  exact Rule.writable_of_read uncommented found

theorem mem_copies {set : RuleSet} {count : Int} :
    count ∈ set.copies ↔ ∃ rule ∈ set.rules, count ∈ rule.inputs ∨ count ∈ rule.outputs := by
  rw [copies, List.mem_flatMap]
  refine exists_congr fun rule => and_congr_right fun member => ?_
  rw [Rule.sideCopies_eq (Rule.counted_inputs (set.fits rule member)),
    Rule.sideCopies_eq (Rule.counted_outputs (set.fits rule member)), List.mem_append]

theorem checkedSource_eq_ok {set : RuleSet} {heading : Option String} {memory : Memory}
    {text : String} :
    set.checkedSource heading memory = .ok text ↔
      text = set.source heading ∧ Repetition.Possible memory set.copies := by
  rw [checkedSource, ← Repetition.fault?_eq_none]
  cases Repetition.fault? memory set.copies <;> simp [eq_comm]

/-- No rule asks for more copies of a name than there are characters in the text it is loaded from.
-/
theorem copies_loaded_inRange {text : String} (short : text.length < 0x8000000000000000) :
    ∀ count ∈ (loaded vocabulary text).copies, isIndex count = true := by
  intro count member
  obtain ⟨rule, inSet, counted⟩ := mem_copies.mp member
  obtain ⟨line, inText, _, found⟩ := exists_of_mem_loaded inSet
  have nonnegative : 0 ≤ count :=
    counted.elim (rule.inputsNonnegative count) (rule.outputsNonnegative count)
  have shorter := Text.length_le_of_mem_lines inText
  have room := Rule.le_length_of_read found counted
  rw [isIndex, Bool.and_eq_true, decide_eq_true_iff, decide_eq_true_iff]
  omega

/-- What is loaded from a text is written out as a text that loads again. From any text of names and
any text of rules a vocabulary and a rule set are loaded. The rule set can be written, if memory has
room for the copies of names, and what is written gives the same rules, with nothing to report, and
is written the same again. -/
theorem loaded_reloads (names text : String) :
    ∃ vocabulary rules reloaded,
      (∀ around : Surroundings, around.sink.Accepting → ∀ output,
        ((Vocabulary.ofText names).runWith around output).1 = .ok vocabulary) ∧
      (∀ around : Surroundings, around.sink.Accepting → ∀ output,
        ((ofText vocabulary text).runWith around output).1 = .ok rules) ∧
      (text.length < 0x8000000000000000 → ∀ memory : Memory,
        (∀ made, made ≠ [] → made <+: rules.copies → memory made = true) →
          rules.checkedSource none memory = .ok (rules.source none)) ∧
      (∀ around output, (ofText vocabulary (rules.source none)).runWith around output =
        (.ok reloaded, output)) ∧
      reloaded.rules.map Rule.sides = rules.rules.map Rule.sides ∧
      reloaded.source none = rules.source none := by
  have writable : ∀ rule ∈ (loaded (Vocabulary.loaded names) text).rules,
      rule.Writable (Vocabulary.loaded names) :=
    fun rule => writable_of_mem_loaded (Vocabulary.loaded_uncommented names)
  obtain ⟨reloaded, again, vocabulary, rules⟩ := ofText_source writable
  refine ⟨Vocabulary.loaded names, loaded (Vocabulary.loaded names) text, reloaded, ?_, ?_,
    ?_, ?_, ?_, ?_⟩
  · intro around accepting output
    rw [Vocabulary.ofText_eq_perform, Reporting.runWith_perform (Effect.clear_tells accepting _)]
  · intro around accepting output
    rw [ofText_eq_perform, Reporting.runWith_perform (Effect.clear_tells accepting _)]
  · exact fun short memory roomy =>
      checkedSource_eq_ok.mpr ⟨rfl, copies_loaded_inRange short, roomy⟩
  · intro around output
    exact congrArg (Reporting.runWith · around output) again
  · rw [rules]
    exact Rule.map_renumbered (fun _ _ => rfl) 1 _
  · rw [source, source, rules, vocabulary, Rule.map_renumbered (fun _ _ => rfl)]

example : (loaded (Vocabulary.loaded "a\n# b\nc\n") "c,a,a -> c\r\n\na -> b\nc ->").source none =
    "a, a, c -> c\nc ->" := by decide +kernel

end RuleSet

end MultisetSubstitution
