import Mathlib.Data.List.Find
import MultisetSubstitution.Proofs.Amounts
import MultisetSubstitution.Proofs.Export

/-! The rule sets that are the same when their text is loaded: those whose rules need no name with a
comma or an arrow in it, and begin with no name that looks like a comment. Each rule is written on a
line of its own, so no rule can stand in for another. -/

set_option autoImplicit false

namespace MultisetSubstitution

theorem Text.isSkipped_name {name : String} (valid : isName name = true) :
    isSkipped name = beginsWith name "#" := by
  have mark : "#".toList = ['#'] := rfl
  obtain ⟨nonempty, clean⟩ := isName_iff.mp valid
  cases chars : name.toList with
  | nil => exact absurd (String.toList_eq_nil_iff.mp chars) nonempty
  | cons c rest =>
    rw [chars] at clean
    rw [isSkipped, beginsWith, chars, mark, trimStart_cons (clean c List.mem_cons_self)]
    simp [List.isPrefixOf, eq_comm]

namespace Rule

/-- What a rule asks of the names it is written with: those that it counts hold no comma and no
arrow, and the first of those that it takes out does not begin with a number sign. -/
structure Legible (vocabulary : Vocabulary) (rule : Rule) : Prop where
  separable : ∀ name ∈ vocabulary.names,
    vocabulary.amount rule.inputs name ≠ 0 ∨ vocabulary.amount rule.outputs name ≠ 0 →
      ',' ∉ name.toList ∧ ¬ Text.arrow.toList <:+: name.toList
  uncommented : ∀ name,
    vocabulary.names.find? (vocabulary.amount rule.inputs · ≠ 0) = some name →
      Text.beginsWith name "#" = false

variable {vocabulary : Vocabulary} {rule : Rule}

theorem head?_attributes {counts : Counts} (counted : vocabulary.Counted counts) :
    (vocabulary.attributes counts).head? =
      vocabulary.names.find? (vocabulary.amount counts · ≠ 0) := by
  have names : (vocabulary.names.zip counts).map (·.1) = vocabulary.names :=
    List.map_fst_zip (Nat.le_of_eq counted.length.symm)
  -- A name is written where its count is above zero, and that is where its amount is not zero.
  have same : ∀ entry ∈ vocabulary.names.zip counts,
      decide (vocabulary.amount counts entry.1 ≠ 0) = decide (0 < entry.2) := by
    intro entry inZip
    obtain ⟨id, here⟩ := List.mem_iff_getElem?.mp inZip
    obtain ⟨named, slot⟩ := List.getElem?_zip_eq_some.mp here
    have nonnegative := counted.nonnegative entry.2 (List.mem_of_getElem? slot)
    rw [Vocabulary.amount_of_named named, Counts.slot, slot, Option.getD_some, decide_eq_decide]
    omega
  have first : ∀ entries : List (String × Int),
      (Vocabulary.repeated entries).head? = (entries.find? (0 < ·.2)).map (·.1) := by
    intro entries
    induction entries with
    | nil => rfl
    | cons entry rest ih =>
      rw [Vocabulary.repeated] at ih ⊢
      rw [List.flatMap_cons, List.head?_append, ih, List.head?_replicate]
      by_cases present : 0 < entry.2
      · have some : entry.2.toNat ≠ 0 := by omega
        simp [present, some]
      · have none : entry.2.toNat = 0 := by omega
        simp [present, none]
  rw [← names, List.find?_map, Vocabulary.attributes, first]
  exact congrArg _ (List.find?_congr fun entry member => (same entry member).symm)

theorem writable_iff_legible (fits : rule.dimension = vocabulary.size) :
    rule.Writable vocabulary ↔ rule.Legible vocabulary := by
  have inputs := counted_inputs fits
  have outputs := counted_outputs fits
  have written : ∀ name, name ∈ vocabulary.attributes rule.inputs ++
      vocabulary.attributes rule.outputs ↔
        vocabulary.amount rule.inputs name ≠ 0 ∨ vocabulary.amount rule.outputs name ≠ 0 := by
    intro name
    rw [List.mem_append, Vocabulary.mem_attributes_iff inputs,
      Vocabulary.mem_attributes_iff outputs]
  have comment : ∀ name, (vocabulary.attributes rule.inputs).head? = some name →
      Text.isSkipped name = Text.beginsWith name "#" := fun name first =>
    Text.isSkipped_name (vocabulary.valid name
      (Vocabulary.name_of_mem_attributes (List.mem_of_mem_head? first)))
  constructor
  · rintro ⟨plain, uncommented⟩
    refine ⟨fun name _ counted => plain name ((written name).mpr counted), fun name first => ?_⟩
    rw [← head?_attributes inputs] at first
    rw [← comment name first]
    exact uncommented name first
  · rintro ⟨separable, uncommented⟩
    refine ⟨fun name member => ?_, fun name first => ?_⟩
    · have named : name ∈ vocabulary.names := (List.mem_append.mp member).elim
        Vocabulary.name_of_mem_attributes Vocabulary.name_of_mem_attributes
      exact separable name named ((written name).mp member)
    · rw [comment name first]
      exact uncommented name (head?_attributes inputs ▸ first)

/-- The line of a rule is read as that rule only if the rule is writable. -/
theorem writable_of_read_source {line : Option Int} {again : Rule}
    (found : read vocabulary (rule.source vocabulary) line = .ok (some again))
    (same : again.sides = rule.sides) : rule.Writable vocabulary := by
  obtain ⟨inputs, outputs⟩ := Prod.mk.inj same
  constructor
  · rw [← inputs, ← outputs]
    exact plain_of_read found
  · intro name first
    rw [← isSkipped_source first]
    exact (read_eq_some.mp found).1

end Rule

namespace RuleSet

variable {vocabulary : Vocabulary}

theorem sides_acceptedFrom_iff {rules : List Rule}
    (fits : ∀ rule ∈ rules, rule.dimension = vocabulary.size) (number : Int) :
    (acceptedFrom vocabulary number (rules.map (Rule.source vocabulary))).map Rule.sides =
        rules.map Rule.sides ↔
      ∀ rule ∈ rules, rule.Writable vocabulary := by
  -- A line that is left out is missed at the end, since no other line gives two rules.
  constructor
  · intro same
    induction rules generalizing number with
    | nil => simp
    | cons rule rest ih =>
      obtain ⟨-, sizes⟩ := List.forall_mem_cons.mp fits
      rw [acceptedFrom, List.map_cons, Text.numbered] at same
      cases accepted : Rule.accepted? vocabulary (number, rule.source vocabulary) with
      | none =>
        have fewer := List.length_filterMap_le (Rule.accepted? vocabulary)
          (Text.numbered (number + 1) (rest.map (Rule.source vocabulary)))
        have lengths := congrArg List.length same
        rw [List.filterMap_cons_none accepted] at lengths
        simp only [List.length_map, List.length_cons, Text.length_numbered] at lengths fewer
        omega
      | some again =>
        rw [List.filterMap_cons_some accepted, List.map_cons, List.map_cons] at same
        obtain ⟨here, others⟩ := List.cons.inj same
        have found := Rule.accepted?_eq_some.mp accepted
        exact List.forall_mem_cons.mpr
          ⟨Rule.writable_of_read_source found here, ih sizes (number + 1) others⟩
  · intro writable
    rw [acceptedFrom_sources writable fits]
    exact Rule.map_renumbered (fun _ _ => rfl) number rules

theorem sameRules_iff {first second : RuleSet} :
    first.sameRules second = true ↔ first.rules.map Rule.sides = second.rules.map Rule.sides := by
  have zipped : ∀ rules others : List Rule, (rules.length == others.length &&
      (rules.zip others).all fun pair => pair.1.sameSides pair.2) = true ↔
        rules.map Rule.sides = others.map Rule.sides := by
    intro rules
    induction rules with
    | nil => intro others; cases others <;> simp
    | cons rule rest ih =>
      intro others
      cases others with
      | nil => simp
      | cons other others =>
        have tails := ih others
        simp only [Bool.and_eq_true, beq_iff_eq] at tails
        simp only [List.length_cons, List.zip_cons_cons, List.all_cons, Bool.and_eq_true,
          beq_iff_eq, Nat.add_right_cancel_iff, List.map_cons, List.cons.injEq, ← tails,
          Rule.sameSides, Rule.sides, Prod.mk.injEq]
        exact and_left_comm
  exact zipped first.rules second.rules

/-- Which rule sets are what is loaded from their text. There is a text if each count is in the
range of numbers of copies and memory has room for all copies of names. It always loads, and gives
the same rules in the same order exactly if every rule is legible. -/
theorem reloads_iff_legible (set : RuleSet) :
    (∀ memory, (∃ text, set.checkedSource none memory = .ok text) ↔
      Repetition.Possible memory set.copies) ∧
    ∀ memory text, set.checkedSource none memory = .ok text → ∃ reloaded,
      (∀ around : Surroundings, around.sink.Accepting → ∀ output,
        ((ofText set.vocabulary text).runWith around output).1 = .ok reloaded) ∧
      reloaded.vocabulary = set.vocabulary ∧
      (reloaded.sameRules set = true ↔ ∀ rule ∈ set.rules, rule.Legible set.vocabulary) := by
  refine ⟨fun memory => ?_, fun memory text written => ?_⟩
  · simp only [checkedSource_eq_ok]
    exact ⟨fun ⟨_, _, possible⟩ => possible, fun possible => ⟨_, rfl, possible⟩⟩
  · obtain ⟨rfl, -⟩ := checkedSource_eq_ok.mp written
    refine ⟨loaded set.vocabulary (set.source none), ?_, rfl, ?_⟩
    · intro around accepting output
      rw [runWith_ofText accepting]
    · rw [sameRules_iff, rules_loaded, lines_source, sides_acceptedFrom_iff set.fits]
      exact forall₂_congr fun rule member => Rule.writable_iff_legible (set.fits rule member)

/-- A rule that asks for too many copies of a name is legible, but whatever the memory, it has no
text. -/
theorem sprouting_unwritten :
    (∀ rule ∈ sprouting.rules, rule.Legible sprouting.vocabulary) ∧
    ∀ memory text, sprouting.checkedSource none memory ≠ .ok text := by
  refine ⟨fun rule member => ?_, fun memory text written => ?_⟩
  · obtain rfl := List.mem_singleton.mp member
    exact ⟨by decide +kernel, by decide +kernel⟩
  · have inRange := (checkedSource_eq_ok.mp written).2.inRange 0x8000000000000000 (by decide)
    exact nomatch inRange

end RuleSet

end MultisetSubstitution
