import Mathlib
import MultisetSubstitution.Proofs.Printing
import MultisetSubstitution.Proofs.Reloading

/-! Descriptions of rules. A name may hold commas, colons, digits and arrows, but no space, so a
description is read word by word: every entry is a word, with a comma if another one follows, and
the only word without a colon that has characters is the arrow between the sides. Rules that are
described alike are the same. -/

set_option autoImplicit false

namespace MultisetSubstitution

namespace Text

def joinedWords : List String → List (List Char)
  | [] => [[]]
  | [item] => [item.toList]
  | item :: rest => (item.toList ++ [',']) :: joinedWords rest

theorem splitOn_joined {items : List String} (spaceless : ∀ item ∈ items, ' ' ∉ item.toList) :
    (", ".intercalate items).toList.splitOn ' ' = joinedWords items := by
  induction items with
  | nil => rfl
  | cons item rest ih =>
    obtain ⟨here, later⟩ := List.forall_mem_cons.mp spaceless
    cases rest with
    | nil => rw [String.intercalate_singleton, List.splitOn_eq_singleton here, joinedWords]
    | cons next rest =>
      have word : ' ' ∉ item.toList ++ [','] := by simp [here]
      have apart : (", ".intercalate (item :: next :: rest)).toList =
          (item.toList ++ [',']) ++ ' ' :: (", ".intercalate (next :: rest)).toList := by
        have separator : ", ".toList = [',', ' '] := rfl
        rw [String.intercalate_cons_cons, String.toList_append, String.toList_append, separator]
        simp only [List.append_assoc, List.cons_append, List.nil_append]
      rw [apart, List.splitOn_append_cons_self, List.splitOn_eq_singleton word, ih later,
        List.singleton_append]
      rfl

theorem joinedWords_ne_nil (items : List String) : joinedWords items ≠ [] := by
  rcases items with _ | ⟨item, _ | ⟨next, rest⟩⟩ <;> exact List.cons_ne_nil _ _

def itemsOfWords : List (List Char) → List String
  | [] => []
  | [word] => if word = [] then [] else [.ofList word]
  | word :: rest => .ofList word.dropLast :: itemsOfWords rest

theorem itemsOfWords_cons {words : List (List Char)} (more : words ≠ []) (word : List Char) :
    itemsOfWords (word :: words) = .ofList word.dropLast :: itemsOfWords words := by
  cases words with
  | nil => exact absurd rfl more
  | cons next rest => rfl

theorem itemsOfWords_joinedWords {items : List String} (filled : ∀ item ∈ items, item ≠ "") :
    itemsOfWords (joinedWords items) = items := by
  induction items with
  | nil => rfl
  | cons item rest ih =>
    obtain ⟨here, later⟩ := List.forall_mem_cons.mp filled
    cases rest with
    | nil => simp [joinedWords, itemsOfWords, here]
    | cons next rest =>
      rw [joinedWords.eq_3 _ _ (List.cons_ne_nil next rest),
        itemsOfWords_cons (joinedWords_ne_nil _), ih later, List.dropLast_concat,
        String.ofList_toList]

theorem of_mem_joinedWords {items : List String} {word : List Char}
    (member : word ∈ joinedWords items) : word = [] ∨ ∃ item ∈ items, item.toList ⊆ word := by
  induction items with
  | nil => exact .inl (List.mem_singleton.mp member)
  | cons item rest ih =>
    cases rest with
    | nil => exact .inr ⟨item, by simp, (List.mem_singleton.mp member) ▸ List.Subset.refl _⟩
    | cons next rest =>
      rcases List.mem_cons.mp member with rfl | later
      · exact .inr ⟨item, by simp, List.subset_append_left _ _⟩
      · exact (ih later).imp_right fun ⟨other, inRest, within⟩ =>
          ⟨other, List.mem_cons_of_mem item inRest, within⟩

end Text

theorem bind_eq_ok {ε α β : Type} {action : Except ε α} {next : α → Except ε β} {result : β} :
    action >>= next = .ok result ↔ ∃ value, action = .ok value ∧ next value = .ok result := by
  cases action <;> simp [bind, Except.bind]

namespace Vocabulary

variable {vocabulary : Vocabulary} {counts other : Counts}

theorem space_notMem_listing : ∀ item ∈ vocabulary.listing counts, ' ' ∉ item.toList := by
  intro item member space
  have dark := (isName_iff.mp (isName_of_mem_listing member)).2 ' ' space
  exact absurd dark (by decide)

/-- Every word of a listing that has characters holds a colon. -/
theorem arrow_notMem_listing :
    Text.arrow.toList ∉ Text.joinedWords (vocabulary.listing counts) := by
  intro member
  rcases Text.of_mem_joinedWords member with empty | ⟨item, listed, within⟩
  · exact absurd empty (by decide)
  · obtain ⟨entry, -, rfl⟩ := List.mem_map.mp listed
    have colon : ':' ∈ (entryText entry).toList := by simp [entryText]
    exact absurd (within colon) (by decide)

theorem itemsOfWords_listing (vocabulary : Vocabulary) (counts : Counts) :
    Text.itemsOfWords (Text.joinedWords (vocabulary.listing counts)) = vocabulary.listing counts :=
  Text.itemsOfWords_joinedWords fun _ member => (isName_iff.mp (isName_of_mem_listing member)).1

theorem joinedWords_listing_inj :
    Text.joinedWords (vocabulary.listing counts) = Text.joinedWords (vocabulary.listing other) ↔
      vocabulary.listing counts = vocabulary.listing other := by
  refine ⟨fun same => ?_, congrArg Text.joinedWords⟩
  rw [← vocabulary.itemsOfWords_listing counts, same, vocabulary.itemsOfWords_listing]

theorem listingText_eq_iff_listing :
    vocabulary.listingText counts = vocabulary.listingText other ↔
      vocabulary.listing counts = vocabulary.listing other := by
  refine ⟨fun same => joinedWords_listing_inj.mp ?_, congrArg (", ".intercalate ·)⟩
  rw [← Text.splitOn_joined space_notMem_listing, ← Text.splitOn_joined space_notMem_listing]
  exact congrArg (·.toList.splitOn ' ') same

/-- Counts are known by their entries, since what is counted zero is the rest. -/
theorem Counted.entries_eq_iff (counted : vocabulary.Counted counts)
    (otherCounted : vocabulary.Counted other) :
    vocabulary.entries counts = vocabulary.entries other ↔ counts = other := by
  refine ⟨fun same => ?_, congrArg vocabulary.entries⟩
  rw [eq_iff_amount counted.length otherCounted.length]
  intro name
  have known : ∀ count, vocabulary.amount counts name = count ∧ 0 < count ↔
      vocabulary.amount other name = count ∧ 0 < count := by
    intro count
    rw [← mem_entries, ← mem_entries, same]
  have left := known (vocabulary.amount counts name)
  have right := known (vocabulary.amount other name)
  have nonnegative := counted.amount_nonnegative name
  have otherNonnegative := otherCounted.amount_nonnegative name
  omega

theorem Counted.listing_eq_iff (counted : vocabulary.Counted counts)
    (otherCounted : vocabulary.Counted other) :
    vocabulary.listing counts = vocabulary.listing other ↔ counts = other := by
  rw [listing, listing, (List.map_injective_iff.mpr entryText_injective).eq_iff,
    counted.entries_eq_iff otherCounted]

theorem eq_listingText {digits : Option Nat} {text : String}
    (written : vocabulary.checkedText counts digits = .ok text) :
    text = vocabulary.listingText counts := by
  rw [checkedText, checkedListing, listing?] at written
  split at written
  · cases written
  · cases written
  · rename_i found _
    split at found
    · cases found
      exact (Except.ok.inj written).symm
    · cases found

theorem Counted.listingText_eq_iff (counted : vocabulary.Counted counts)
    (otherCounted : vocabulary.Counted other) :
    vocabulary.listingText counts = vocabulary.listingText other ↔ counts = other := by
  rw [listingText_eq_iff_listing, counted.listing_eq_iff otherCounted]

end Vocabulary

namespace Rule

variable {vocabulary : Vocabulary} {rule other : Rule}

theorem splitOn_description (vocabulary : Vocabulary) (rule : Rule) :
    (rule.description vocabulary).toList.splitOn ' ' =
      Text.joinedWords (vocabulary.listing rule.inputs) ++
        Text.arrow.toList :: Text.joinedWords (vocabulary.listing rule.outputs) := by
  have apart : (rule.description vocabulary).toList =
      (vocabulary.listingText rule.inputs).toList ++ ' ' :: (Text.arrow.toList ++
        ' ' :: (vocabulary.listingText rule.outputs).toList) := by
    simp [description, Text.arrow]
  have arrow : ' ' ∉ Text.arrow.toList := by decide
  rw [apart, List.splitOn_append_cons_self, List.splitOn_append_cons_self,
    List.splitOn_eq_singleton arrow, Vocabulary.listingText, Vocabulary.listingText,
    Text.splitOn_joined Vocabulary.space_notMem_listing,
    Text.splitOn_joined Vocabulary.space_notMem_listing, List.singleton_append]

theorem description_eq_iff_listing :
    rule.description vocabulary = other.description vocabulary ↔
      vocabulary.listing rule.inputs = vocabulary.listing other.inputs ∧
        vocabulary.listing rule.outputs = vocabulary.listing other.outputs := by
  constructor
  · intro same
    -- The arrow is no word of a side, so the sides end and begin at it.
    have words := congrArg (·.toList.splitOn ' ') same
    simp only [splitOn_description] at words
    rw [List.append_cons_inj_of_notMem] at words
    · obtain ⟨inputs, -, outputs⟩ := words
      exact ⟨Vocabulary.joinedWords_listing_inj.mp inputs,
        Vocabulary.joinedWords_listing_inj.mp outputs⟩
    · exact Vocabulary.arrow_notMem_listing
    · exact Vocabulary.arrow_notMem_listing
  · rintro ⟨inputs, outputs⟩
    rw [description, description, Vocabulary.listingText, Vocabulary.listingText, inputs, outputs,
      Vocabulary.listingText, Vocabulary.listingText]

theorem description_eq_iff_sides (fits : rule.dimension = vocabulary.size)
    (otherFits : other.dimension = vocabulary.size) :
    rule.description vocabulary = other.description vocabulary ↔ rule.sides = other.sides := by
  rw [description_eq_iff_listing,
    (counted_inputs fits).listing_eq_iff (counted_inputs otherFits),
    (counted_outputs fits).listing_eq_iff (counted_outputs otherFits), sides, sides, Prod.mk.injEq]

theorem eq_description {digits : Option Nat} {text : String}
    (written : rule.checkedDescription vocabulary digits = .ok text) :
    text = rule.description vocabulary := by
  obtain ⟨left, inputs, written⟩ := bind_eq_ok.mp written
  obtain ⟨right, outputs, written⟩ := bind_eq_ok.mp written
  rw [← Except.ok.inj written, Vocabulary.eq_listingText inputs,
    Vocabulary.eq_listingText outputs, description]

theorem sameSides_iff : rule.sameSides other = true ↔ rule.sides = other.sides := by
  simp [sameSides, sides]

end Rule

namespace RuleSet

theorem map_description_eq_iff {vocabulary : Vocabulary} {rules others : List Rule}
    (fits : ∀ rule ∈ rules, rule.dimension = vocabulary.size)
    (othersFit : ∀ other ∈ others, other.dimension = vocabulary.size) :
    rules.map (Rule.description vocabulary) = others.map (Rule.description vocabulary) ↔
      rules.map Rule.sides = others.map Rule.sides := by
  induction rules generalizing others with
  | nil => cases others <;> simp
  | cons rule rest ih =>
    obtain ⟨here, later⟩ := List.forall_mem_cons.mp fits
    cases others with
    | nil => simp
    | cons other others =>
      obtain ⟨otherHere, othersLater⟩ := List.forall_mem_cons.mp othersFit
      rw [List.map_cons, List.map_cons, List.map_cons, List.map_cons, List.cons.injEq,
        List.cons.injEq, Rule.description_eq_iff_sides here otherHere, ih later othersLater]

theorem descriptions_eq_iff {first second : RuleSet}
    (shared : first.vocabulary = second.vocabulary) :
    first.descriptions = second.descriptions ↔ first.sameRules second = true := by
  rw [sameRules_iff, descriptions, descriptions, shared,
    map_description_eq_iff (shared ▸ first.fits) second.fits]

theorem eq_descriptions {set : RuleSet} {digits : Option Nat} {texts : List String}
    (written : set.checkedDescriptions digits = .ok texts) : texts = set.descriptions := by
  rw [checkedDescriptions] at written
  rw [descriptions]
  generalize set.rules = rules at written ⊢
  induction rules generalizing texts with
  | nil => exact (Except.ok.inj written).symm
  | cons rule rest ih =>
    rw [List.mapM_cons] at written
    obtain ⟨text, here, written⟩ := bind_eq_ok.mp written
    obtain ⟨others, later, written⟩ := bind_eq_ok.mp written
    rw [← Except.ok.inj written, Rule.eq_description here, ih later, List.map_cons]

theorem checkedDescriptions_congr {first second : RuleSet}
    (shared : first.vocabulary = second.vocabulary) (same : first.sameRules second = true)
    (digits : Option Nat) :
    first.checkedDescriptions digits = second.checkedDescriptions digits := by
  have through : ∀ set : RuleSet, set.checkedDescriptions digits =
      (set.rules.map Rule.sides).mapM fun sides => do
        let inputs ← set.vocabulary.checkedText sides.1 digits
        let outputs ← set.vocabulary.checkedText sides.2 digits
        return inputs ++ " -> " ++ outputs := by
    intro set
    rw [List.mapM_map]
    rfl
  rw [through, through, shared, sameRules_iff.mp same]

/-- Descriptions tell what they describe. Rule sets over one vocabulary are described alike exactly
if their rules are the same in order, and rules over it exactly if their sides are the same, also
where numbers may have only so many digits. Counts over it are listed alike only if they are the
same. -/
theorem descriptions_determine_rules (vocabulary : Vocabulary) :
    (∀ first second : RuleSet, first.vocabulary = vocabulary → second.vocabulary = vocabulary →
      (first.descriptions = second.descriptions ↔ first.sameRules second = true) ∧
      ∀ digits texts, first.checkedDescriptions digits = .ok texts →
        (second.checkedDescriptions digits = .ok texts ↔ first.sameRules second = true)) ∧
    (∀ rule other : Rule, rule.dimension = vocabulary.size → other.dimension = vocabulary.size →
      (rule.description vocabulary = other.description vocabulary ↔
        rule.sameSides other = true) ∧
      ∀ digits text, rule.checkedDescription vocabulary digits = .ok text →
        (other.checkedDescription vocabulary digits = .ok text ↔ rule.sameSides other = true)) ∧
    ∀ counts other, vocabulary.Counted counts → vocabulary.Counted other →
      (vocabulary.listingText counts = vocabulary.listingText other ↔ counts = other) := by
  refine ⟨?_, fun rule other fits otherFits => ⟨?_, fun digits text written => ⟨?_, ?_⟩⟩,
    fun counts other counted otherCounted => counted.listingText_eq_iff otherCounted⟩
  · rintro first second rfl shared
    refine ⟨descriptions_eq_iff shared.symm, fun digits texts written => ⟨?_, ?_⟩⟩
    · intro otherWritten
      rw [← descriptions_eq_iff shared.symm, ← eq_descriptions written,
        ← eq_descriptions otherWritten]
    · intro same
      rw [← written, checkedDescriptions_congr shared.symm same]
  · rw [Rule.sameSides_iff, Rule.description_eq_iff_sides fits otherFits]
  · intro otherWritten
    rw [Rule.sameSides_iff, ← Rule.description_eq_iff_sides fits otherFits,
      ← Rule.eq_description written, ← Rule.eq_description otherWritten]
  · intro same
    obtain ⟨inputs, outputs⟩ := Prod.mk.inj (Rule.sameSides_iff.mp same)
    rw [← written, Rule.checkedDescription, Rule.checkedDescription, inputs, outputs]

def marks : Vocabulary := ⟨["->", "->:3", "a,"], by decide, by decide +kernel⟩

def leading : Rule := ⟨[3, 0, 0], [0, 0, 3], none, rfl, by decide, by decide, rfl, by decide⟩

def following : Rule := ⟨[0, 3, 0], [0, 0, 3], none, rfl, by decide, by decide, rfl, by decide⟩

/-- An arrow that is a name is told from the arrow between the sides. -/
theorem descriptions_determine_rules_marks :
    ∃ first second : RuleSet, first.vocabulary = marks ∧ second.vocabulary = marks ∧
      first.descriptions ≠ second.descriptions ∧
      first.checkedDescriptions (some Text.digitLimit) = .ok ["->:3 -> a,:3"] ∧
      second.checkedDescriptions (some Text.digitLimit) ≠ .ok ["->:3 -> a,:3"] ∧
      leading.dimension = marks.size ∧ following.dimension = marks.size ∧
      leading.checkedDescription marks (some Text.digitLimit) = .ok "->:3 -> a,:3" ∧
      following.checkedDescription marks (some Text.digitLimit) ≠ .ok "->:3 -> a,:3" ∧
      marks.Counted leading.inputs ∧ marks.Counted following.inputs ∧
      marks.listingText leading.inputs ≠ marks.listingText following.inputs := by
  obtain ⟨sets, rules, counts⟩ := descriptions_determine_rules marks
  let first := (empty marks).push leading rfl
  let second := (empty marks).push following rfl
  have listed : first.checkedDescriptions (some Text.digitLimit) = .ok ["->:3 -> a,:3"] := by
    decide +kernel
  have written : leading.checkedDescription marks (some Text.digitLimit) = .ok "->:3 -> a,:3" := by
    decide +kernel
  have counted : marks.Counted leading.inputs := Rule.counted_inputs rfl
  have otherCounted : marks.Counted following.inputs := Rule.counted_inputs rfl
  obtain ⟨same, sameListed⟩ := sets first second rfl rfl
  obtain ⟨-, sameWritten⟩ := rules leading following rfl rfl
  refine ⟨first, second, rfl, rfl, same.not.mpr ?_, listed, (sameListed _ _ listed).not.mpr ?_,
    rfl, rfl, written, (sameWritten _ _ written).not.mpr ?_, counted, otherCounted,
    (counts _ _ counted otherCounted).not.mpr ?_⟩
  all_goals decide +kernel

end RuleSet

end MultisetSubstitution
