import Mathlib.Data.List.Nodup
import MultisetSubstitution.Proofs.Recounting

/-! Counts as multisets of names: how much of each name is counted, whatever its id is. Holding,
firing, counting tokens and listing can all be said of these amounts, and counts over a vocabulary
are known by them. -/

set_option autoImplicit false

namespace MultisetSubstitution

theorem lookup_cons_eq_ite {α β : Type} [DecidableEq α] (first key : α) (value : β)
    (rest : List (α × β)) :
    ((first, value) :: rest).lookup key = if key = first then some value else rest.lookup key := by
  by_cases same : key = first
  · rw [same, List.lookup_cons_self, if_pos rfl]
  · rw [List.lookup_cons, beq_eq_false_iff_ne.mpr same, if_neg same]

namespace Vocabulary

variable {vocabulary : Vocabulary} {counts other : Counts} {name : String}

def amount (vocabulary : Vocabulary) (counts : Counts) (name : String) : Int :=
  ((vocabulary.id? name).bind (counts[·]?)).getD 0

theorem amount_of_named {id : Nat} (named : vocabulary.names[id]? = some name) :
    vocabulary.amount counts name = counts.slot id := by
  rw [amount, id?_eq_some.mpr named, Option.bind_some, Counts.slot]

theorem amount_of_unnamed (unnamed : name ∉ vocabulary.names) :
    vocabulary.amount counts name = 0 := by
  rw [amount, id?_eq_none.mpr unnamed, Option.bind_none, Option.getD_none]

theorem forall_amount (related : Int → Int → Prop) (zero : related 0 0)
    (length : counts.length = vocabulary.size) (otherLength : other.length = vocabulary.size) :
    (∀ name, related (vocabulary.amount counts name) (vocabulary.amount other name)) ↔
      List.Forall₂ related counts other := by
  rw [← Counts.forall_slot related zero (length.trans otherLength.symm)]
  constructor
  · intro all id
    by_cases inside : id < vocabulary.size
    · have named : vocabulary.names[id]? = some vocabulary.names[id] :=
        List.getElem?_eq_getElem inside
      have here := all vocabulary.names[id]
      rwa [amount_of_named named, amount_of_named named] at here
    · rw [Counts.slot_of_le (by omega), Counts.slot_of_le (by omega)]
      exact zero
  · intro slots name
    by_cases named : name ∈ vocabulary.names
    · obtain ⟨id, here⟩ := List.mem_iff_getElem?.mp named
      rw [amount_of_named here, amount_of_named here]
      exact slots id
    · rw [amount_of_unnamed named, amount_of_unnamed named]
      exact zero

theorem holds_iff_amount (length : counts.length = vocabulary.size)
    (otherLength : other.length = vocabulary.size) :
    counts.Holds other ↔ ∀ name, vocabulary.amount other name ≤ vocabulary.amount counts name :=
  (forall_amount (· ≤ ·) (Int.le_refl 0) otherLength length).symm

theorem eq_iff_amount (length : counts.length = vocabulary.size)
    (otherLength : other.length = vocabulary.size) :
    counts = other ↔ ∀ name, vocabulary.amount counts name = vocabulary.amount other name := by
  rw [forall_amount (· = ·) rfl length otherLength, List.forall₂_eq_eq_eq]

theorem zeros_amount (vocabulary : Vocabulary) (name : String) :
    vocabulary.amount vocabulary.zeros name = 0 := by
  by_cases named : name ∈ vocabulary.names
  · obtain ⟨id, here⟩ := List.mem_iff_getElem?.mp named
    have inside : id < vocabulary.size := (List.getElem?_eq_some_iff.mp here).1
    rw [amount_of_named here, Counts.slot, zeros, Counts.zeros,
      List.getElem?_replicate_of_lt inside, Option.getD_some]
  · exact amount_of_unnamed named

theorem isZero_iff_amount (length : counts.length = vocabulary.size) :
    counts.isZero = true ↔ ∀ name, vocabulary.amount counts name = 0 := by
  have none : counts.isZero = true ↔ counts = vocabulary.zeros := by
    rw [zeros, Counts.zeros, ← length, List.eq_replicate_iff]
    simp [Counts.isZero]
  have zerosLength : vocabulary.zeros.length = vocabulary.size := Counts.length_zeros _
  rw [none, eq_iff_amount length zerosLength]
  simp only [zeros_amount]

theorem Counted.amount_nonnegative (counted : vocabulary.Counted counts) (name : String) :
    0 ≤ vocabulary.amount counts name := by
  have held : List.Forall₂ (fun count _ => 0 ≤ count) counts counts :=
    List.forall₂_same.mpr counted.nonnegative
  exact (forall_amount (fun count _ => 0 ≤ count) (Int.le_refl 0) counted.length
    counted.length).mpr held name

theorem Counted.amount_tally (counted : vocabulary.Counted counts) (tokens : List String)
    (name : String) :
    vocabulary.amount (vocabulary.tally counts tokens) name = vocabulary.amount counts name +
      if name ∈ vocabulary.names then ((tokens.map Text.trim).count name : Int) else 0 := by
  by_cases named : name ∈ vocabulary.names
  · obtain ⟨id, here⟩ := List.mem_iff_getElem?.mp named
    have inside : id < counts.length := by
      rw [counted.length]
      exact (List.getElem?_eq_some_iff.mp here).1
    rw [amount_of_named here, amount_of_named here, Counts.slot, Counts.slot, getElem?_tally here,
      if_pos named, List.getElem?_eq_getElem inside]
    rfl
  · rw [amount_of_unnamed named, amount_of_unnamed named, if_neg named, Int.add_zero]

theorem amount_exchange {inputs outputs : Counts} (length : counts.length = vocabulary.size)
    (inputsLength : inputs.length = vocabulary.size)
    (outputsLength : outputs.length = vocabulary.size) (name : String) :
    vocabulary.amount (counts.exchange inputs outputs) name =
      vocabulary.amount counts name - vocabulary.amount inputs name +
        vocabulary.amount outputs name := by
  by_cases named : name ∈ vocabulary.names
  · obtain ⟨id, here⟩ := List.mem_iff_getElem?.mp named
    simp only [amount_of_named here, Counts.slot_exchange (inputsLength.trans length.symm)
      (outputsLength.trans length.symm)]
    omega
  · simp only [amount_of_unnamed named, Int.sub_zero, Int.add_zero]

theorem mem_entries {count : Int} :
    (name, count) ∈ vocabulary.entries counts ↔
      vocabulary.amount counts name = count ∧ 0 < count := by
  rw [entries, List.mem_filter, decide_eq_true_eq, and_congr_left_iff]
  intro positive
  constructor
  · intro inZip
    obtain ⟨id, here⟩ := List.mem_iff_getElem?.mp inZip
    obtain ⟨named, counted⟩ := List.getElem?_zip_eq_some.mp here
    rw [amount_of_named named, Counts.slot, counted, Option.getD_some]
  · intro amount
    -- What is counted has an id, and a slot at that id.
    have named : name ∈ vocabulary.names := by
      by_contra unnamed
      rw [amount_of_unnamed unnamed] at amount
      omega
    obtain ⟨id, here⟩ := List.mem_iff_getElem?.mp named
    rw [amount_of_named here, Counts.slot] at amount
    cases slot : counts[id]? with
    | none =>
      rw [slot, Option.getD_none] at amount
      omega
    | some value =>
      rw [slot, Option.getD_some] at amount
      exact List.mem_of_getElem? (List.getElem?_zip_eq_some.mpr ⟨here, slot.trans (amount ▸ rfl)⟩)

theorem kept_sublist {Name : Type} {names : List Name} (length : counts.length = names.length)
    (keep : Name × Int → Bool) :
    (((names.zip counts).filter keep).map (·.1)).Sublist names := by
  have all : (names.zip counts).map (·.1) = names := List.map_fst_zip (Nat.le_of_eq length.symm)
  have kept := (List.filter_sublist (p := keep) (l := names.zip counts)).map (·.1)
  rwa [all] at kept

theorem entries_sublist (length : counts.length = vocabulary.size) :
    ((vocabulary.entries counts).map (·.1)).Sublist vocabulary.names := kept_sublist length _

theorem nodup_entries (length : counts.length = vocabulary.size) :
    (vocabulary.entries counts).Nodup :=
  List.Nodup.of_map _ ((entries_sublist length).nodup vocabulary.distinct)

theorem mem_attributes_iff (counted : vocabulary.Counted counts) :
    name ∈ vocabulary.attributes counts ↔ vocabulary.amount counts name ≠ 0 := by
  have nonnegative := counted.amount_nonnegative name
  rw [← repeated_entries, repeated, List.mem_flatMap]
  constructor
  · rintro ⟨⟨other, count⟩, inEntries, copies⟩
    obtain rfl := List.eq_of_mem_replicate copies
    obtain ⟨amount, positive⟩ := mem_entries.mp inEntries
    omega
  · intro some
    refine ⟨(name, vocabulary.amount counts name), mem_entries.mpr ⟨rfl, by omega⟩, ?_⟩
    exact List.mem_replicate.mpr ⟨by simp only; omega, rfl⟩

end Vocabulary

end MultisetSubstitution
