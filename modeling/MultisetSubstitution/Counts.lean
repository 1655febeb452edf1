/-! Counts: how many of each attribute there are, one slot an attribute, in order of id. -/

set_option autoImplicit false

namespace MultisetSubstitution

abbrev Counts := List Int

namespace Counts

def zeros (size : Nat) : Counts := List.replicate size 0

def isZero (counts : Counts) : Bool := counts.all (· == 0)

def same (first second : Counts) : Bool := first == second

/-- At least as much in every slot that both have. -/
def dominates : Counts → Counts → Bool
  | held :: counts, needed :: required => needed ≤ held && dominates counts required
  | _, _ => true

def hasNegative (counts : Counts) : Bool := counts.any (· < 0)

def increment (counts : Counts) (id : Nat) : Counts := counts.modify id (· + 1)

def exchange : Counts → Counts → Counts → Counts
  | count :: counts, input :: inputs, output :: outputs =>
    (count + (output - input)) :: exchange counts inputs outputs
  | counts, _, _ => counts

@[simp] theorem length_zeros (size : Nat) : (zeros size).length = size := by simp [zeros]

@[simp] theorem length_increment (counts : Counts) (id : Nat) :
    (counts.increment id).length = counts.length := by simp [increment]

@[simp] theorem length_exchange (counts inputs outputs : Counts) :
    (counts.exchange inputs outputs).length = counts.length := by
  fun_induction exchange counts inputs outputs with
  | case1 count counts input inputs output outputs ih => simp [ih]
  | case2 => rfl

theorem hasNegative_eq_false {counts : Counts} :
    counts.hasNegative = false ↔ ∀ count ∈ counts, 0 ≤ count := by
  simp [hasNegative]

theorem zeros_nonnegative {size : Nat} : ∀ count ∈ zeros size, (0 : Int) ≤ count := by
  intro count member
  simp [List.eq_of_mem_replicate member]

theorem increment_nonnegative {counts : Counts} (id : Nat)
    (nonnegative : ∀ count ∈ counts, 0 ≤ count) : ∀ count ∈ counts.increment id, 0 ≤ count := by
  intro count member
  obtain ⟨index, inside, rfl⟩ := List.mem_iff_getElem.mp member
  simp only [increment, List.getElem_modify]
  have old := nonnegative _ (List.getElem_mem (by simpa using inside : index < counts.length))
  split
  · omega
  · exact old

end Counts

end MultisetSubstitution
