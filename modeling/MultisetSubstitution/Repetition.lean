/-! Repetition: the numbers that can be positions or numbers of copies, and the copies that can be
made. -/

set_option autoImplicit false

namespace MultisetSubstitution

/-- A whole number of 64 bits, one of them for the sign. -/
def isIndex (n : Int) : Bool := -0x8000000000000000 ≤ n && n < 0x8000000000000000

/-- The memory of a machine: whether it has room for copies in these numbers, made one after the
other and all kept. -/
abbrev Memory := List Int → Bool

namespace Repetition

inductive Fault where
  | noIndex
  | outOfMemory
  deriving DecidableEq, Repr

def Fault.message : Fault → String
  | .noIndex => "the number of copies is out of range"
  | .outOfMemory => "the copies do not fit in memory"

def faultAfter? (memory : Memory) (made : List Int) : List Int → Option Fault
  | [] => none
  | count :: rest =>
    if isIndex count then
      if memory (made ++ [count]) then faultAfter? memory (made ++ [count]) rest
      else some .outOfMemory
    else some .noIndex

def fault? (memory : Memory) (counts : List Int) : Option Fault := faultAfter? memory [] counts

/-- All copies can be made: the numbers are in range, and after none of them memory is full. -/
structure Possible (memory : Memory) (counts : List Int) : Prop where
  inRange : ∀ count ∈ counts, isIndex count = true
  roomy : ∀ made, made ≠ [] → made <+: counts → memory made = true

theorem faultAfter?_eq_none {memory : Memory} {made counts : List Int} :
    faultAfter? memory made counts = none ↔ (∀ count ∈ counts, isIndex count = true) ∧
      ∀ more, more ≠ [] → more <+: counts → memory (made ++ more) = true := by
  induction counts generalizing made with
  | nil =>
    refine iff_of_true rfl ⟨nofun, fun more some none => ?_⟩
    exact absurd (List.prefix_nil.mp none) some
  | cons count rest ih =>
    have prefixes : (∀ more, more ≠ [] → more <+: count :: rest → memory (made ++ more) = true) ↔
        memory (made ++ [count]) = true ∧
          ∀ more, more ≠ [] → more <+: rest → memory (made ++ [count] ++ more) = true := by
      constructor
      · intro roomy
        refine ⟨roomy [count] (List.cons_ne_nil _ _) ⟨rest, rfl⟩, fun more _ within => ?_⟩
        rw [List.append_assoc]
        exact roomy _ (List.cons_ne_nil _ _) ((List.prefix_cons_inj count).mpr within)
      · rintro ⟨first, later⟩ more some within
        obtain ⟨others, rfl, inRest⟩ := (List.prefix_cons_iff.mp within).resolve_left some
        cases others with
        | nil => exact first
        | cons next others =>
          have room := later (next :: others) (List.cons_ne_nil _ _) inRest
          rwa [List.append_assoc] at room
    rw [faultAfter?, List.forall_mem_cons, prefixes]
    by_cases index : isIndex count = true
    · by_cases room : memory (made ++ [count]) = true
      · simp [index, room, ih]
      · simp [index, room]
    · simp [index]

theorem fault?_eq_none {memory : Memory} {counts : List Int} :
    fault? memory counts = none ↔ Possible memory counts := by
  rw [fault?, faultAfter?_eq_none]
  exact ⟨fun both => ⟨both.1, both.2⟩, fun possible => ⟨possible.inRange, possible.roomy⟩⟩

end Repetition

end MultisetSubstitution
