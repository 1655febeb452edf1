import Mathlib.Algebra.Order.Antidiag.Pi
import Mathlib.Data.Sym.Card
import MultisetSubstitution.Proofs.Balance
import MultisetSubstitution.Proofs.Cycles

/-! Runs of rules that put in no more than they take out. What is counted in all never gets more, so
the passes start from finitely many counts, and a run of more passes than that has come back to
counts that it had before. -/

set_option autoImplicit false

namespace MultisetSubstitution

namespace Counts

theorem weight_one (counts : Counts) : counts.weight (fun _ => 1) = counts.sum := by
  rw [weight, Finset.sum_range, ← Fin.sum_univ_getElem]
  refine Finset.sum_congr rfl fun id _ => ?_
  rw [slot_of_lt id.isLt, Int.one_mul]

end Counts

namespace Vocabulary

variable {vocabulary : Vocabulary} {counts other : Counts} {most : Nat}

def recognized (vocabulary : Vocabulary) (tokens : List String) : Nat :=
  tokens.countP (Text.trim · ∈ vocabulary.names)

theorem load_one (vocabulary : Vocabulary) (tokens : List String) :
    vocabulary.load (fun _ => 1) tokens = vocabulary.recognized tokens := by
  have found : ∀ token, (vocabulary.id? (Text.trim token)).isSome =
      decide (Text.trim token ∈ vocabulary.names) := by
    intro token
    rw [Bool.eq_iff_iff, ← Option.ne_none_iff_isSome, ne_eq, id?_eq_none, not_not,
      decide_eq_true_eq]
  rw [load, List.map_const', List.sum_replicate, List.length_filterMap_eq_countP, recognized]
  simp only [found, nsmul_eq_mul, mul_one]

theorem Counted.sum_tally (counted : vocabulary.Counted counts) (tokens : List String) :
    (vocabulary.tally counts tokens).sum = counts.sum + vocabulary.recognized tokens := by
  rw [← Counts.weight_one, counted.weight_tally, Counts.weight_one, load_one]

/-- The counts of a multiset of no more than so many in all. -/
structure Confined (vocabulary : Vocabulary) (most : Nat) (counts : Counts) : Prop where
  counted : vocabulary.Counted counts
  total : counts.sum ≤ most

def shares (vocabulary : Vocabulary) (most : Nat) (counts : Counts) :
    Option (Fin vocabulary.size) → Nat
  | none => most - counts.sum.toNat
  | some id => (counts.slot id).toNat

theorem Counted.sum_slots (counted : vocabulary.Counted counts) :
    ∑ id : Fin vocabulary.size, ((counts.slot id).toNat : Int) = counts.sum := by
  rw [← Counts.weight_one, Counts.weight, counted.length, Finset.sum_range]
  refine Finset.sum_congr rfl fun id _ => ?_
  rw [Int.toNat_of_nonneg (Counts.slot_nonnegative counted.nonnegative id), Int.one_mul]

theorem Confined.sum_shares (confined : vocabulary.Confined most counts) :
    ∑ place, vocabulary.shares most counts place = most := by
  have slots := confined.counted.sum_slots
  have total := confined.total
  rw [← Nat.cast_sum] at slots
  rw [Fintype.sum_option]
  simp only [shares]
  omega

theorem Counted.eq_of_shares (counted : vocabulary.Counted counts)
    (otherCounted : vocabulary.Counted other)
    (same : vocabulary.shares most counts = vocabulary.shares most other) : counts = other := by
  rw [Counts.eq_iff_slot (counted.length.trans otherCounted.length.symm)]
  intro id
  by_cases inside : id < vocabulary.size
  · have here : (counts.slot id).toNat = (other.slot id).toNat :=
      congrFun same (some ⟨id, inside⟩)
    have first := Counts.slot_nonnegative counted.nonnegative id
    have second := Counts.slot_nonnegative otherCounted.nonnegative id
    omega
  · rw [Counts.slot_of_le (counted.length ▸ Nat.le_of_not_lt inside),
      Counts.slot_of_le (otherCounted.length ▸ Nat.le_of_not_lt inside)]

/-- The divisions of so many into a share for each attribute and one for what is left. -/
def divisions (vocabulary : Vocabulary) (most : Nat) :
    Finset (Option (Fin vocabulary.size) → Nat) :=
  Finset.univ.piAntidiag most

theorem Confined.shares_mem (confined : vocabulary.Confined most counts) :
    vocabulary.shares most counts ∈ vocabulary.divisions most := by
  simp [divisions, confined.sum_shares]

/-- Divisions are counted with stars and bars. -/
theorem card_divisions (vocabulary : Vocabulary) (most : Nat) :
    (vocabulary.divisions most).card = (most + vocabulary.size).choose vocabulary.size := by
  have places : vocabulary.size + 1 + most - 1 = most + vocabulary.size := by omega
  rw [divisions, ← Finset.map_sym_eq_piAntidiag, Finset.card_map, Finset.sym_univ,
    Finset.card_univ, Sym.card_sym_eq_choose, Fintype.card_option, Fintype.card_fin, places,
    Nat.choose_symm_add]

/-- Among more counts than there are multisets, two are the same. -/
theorem exists_same_of_confined {starts : Nat → Counts} {number : Nat}
    (confined : ∀ index, vocabulary.Confined most (starts index))
    (many : (most + vocabulary.size).choose vocabulary.size < number) :
    ∃ first second, first < second ∧ second < number ∧ starts first = starts second := by
  have into : Set.MapsTo (fun index => vocabulary.shares most (starts index))
      (Finset.range number) (vocabulary.divisions most) :=
    fun index _ => (confined index).shares_mem
  have crowded : (vocabulary.divisions most).card < (Finset.range number).card := by
    rwa [card_divisions, Finset.card_range]
  obtain ⟨first, early, second, soon, different, same⟩ :=
    Finset.exists_ne_map_eq_of_card_lt_of_maps_to crowded into
  have equal := (confined first).counted.eq_of_shares (confined second).counted same
  rcases Nat.lt_or_gt_of_ne different with before | after
  · exact ⟨first, second, before, Finset.mem_range.mp soon, equal⟩
  · exact ⟨second, first, after, Finset.mem_range.mp early, equal.symm⟩

end Vocabulary

namespace RuleSet

variable {set : RuleSet} {rule : Rule} {counts : Counts} {most : Nat}

def NotGrowing (set : RuleSet) : Prop := ∀ rule ∈ set.rules, rule.outputs.sum ≤ rule.inputs.sum

instance (set : RuleSet) : Decidable set.NotGrowing :=
  inferInstanceAs (Decidable (∀ rule ∈ set.rules, rule.outputs.sum ≤ rule.inputs.sum))

theorem NotGrowing.turn (notGrowing : set.NotGrowing) (member : rule ∈ set.rules)
    (confined : set.vocabulary.Confined most counts) :
    set.vocabulary.Confined most (rule.turn counts) where
  counted := turn_counted member confined.counted
  total := by
    have total := confined.total
    rw [Rule.turn]
    split
    · have fired := Rule.weight_fire (set.fits rule member) confined.counted.length (fun _ => 1)
      have lower := notGrowing rule member
      simp only [Counts.weight_one] at fired
      omega
    · exact total

theorem NotGrowing.iterate_pass (notGrowing : set.NotGrowing)
    (confined : set.vocabulary.Confined most counts) (index : Nat) :
    set.vocabulary.Confined most (set.pass^[index] counts) :=
  iterate_pass_keeps (fun _ member _ confined => notGrowing.turn member confined) confined index

end RuleSet

namespace Engine

theorem initial_confined (engine : Engine) (tokens : List String) :
    engine.vocabulary.Confined (engine.vocabulary.recognized tokens) (engine.initial tokens) where
  counted := engine.initial_counted tokens
  total := by
    rw [initial, Vocabulary.Counted.zeros.sum_tally]
    simp [Vocabulary.zeros, Counts.zeros]

/-- Where no rule puts in more than it takes out, a limit that is no less than the number of the
multisets of as many attributes as were recognized, or of fewer, is conclusive. A run that it stops
is stopped by every limit, and the failure is returned if the limit can be written. -/
theorem limit_conclusive (engine : Engine) (tokens : List String) (traced : Bool)
    (around : Surroundings) (accepting : around.sink.Accepting) (output : Output)
    (notGrowing : engine.rules.NotGrowing)
    (enough : ((engine.vocabulary.recognized tokens + engine.vocabulary.size).choose
      engine.vocabulary.size : Int) ≤ engine.maxIterations) (fault : Failure)
    (returned : engine.outcomeIn tokens traced around output = .ok (.failure fault)) :
    ∀ limit retraced other, ∃ stopped : Failure, stopped.maxIterations = limit ∧
      (engine.withLimit limit).outcomeIn tokens retraced around other =
        stopped.written around.digits := by
  obtain ⟨ended, clear⟩ := outcomeIn_eq_ok.mp returned
  obtain ⟨unsettled, -⟩ := failure_eq_outcome.mp ended
  rw [Bool.eq_false_iff, ne_eq, settles_iff] at unsettled
  have many : (engine.vocabulary.recognized tokens + engine.vocabulary.size).choose
      engine.vocabulary.size < engine.passes tokens := by omega
  obtain ⟨first, second, before, within, same⟩ := Vocabulary.exists_same_of_confined
    (notGrowing.iterate_pass (engine.initial_confined tokens)) many
  intro limit retraced other
  exact ⟨_, rfl,
    stopped_withLimit_of_cycle accepting clear before within same limit retraced other⟩

/-- There are five multisets of one attribute of four or of none, and lava is no attribute. -/
theorem limit_conclusive_raining :
    Sink.collecting.Accepting ∧ raining.rules.NotGrowing ∧
    ((raining.vocabulary.recognized ["sea", "lava"] + raining.vocabulary.size).choose
      raining.vocabulary.size : Int) ≤ raining.maxIterations ∧
    ∃ fault, raining.outcomeIn ["sea", "lava"] false ⟨.collecting, some 4300⟩ {} =
        .ok (.failure fault) ∧
      ∃ stopped, (raining.withLimit 1000000).outcomeIn ["sea", "lava"] true
        ⟨.collecting, some 4300⟩ {} = .ok (.failure stopped) := by
  have accepting : Sink.collecting.Accepting := by decide
  have notGrowing : raining.rules.NotGrowing := by decide
  have enough : ((raining.vocabulary.recognized ["sea", "lava"] + raining.vocabulary.size).choose
      raining.vocabulary.size : Int) ≤ raining.maxIterations := by decide +kernel
  have returned : raining.outcomeIn ["sea", "lava"] false ⟨.collecting, some 4300⟩ {} =
      .ok (.failure (raining.stop ["sea", "lava"] false)) := rfl
  obtain ⟨stopped, limit, ended⟩ := limit_conclusive raining ["sea", "lava"] false
    ⟨.collecting, some 4300⟩ accepting {} notGrowing enough _ returned 1000000 true {}
  rw [Failure.written, limit, if_pos (by decide +kernel)] at ended
  exact ⟨accepting, notGrowing, enough, _, returned, stopped, ended⟩

/-- A run that is stopped under such a limit returns nothing under one that is too long to be
written. -/
theorem raining_inconclusive :
    raining.rules.NotGrowing ∧
    ((raining.vocabulary.recognized ["sea", "lava"] + raining.vocabulary.size).choose
      raining.vocabulary.size : Int) ≤ raining.maxIterations ∧
    (raining.outcomeIn ["sea", "lava"] false ⟨.collecting, some Text.digitLimit⟩ {}).map
      Outcome.settled = .ok false ∧
    ((raining.withLimit (-Text.overlong)).outcomeIn ["sea", "lava"] false
      ⟨.collecting, some Text.digitLimit⟩ {}).map Outcome.settled = .error .longNumber :=
  ⟨by decide, by decide +kernel, by decide +kernel, by decide +kernel⟩

end Engine

end MultisetSubstitution
