import Mathlib.Logic.Function.Iterate
import MultisetSubstitution.Proofs.Holding
import MultisetSubstitution.Trace

/-! Passes over the rules as functions of the counts alone. The steps that any number of passes
makes, one pass after the other, are one list that grows at its end; a run shows a beginning of
it. -/

set_option autoImplicit false

namespace MultisetSubstitution

def lastCounts : Counts → List Step → Counts
  | counts, [] => counts
  | _, step :: rest => lastCounts step.after rest

/-- Each step is made on what the one before it has left, from the first counts to the last. -/
def Chained : Counts → List Step → Counts → Prop
  | counts, [], final => final = counts
  | counts, step :: rest, final => step.before = counts ∧ Chained step.after rest final

theorem lastCounts_append (counts : Counts) (first second : List Step) :
    lastCounts counts (first ++ second) = lastCounts (lastCounts counts first) second := by
  induction first generalizing counts with
  | nil => rfl
  | cons step rest ih => exact ih step.after

theorem lastCounts_mem (counts : Counts) (steps : List Step) :
    lastCounts counts steps = counts ∨ ∃ step ∈ steps, lastCounts counts steps = step.after := by
  induction steps generalizing counts with
  | nil => exact .inl rfl
  | cons step rest ih =>
    rw [lastCounts]
    obtain same | ⟨other, member, same⟩ := ih step.after
    · exact .inr ⟨step, List.mem_cons_self, same⟩
    · exact .inr ⟨other, List.mem_cons_of_mem step member, same⟩

theorem Chained.append {counts middle final : Counts} {first second : List Step}
    (left : Chained counts first middle) (right : Chained middle second final) :
    Chained counts (first ++ second) final := by
  induction first generalizing counts with
  | nil =>
    cases left
    exact right
  | cons step rest ih => exact ⟨left.1, ih left.2⟩

theorem Chained.final_eq {counts final : Counts} {steps : List Step}
    (chained : Chained counts steps final) : final = lastCounts counts steps := by
  induction steps generalizing counts with
  | nil => exact chained
  | cons step rest ih => exact ih chained.2

/-- What a rule makes of the counts when it is tried. -/
def Rule.turn (rule : Rule) (counts : Counts) : Counts :=
  if rule.enabled counts then rule.fire counts else counts

def sweepSteps (pass index : Nat) (counts : Counts) : List Rule → List Step
  | [] => []
  | rule :: rest =>
    if rule.enabled counts then
      ⟨pass, index, rule, counts, rule.fire counts⟩ ::
        sweepSteps pass (index + 1) (rule.fire counts) rest
    else sweepSteps pass (index + 1) counts rest

def Step.rebased (passes : Int) (step : Step) : Step := { step with pass := step.pass - passes }

structure Step.Fires (step : Step) : Prop where
  enabled : step.rule.enabled step.before = true
  after : step.after = step.rule.fire step.before

theorem sweepSteps_chained (pass index : Nat) (counts : Counts) (rules : List Rule) :
    Chained counts (sweepSteps pass index counts rules)
      (rules.foldl (fun counts rule => rule.turn counts) counts) := by
  induction rules generalizing index counts with
  | nil => rfl
  | cons rule rest ih =>
    simp only [sweepSteps, List.foldl_cons, Rule.turn]
    split
    · exact ⟨rfl, ih (index + 1) (rule.fire counts)⟩
    · exact ih (index + 1) counts

theorem sweepSteps_append (pass index : Nat) (counts : Counts) (first second : List Rule) :
    sweepSteps pass index counts (first ++ second) =
      sweepSteps pass index counts first ++ sweepSteps pass (index + first.length)
        (first.foldl (fun counts rule => rule.turn counts) counts) second := by
  induction first generalizing index counts with
  | nil => rfl
  | cons rule rest ih =>
    have position : index + 1 + rest.length = index + (rule :: rest).length := by
      rw [List.length_cons]
      omega
    simp only [List.cons_append, sweepSteps, List.foldl_cons, Rule.turn]
    split
    · rw [ih, position]
      rfl
    · rw [ih, position]
      rfl

theorem map_rebased_sweepSteps (pass more index : Nat) (counts : Counts) (rules : List Rule) :
    (sweepSteps (pass + more) index counts rules).map (Step.rebased more) =
      sweepSteps pass index counts rules := by
  induction rules generalizing index counts with
  | nil => rfl
  | cons rule rest ih =>
    rw [sweepSteps, sweepSteps]
    split
    · rw [List.map_cons, ih, Step.rebased]
      simp
    · exact ih (index + 1) counts

theorem sweepSteps_eq_nil {pass index : Nat} {counts : Counts} {rules : List Rule} :
    sweepSteps pass index counts rules = [] ↔ ∀ rule ∈ rules, rule.enabled counts = false := by
  induction rules generalizing index with
  | nil => simp [sweepSteps]
  | cons rule rest ih => by_cases enabled : rule.enabled counts <;> simp [sweepSteps, enabled, ih]

theorem sweepSteps_pass {pass index : Nat} {counts : Counts} {rules : List Rule} {step : Step}
    (member : step ∈ sweepSteps pass index counts rules) : step.pass = pass := by
  induction rules generalizing index counts with
  | nil => exact nomatch member
  | cons rule rest ih =>
    rw [sweepSteps] at member
    split at member
    · rcases List.mem_cons.mp member with rfl | later
      · rfl
      · exact ih later
    · exact ih member

theorem sweepSteps_fires {pass index : Nat} {counts : Counts} {rules : List Rule} {step : Step}
    (member : step ∈ sweepSteps pass index counts rules) : step.Fires := by
  induction rules generalizing index counts with
  | nil => exact nomatch member
  | cons rule rest ih =>
    rw [sweepSteps] at member
    split at member
    · rename_i enabled
      rcases List.mem_cons.mp member with rfl | later
      · exact ⟨enabled, rfl⟩
      · exact ih later
    · exact ih member

theorem sweepSteps_rule {pass index : Nat} {counts : Counts} {rules : List Rule} {step : Step}
    (member : step ∈ sweepSteps pass index counts rules) :
    ∃ offset : Nat, step.ruleIndex = index + offset ∧ rules[offset]? = some step.rule := by
  induction rules generalizing index counts with
  | nil => exact nomatch member
  | cons rule rest ih =>
    -- An index into the rules that are left is one lower than into all of them.
    have shift : ∀ {counts : Counts}, step ∈ sweepSteps pass (index + 1) counts rest →
        ∃ offset : Nat, step.ruleIndex = index + offset ∧
          (rule :: rest)[offset]? = some step.rule := by
      intro counts later
      obtain ⟨offset, position, found⟩ := ih later
      exact ⟨offset + 1, by omega, found⟩
    rw [sweepSteps] at member
    split at member
    · rcases List.mem_cons.mp member with rfl | later
      · exact ⟨0, by simp, rfl⟩
      · exact shift later
    · exact shift member

theorem le_ruleIndex_of_mem_sweepSteps {pass index : Nat} {counts : Counts} {rules : List Rule}
    {step : Step} (member : step ∈ sweepSteps pass index counts rules) :
    (index : Int) ≤ step.ruleIndex := by
  obtain ⟨offset, position, _⟩ := sweepSteps_rule member
  omega

theorem sweepSteps_ordered (pass index : Nat) (counts : Counts) (rules : List Rule) :
    (sweepSteps pass index counts rules).Pairwise
      fun first second => first.ruleIndex < second.ruleIndex := by
  induction rules generalizing index counts with
  | nil => exact .nil
  | cons rule rest ih =>
    rw [sweepSteps]
    split
    · refine .cons ?_ (ih (index + 1) (rule.fire counts))
      intro later member
      have := le_ruleIndex_of_mem_sweepSteps member
      simp only
      omega
    · exact ih (index + 1) counts

/-- A rule that makes no step was not enabled when its turn came, after the steps of the rules
before it. -/
theorem sweepSteps_skipped {pass index offset : Nat} {counts : Counts} {rules : List Rule}
    {rule : Rule} (found : rules[offset]? = some rule)
    (skipped : ∀ step ∈ sweepSteps pass index counts rules, step.ruleIndex ≠ index + offset) :
    rule.enabled (lastCounts counts ((sweepSteps pass index counts rules).filter
      (·.ruleIndex < index + offset))) = false := by
  -- Induction on the rules before the one at the offset. When it is its turn all later steps are of
  -- later rules, and enabled it would have made a step.
  induction rules generalizing index offset counts with
  | nil => exact nomatch found
  | cons first rest ih =>
    cases offset with
    | zero =>
      obtain rfl : first = rule := by simpa using found
      have nothingBefore : (sweepSteps pass index counts (first :: rest)).filter
          (fun step => step.ruleIndex < (index : Int) + (0 : Nat)) = [] := by
        rw [List.filter_eq_nil_iff]
        intro step member
        have := le_ruleIndex_of_mem_sweepSteps member
        simp only [decide_eq_true_eq]
        omega
      rw [nothingBefore, lastCounts]
      by_contra enabled
      rw [Bool.not_eq_false] at enabled
      refine skipped ⟨pass, index, first, counts, first.fire counts⟩ ?_ (by simp)
      simp [sweepSteps, enabled]
    | succ offset =>
      have position : (index : Int) + (offset + 1 : Nat) = (index + 1 : Nat) + offset := by omega
      rw [position] at skipped ⊢
      rw [sweepSteps] at skipped ⊢
      split at skipped
      · rename_i enabled
        have fires : ((index : Int) < (index + 1 : Nat) + offset) := by omega
        rw [if_pos enabled, List.filter_cons_of_pos (by simpa using fires), lastCounts]
        exact ih found fun step member => skipped step (List.mem_cons_of_mem _ member)
      · rename_i disabled
        rw [if_neg disabled]
        exact ih found skipped

namespace RuleSet

def passSteps (set : RuleSet) (pass : Nat) (counts : Counts) : List Step :=
  sweepSteps pass 0 counts set.rules

def pass (set : RuleSet) (counts : Counts) : Counts :=
  set.rules.foldl (fun counts rule => rule.turn counts) counts

def normal (set : RuleSet) (counts : Counts) : Bool :=
  set.rules.all fun rule => !rule.enabled counts

def unrolled (set : RuleSet) (done : Nat) (counts : Counts) : Nat → List Step
  | 0 => []
  | more + 1 => set.passSteps (done + 1) counts ++ set.unrolled (done + 1) (set.pass counts) more

/-- How many passes apply a rule, of the most that are made. -/
def productive (set : RuleSet) (counts : Counts) : Nat → Nat
  | 0 => 0
  | most + 1 => if set.normal counts then 0 else set.productive (set.pass counts) most + 1

theorem normal_iff {set : RuleSet} {counts : Counts} :
    set.normal counts = true ↔ ∀ rule ∈ set.rules, rule.enabled counts = false := by
  simp [normal]

theorem not_holds_of_normal {set : RuleSet} {counts : Counts}
    (length : counts.length = set.vocabulary.size) (settled : set.normal counts = true)
    {rule : Rule} (member : rule ∈ set.rules) : ¬ counts.Holds rule.inputs := by
  intro held
  have enabled := (enabled_iff_holds member length).mpr held
  have disabled := normal_iff.mp settled rule member
  exact absurd (enabled.symm.trans disabled) (by decide)

theorem passSteps_eq_nil {set : RuleSet} {pass : Nat} {counts : Counts} :
    set.passSteps pass counts = [] ↔ set.normal counts = true :=
  sweepSteps_eq_nil.trans normal_iff.symm

theorem productive_le (set : RuleSet) (counts : Counts) (most : Nat) :
    set.productive counts most ≤ most := by
  induction most generalizing counts with
  | zero => exact Nat.le_refl 0
  | succ most ih =>
    rw [productive]
    split
    · exact Nat.zero_le _
    · exact Nat.succ_le_succ (ih (set.pass counts))

theorem not_normal_of_lt_productive {set : RuleSet} {counts : Counts} {most index : Nat}
    (early : index < set.productive counts most) :
    set.normal (set.pass^[index] counts) = false := by
  induction most generalizing counts index with
  | zero => exact nomatch early
  | succ most ih =>
    rw [productive] at early
    split at early
    · exact nomatch early
    · rename_i unsettled
      cases index with
      | zero => exact Bool.eq_false_iff.mpr unsettled
      | succ index =>
        have earlier : index < set.productive (set.pass counts) most := by omega
        rw [Function.iterate_succ_apply]
        exact ih earlier

theorem normal_of_productive_lt {set : RuleSet} {counts : Counts} {most : Nat}
    (spare : set.productive counts most < most) :
    set.normal (set.pass^[set.productive counts most] counts) = true := by
  induction most generalizing counts with
  | zero => exact nomatch spare
  | succ most ih =>
    rw [productive] at spare ⊢
    split at spare
    · rename_i settled
      rw [if_pos settled]
      exact settled
    · rename_i unsettled
      rw [if_neg unsettled]
      exact ih (Nat.lt_of_succ_lt_succ spare)

theorem productive_eq_min {set : RuleSet} {counts : Counts} {most other : Nat}
    (comparable : set.productive counts most < most ∨ other ≤ most) :
    set.productive counts other = min (set.productive counts most) other := by
  -- Both numbers of passes go up together, until the counts are settled or one bound is reached.
  induction most generalizing counts other with
  | zero =>
    obtain rfl : other = 0 := by simpa using comparable
    rfl
  | succ most ih =>
    cases other with
    | zero => simp [productive]
    | succ other =>
      rw [productive] at comparable ⊢
      rw [productive]
      split
      · simp
      · rename_i unsettled
        rw [if_neg unsettled] at comparable
        have cut : set.productive (set.pass counts) other =
            min (set.productive (set.pass counts) most) other := ih (by omega)
        omega

theorem turn_counted {set : RuleSet} {rule : Rule} {counts : Counts} (member : rule ∈ set.rules)
    (counted : set.vocabulary.Counted counts) : set.vocabulary.Counted (rule.turn counts) := by
  rw [Rule.turn]
  split
  · rename_i enabled
    exact fire_counted member counted enabled
  · exact counted

theorem turns_keep {rules : List Rule} {counts : Counts} {kept : Counts → Prop}
    (turn : ∀ rule ∈ rules, ∀ counts, kept counts → kept (rule.turn counts))
    (start : kept counts) : kept (rules.foldl (fun counts rule => rule.turn counts) counts) := by
  induction rules generalizing counts with
  | nil => exact start
  | cons rule rest ih =>
    obtain ⟨here, later⟩ := List.forall_mem_cons.mp turn
    exact ih later (here counts start)

theorem iterate_pass_keeps {set : RuleSet} {counts : Counts} {kept : Counts → Prop}
    (turn : ∀ rule ∈ set.rules, ∀ counts, kept counts → kept (rule.turn counts))
    (start : kept counts) (index : Nat) : kept (set.pass^[index] counts) := by
  induction index generalizing counts with
  | zero => exact start
  | succ index ih => exact ih (turns_keep turn start)

theorem turns_counted {set : RuleSet} {rules : List Rule} {counts : Counts}
    (within : ∀ rule ∈ rules, rule ∈ set.rules) (counted : set.vocabulary.Counted counts) :
    set.vocabulary.Counted (rules.foldl (fun counts rule => rule.turn counts) counts) :=
  turns_keep (fun rule member _ counted => turn_counted (within rule member) counted) counted

theorem pass_counted {set : RuleSet} {counts : Counts} (counted : set.vocabulary.Counted counts) :
    set.vocabulary.Counted (set.pass counts) :=
  turns_counted (fun _ member => member) counted

theorem iterate_pass_counted {set : RuleSet} {counts : Counts}
    (counted : set.vocabulary.Counted counts) (index : Nat) :
    set.vocabulary.Counted (set.pass^[index] counts) :=
  iterate_pass_keeps (fun _ member _ counted => turn_counted member counted) counted index

/-- A pass of each of two sets leads from related counts to related ones, and the two are settled on
the same. -/
structure Simulates (set others : RuleSet) (related : Counts → Counts → Prop) : Prop where
  normal : ∀ {counts other}, related counts other → set.normal counts = others.normal other
  pass : ∀ {counts other}, related counts other → related (set.pass counts) (others.pass other)

section

variable {set others : RuleSet} {related : Counts → Counts → Prop} {counts other : Counts}

theorem Simulates.iterate_pass (simulates : set.Simulates others related)
    (start : related counts other) (index : Nat) :
    related (set.pass^[index] counts) (others.pass^[index] other) := by
  induction index generalizing counts other with
  | zero => exact start
  | succ index ih => exact ih (simulates.pass start)

theorem Simulates.productive_eq (simulates : set.Simulates others related)
    (start : related counts other) (most : Nat) :
    set.productive counts most = others.productive other most := by
  induction most generalizing counts other with
  | zero => rfl
  | succ most ih =>
    rw [productive, productive, simulates.normal start, ih (simulates.pass start)]

end

theorem unrolled_add (set : RuleSet) (done : Nat) (counts : Counts) (first second : Nat) :
    set.unrolled done counts (first + second) =
      set.unrolled done counts first ++
        set.unrolled (done + first) (set.pass^[first] counts) second := by
  induction first generalizing done counts with
  | zero => simp [unrolled]
  | succ first ih =>
    have passNumber : done + 1 + first = done + (first + 1) := by omega
    rw [Nat.add_right_comm first 1 second, unrolled, ih, unrolled, List.append_assoc,
      Function.iterate_succ_apply, passNumber]

theorem unrolled_chained (set : RuleSet) (done : Nat) (counts : Counts) (most : Nat) :
    Chained counts (set.unrolled done counts most) (set.pass^[most] counts) := by
  induction most generalizing done counts with
  | zero => rfl
  | succ most ih =>
    exact (sweepSteps_chained (done + 1) 0 counts set.rules).append (ih (done + 1) _)

theorem lastCounts_unrolled (set : RuleSet) (done : Nat) (counts : Counts) (most : Nat) :
    lastCounts counts (set.unrolled done counts most) = set.pass^[most] counts :=
  (set.unrolled_chained done counts most).final_eq.symm

theorem mem_unrolled {set : RuleSet} {done : Nat} {counts : Counts} {most : Nat} {step : Step} :
    step ∈ set.unrolled done counts most ↔
      ∃ index < most, step ∈ set.passSteps (done + index + 1) (set.pass^[index] counts) := by
  induction most generalizing done counts with
  | zero => simp [unrolled]
  | succ most ih =>
    rw [unrolled, List.mem_append, ih]
    constructor
    · rintro (here | ⟨index, early, later⟩)
      · exact ⟨0, Nat.succ_pos most, here⟩
      · refine ⟨index + 1, Nat.succ_lt_succ early, ?_⟩
        rw [Nat.add_right_comm done 1 index] at later
        exact later
    · rintro ⟨index, early, found⟩
      cases index with
      | zero => exact .inl found
      | succ index =>
        refine .inr ⟨index, Nat.lt_of_succ_lt_succ early, ?_⟩
        rw [Nat.add_right_comm done 1 index]
        exact found

theorem unrolled_pass_bounds {set : RuleSet} {done : Nat} {counts : Counts} {most : Nat}
    {step : Step} (member : step ∈ set.unrolled done counts most) :
    (done : Int) < step.pass ∧ step.pass ≤ done + most := by
  obtain ⟨index, early, found⟩ := mem_unrolled.mp member
  have number := sweepSteps_pass found
  omega

theorem unrolled_isPrefix (set : RuleSet) (done : Nat) (counts : Counts) {first second : Nat}
    (fewer : first ≤ second) :
    set.unrolled done counts first <+: set.unrolled done counts second := by
  obtain ⟨more, rfl⟩ := Nat.exists_eq_add_of_le fewer
  exact ⟨_, (set.unrolled_add done counts first more).symm⟩

theorem filter_unrolled_eq_self {set : RuleSet} {done : Nat} {counts : Counts} {most : Nat}
    {kept : Step → Prop} [DecidablePred kept]
    (all : ∀ step : Step, (done : Int) < step.pass → step.pass ≤ done + most → kept step) :
    (set.unrolled done counts most).filter kept = set.unrolled done counts most := by
  rw [List.filter_eq_self]
  intro step member
  obtain ⟨above, upto⟩ := unrolled_pass_bounds member
  exact decide_eq_true (all step above upto)

theorem filter_unrolled_eq_nil {set : RuleSet} {done : Nat} {counts : Counts} {most : Nat}
    {kept : Step → Prop} [DecidablePred kept]
    (none : ∀ step : Step, (done : Int) < step.pass → step.pass ≤ done + most → ¬ kept step) :
    (set.unrolled done counts most).filter kept = [] := by
  rw [List.filter_eq_nil_iff]
  intro step member
  obtain ⟨above, upto⟩ := unrolled_pass_bounds member
  rw [decide_eq_true_eq]
  exact none step above upto

theorem unrolled_eq_filter (set : RuleSet) (done : Nat) (counts : Counts) {first second : Nat}
    (fewer : first ≤ second) :
    set.unrolled done counts first = (set.unrolled done counts second).filter
      fun step => (done : Int) < step.pass ∧ step.pass ≤ (done : Int) + first := by
  obtain ⟨more, rfl⟩ := Nat.exists_eq_add_of_le fewer
  rw [unrolled_add, List.filter_append, filter_unrolled_eq_self (by omega),
    filter_unrolled_eq_nil (by omega), List.append_nil]

theorem filter_unrolled_upto (set : RuleSet) (done : Nat) (counts : Counts) (first more : Nat) :
    (set.unrolled done counts (first + more)).filter (·.pass ≤ ((done + first : Nat) : Int)) =
      set.unrolled done counts first := by
  rw [unrolled_add, List.filter_append, filter_unrolled_eq_self (by omega),
    filter_unrolled_eq_nil (by omega), List.append_nil]

theorem filter_unrolled_after (set : RuleSet) (done : Nat) (counts : Counts) (first more : Nat) :
    (set.unrolled done counts (first + more)).filter (((done + first : Nat) : Int) < ·.pass) =
      set.unrolled (done + first) (set.pass^[first] counts) more := by
  rw [unrolled_add, List.filter_append, filter_unrolled_eq_nil (by omega),
    filter_unrolled_eq_self (by omega), List.nil_append]

theorem filter_unrolled_pass {set : RuleSet} {done index most : Nat} {counts : Counts}
    (early : index < most) :
    (set.unrolled done counts most).filter (·.pass = ((done + index + 1 : Nat) : Int)) =
      set.passSteps (done + index + 1) (set.pass^[index] counts) := by
  obtain ⟨later, rfl⟩ : ∃ later, most = index + 1 + later := ⟨most - index - 1, by omega⟩
  have single : set.unrolled (done + index) (set.pass^[index] counts) 1 =
      set.passSteps (done + index + 1) (set.pass^[index] counts) := List.append_nil _
  rw [unrolled_add, unrolled_add, List.filter_append, List.filter_append,
    filter_unrolled_eq_nil (by omega), filter_unrolled_eq_self (by omega),
    filter_unrolled_eq_nil (by omega), List.nil_append, List.append_nil, single]

end RuleSet

end MultisetSubstitution
