import MultisetSubstitution.Diagnostics
import MultisetSubstitution.Proofs.Holding
import MultisetSubstitution.Proofs.Pieces

/-! Counting tokens that are names. Counting the names that counts stand for gives the counts back:
a name is not changed by trimming, it has one id, and it is written as often as it is counted. -/

set_option autoImplicit false

namespace MultisetSubstitution

namespace Vocabulary

def tally (vocabulary : Vocabulary) (counts : Counts) (tokens : List String) : Counts :=
  tokens.foldl (fun counts token =>
    match vocabulary.id? (Text.trim token) with
    | some id => counts.increment id
    | none => counts) counts

theorem Counted.tally {vocabulary : Vocabulary} {counts : Counts}
    (counted : vocabulary.Counted counts) (tokens : List String) :
    vocabulary.Counted (vocabulary.tally counts tokens) := by
  induction tokens generalizing counts with
  | nil => exact counted
  | cons token rest ih =>
    apply ih
    beta_reduce
    split
    · exact counted.increment _
    · exact counted

def omission? (vocabulary : Vocabulary) (token : String) : Option Record :=
  match vocabulary.id? (Text.trim token) with
  | some _ => none
  | none => some ⟨.warn, "Omitting unrecognized attribute `" ++ Text.trim token ++ "`."⟩

variable {vocabulary : Vocabulary}

theorem id?_eq_some {name : String} {id : Nat} :
    vocabulary.id? name = some id ↔ vocabulary.names[id]? = some name := by
  rw [id?, List.idxOf?_eq_some_iff, List.getElem?_eq_some_iff]
  constructor
  · rintro ⟨inside, here, _⟩
    exact ⟨inside, here⟩
  · rintro ⟨inside, here⟩
    refine ⟨inside, here, fun other early same => ?_⟩
    have sameName : vocabulary.names[id]? = vocabulary.names[other]? := by
      rw [List.getElem?_eq_getElem inside, List.getElem?_eq_getElem (by omega), here, same]
    have position := (List.getElem?_inj inside vocabulary.distinct).mp sameName
    omega

theorem id?_eq_none {name : String} : vocabulary.id? name = none ↔ name ∉ vocabulary.names :=
  List.idxOf?_eq_none_iff

theorem omission?_eq_ite (vocabulary : Vocabulary) (token : String) :
    vocabulary.omission? token = if Text.trim token ∈ vocabulary.names then none
      else some ⟨.warn, "Omitting unrecognized attribute `" ++ Text.trim token ++ "`."⟩ := by
  rw [omission?]
  split
  · rename_i id found
    rw [if_pos (List.mem_of_getElem? (id?_eq_some.mp found))]
  · rename_i missing
    rw [if_neg (id?_eq_none.mp missing)]

theorem tally_cons_of_named {counts : Counts} {token : String} {rest : List String} {id : Nat}
    (found : vocabulary.id? (Text.trim token) = some id) :
    vocabulary.tally counts (token :: rest) = vocabulary.tally (counts.increment id) rest := by
  simp [tally, found]

theorem tally_cons_of_unnamed {counts : Counts} {token : String} {rest : List String}
    (found : vocabulary.id? (Text.trim token) = none) :
    vocabulary.tally counts (token :: rest) = vocabulary.tally counts rest := by
  simp [tally, found]

theorem getElem?_tally {counts : Counts} {tokens : List String} {id : Nat} {name : String}
    (named : vocabulary.names[id]? = some name) :
    (vocabulary.tally counts tokens)[id]? =
      counts[id]?.map (· + ((tokens.map Text.trim).count name : Int)) := by
  -- A token adds one to the slot of its name, and a name has only one slot.
  induction tokens generalizing counts with
  | nil => simp [tally]
  | cons token rest ih =>
    rw [List.map_cons, List.count_cons]
    cases found : vocabulary.id? (Text.trim token) with
    | none =>
      have other : Text.trim token ≠ name := by
        rintro rfl
        exact id?_eq_none.mp found (List.mem_of_getElem? named)
      rw [tally_cons_of_unnamed found, ih]
      simp [other]
    | some place =>
      rw [tally_cons_of_named found, ih, Counts.increment, List.getElem?_modify]
      by_cases here : Text.trim token = name
      · have same : place = id := by
          rw [here, id?_eq_some.mpr named] at found
          exact (Option.some.inj found).symm
        cases counts[id]? with
        | none => rfl
        | some count =>
          simp only [same, here, beq_self_eq_true, if_true, Option.map_some, Option.map_eq_map]
          congr 1
          omega
      · have different : place ≠ id := by
          rintro rfl
          exact here (Option.some.inj ((id?_eq_some.mp found).symm.trans named))
        simp [here, different]

theorem checkedRepeated_eq_ok {entries : List (String × Int)} {memory : Memory}
    {tokens : List String} :
    checkedRepeated entries memory = .ok tokens ↔
      tokens = repeated entries ∧ Repetition.Possible memory (entries.map (·.2)) := by
  rw [checkedRepeated, ← Repetition.fault?_eq_none]
  cases Repetition.fault? memory (entries.map (·.2)) <;> simp [eq_comm]

theorem repeated_present (entries : List (String × Int)) :
    repeated (entries.filter (0 < ·.2)) = repeated entries := by
  induction entries with
  | nil => rfl
  | cons entry rest ih =>
    simp only [repeated, List.flatMap_cons] at ih ⊢
    by_cases present : 0 < entry.2
    · rw [List.filter_cons_of_pos (by simpa using present), List.flatMap_cons, ih]
    · have none : entry.2.toNat = 0 := by omega
      rw [List.filter_cons_of_neg (by simpa using present), ih, none, List.replicate_zero,
        List.nil_append]

theorem mem_of_mem_repeated {entries : List (String × Int)} {name : String}
    (member : name ∈ repeated entries) : name ∈ entries.map (·.1) := by
  obtain ⟨entry, inEntries, copies⟩ := List.mem_flatMap.mp member
  rw [List.eq_of_mem_replicate copies]
  exact List.mem_map_of_mem inEntries

-- Names are distinct, so no other entry writes the same name.
theorem count_repeated {names : List String} {counts : Counts} {id : Nat} {name : String}
    {count : Int} (distinct : names.Nodup) (named : names[id]? = some name)
    (counted : counts[id]? = some count) :
    (repeated (names.zip counts)).count name = count.toNat := by
  induction names generalizing counts id with
  | nil => exact nomatch named
  | cons first names ih =>
    obtain ⟨fresh, others⟩ := List.nodup_cons.mp distinct
    cases counts with
    | nil => exact nomatch counted
    | cons firstCount counts =>
      simp only [repeated, List.zip_cons_cons, List.flatMap_cons, List.count_append,
        List.count_replicate] at ih ⊢
      cases id with
      | zero =>
        obtain rfl : first = name := by simpa using named
        obtain rfl : firstCount = count := by simpa using counted
        have later : (repeated (names.zip counts)).count first = 0 := by
          rw [List.count_eq_zero]
          intro member
          obtain ⟨entry, inZip, same⟩ := List.mem_map.mp (mem_of_mem_repeated member)
          exact fresh (same ▸ (List.of_mem_zip inZip).1)
        rw [repeated] at later
        simp [later]
      | succ id =>
        have different : first ≠ name := by
          rintro rfl
          exact fresh (List.mem_of_getElem? (by simpa using named))
        rw [ih others (by simpa using named) (by simpa using counted)]
        simp [different]

def attributes (vocabulary : Vocabulary) (counts : Counts) : List String :=
  repeated (vocabulary.names.zip counts)

theorem repeated_entries (vocabulary : Vocabulary) (counts : Counts) :
    repeated (vocabulary.entries counts) = vocabulary.attributes counts :=
  repeated_present _

theorem name_of_mem_attributes {counts : Counts} {name : String}
    (member : name ∈ vocabulary.attributes counts) : name ∈ vocabulary.names := by
  obtain ⟨entry, inZip, same⟩ := List.mem_map.mp (mem_of_mem_repeated member)
  exact same ▸ (List.of_mem_zip inZip).1

theorem map_trim_of_names {tokens : List String}
    (named : ∀ token ∈ tokens, token ∈ vocabulary.names) : tokens.map Text.trim = tokens := by
  have unchanged : ∀ token ∈ tokens, Text.trim token = id token :=
    fun token member => trim_name (vocabulary.valid token (named token member))
  rw [List.map_congr_left unchanged, List.map_id]

/-- Counting the attributes of counts gives the counts. -/
theorem tally_attributes {counts : Counts} (counted : vocabulary.Counted counts) :
    vocabulary.tally vocabulary.zeros (vocabulary.attributes counts) = counts := by
  -- Slot by slot, a name is counted as often as it is written.
  apply List.ext_getElem?
  intro id
  cases named : vocabulary.names[id]? with
  | none =>
    have outside : vocabulary.size ≤ id := List.getElem?_eq_none_iff.mp named
    have tallied : vocabulary.Counted
        (vocabulary.tally vocabulary.zeros (vocabulary.attributes counts)) :=
      Counted.zeros.tally _
    rw [List.getElem?_eq_none (tallied.length ▸ outside),
      List.getElem?_eq_none (counted.length ▸ outside)]
  | some name =>
    have inside : id < vocabulary.size := (List.getElem?_eq_some_iff.mp named).1
    have slot : id < counts.length := counted.length ▸ inside
    have nonnegative := counted.nonnegative counts[id] (List.getElem_mem slot)
    rw [getElem?_tally named, map_trim_of_names fun _ => name_of_mem_attributes, attributes,
      List.getElem?_eq_getElem slot,
      count_repeated vocabulary.distinct named (List.getElem?_eq_getElem slot), zeros,
      Counts.zeros, List.getElem?_replicate_of_lt inside]
    simp only [Option.map_some, Int.zero_add, Int.toNat_of_nonneg nonnegative]

theorem omission?_attributes (vocabulary : Vocabulary) (counts : Counts) :
    (vocabulary.attributes counts).filterMap vocabulary.omission? = [] := by
  rw [List.filterMap_eq_nil_iff]
  intro name member
  have named := name_of_mem_attributes member
  rw [omission?_eq_ite, trim_name (vocabulary.valid name named), if_pos named]

end Vocabulary

/-- One rule, by which four seeds give more grains than there can be copies of a name. -/
def RuleSet.sprouting : RuleSet where
  vocabulary := ⟨["seed", "grain"], by decide, by decide +kernel⟩
  rules := [⟨[4, 0], [0, 0x8000000000000000], none, rfl, by decide, by decide, rfl, by decide⟩]
  fits := by decide

end MultisetSubstitution
