import Mathlib
import MultisetSubstitution.Proofs.Amounts
import MultisetSubstitution.Proofs.Decoding
import MultisetSubstitution.Proofs.Grammar
import MultisetSubstitution.Proofs.Registration
import MultisetSubstitution.RuleSet.Table

/-! Rule sets from their tables, and tables from their JSON. A table leaves out what is counted
zero, and no name has two entries, so looking the names up gives the counts back. For the same
reason no object of the JSON has a key twice, and what is written can be read. -/

set_option autoImplicit false

namespace MultisetSubstitution

section

variable {Name : Type} [DecidableEq Name] {names : List Name} {counts : Counts}

/-- The counts that entries give; a name without an entry is counted zero. -/
def countsOf (names : List Name) (entries : List (Name × Int)) : Counts :=
  names.map fun name => (entries.lookup name).getD 0

theorem lookup_eq_none {entries : List (Name × Int)} {name : Name}
    (absent : name ∉ entries.map (·.1)) : entries.lookup name = none := by
  rw [List.lookup_eq_none_iff]
  intro entry member
  rw [bne_iff_ne]
  rintro rfl
  exact absent (List.mem_map_of_mem member)

/-- Where no name has two entries, an entry of zero is as good as none. -/
theorem lookup_nonzero {entries : List (Name × Int)} (distinct : (entries.map (·.1)).Nodup)
    (name : Name) :
    ((entries.filter (·.2 != 0)).lookup name).getD 0 = (entries.lookup name).getD 0 := by
  induction entries with
  | nil => rfl
  | cons entry rest ih =>
    obtain ⟨key, count⟩ := entry
    obtain ⟨fresh, later⟩ := List.nodup_cons.mp distinct
    by_cases here : name = key
    · subst here
      by_cases zero : count = 0
      · -- The entry is left out, and there is no other one.
        have kept := (List.filter_sublist (p := fun entry => entry.2 != 0) (l := rest)).map (·.1)
        have absent := lookup_eq_none fun member => fresh (kept.subset member)
        simp [zero, absent]
      · simp [zero]
    · rw [List.filter_cons, lookup_cons_eq_ite, if_neg here, ← ih later]
      split
      · rw [lookup_cons_eq_ite, if_neg here]
      · rfl

theorem map_lookup_zip (distinct : names.Nodup) (length : counts.length = names.length) :
    (names.map fun name => ((names.zip counts).lookup name).getD 0) = counts := by
  induction names generalizing counts with
  | nil => exact (List.eq_nil_of_length_eq_zero length).symm
  | cons name rest ih =>
    cases counts with
    | nil => exact nomatch length
    | cons count others =>
      obtain ⟨fresh, later⟩ := List.nodup_cons.mp distinct
      have shifted : ∀ other ∈ rest, (((name, count) :: rest.zip others).lookup other).getD 0 =
          ((rest.zip others).lookup other).getD 0 := by
        intro other member
        have different : other ≠ name := fun same => fresh (same ▸ member)
        rw [lookup_cons_eq_ite, if_neg different]
      rw [List.zip_cons_cons, List.map_cons, List.map_congr_left shifted,
        ih later (Nat.succ.inj length), List.lookup_cons_self, Option.getD_some]

theorem countsOf_nonzero (distinct : names.Nodup) (length : counts.length = names.length) :
    countsOf names (nonzero names counts) = counts := by
  have all : (names.zip counts).map (·.1) = names := List.map_fst_zip (Nat.le_of_eq length.symm)
  simp only [countsOf, nonzero, lookup_nonzero (all.symm ▸ distinct)]
  exact map_lookup_zip distinct length

end

/-! ## Tables from JSON -/

namespace Json

def asInteger? : Json → Option Int
  | .integer value => some value
  | _ => none

def asText? : Json → Option Text.Codes
  | .text value => some value
  | _ => none

def asArray? : Json → Option (List Json)
  | .array items => some items
  | _ => none

def field? (key : String) : Json → Option Json
  | .object fields => fields.lookup (Text.codes key)
  | _ => none

theorem field?_cons (key other : String) (value : Json) (fields : List (Text.Codes × Json)) :
    (object ((Text.codes other, value) :: fields)).field? key =
      if key = other then some value else (object fields).field? key := by
  rw [field?, List.lookup_cons]
  by_cases same : key = other
  · rw [same, beq_self_eq_true, if_pos rfl]
  · rw [beq_eq_false_iff_ne.mpr (Text.codes_injective.ne same), if_neg same]
    rfl

theorem field?_nil (key : String) : (object []).field? key = none := rfl

def asCounts? : Json → Option (List (Text.Codes × Int))
  | .object fields => fields.mapM fun field => field.2.asInteger?.map (field.1, ·)
  | _ => none

theorem mapM_written {α β : Type} {write : α → β} {read? : β → Option α}
    (undone : ∀ item, read? (write item) = some item) (items : List α) :
    (items.map write).mapM read? = some items := by
  induction items with
  | nil => rfl
  | cons item rest ih =>
    rw [List.map_cons, List.mapM_cons, undone, ih]
    rfl

theorem asCounts?_ofCounts (entries : List (Text.Codes × Int)) :
    (ofCounts entries).asCounts? = some entries := by
  rw [ofCounts, asCounts?]
  refine mapM_written ?_ entries
  exact fun _ => rfl

theorem distinct_ofCounts {entries : List (Text.Codes × Int)} (keys : (entries.map (·.1)).Nodup) :
    (ofCounts entries).Distinct := by
  refine .object (by simpa [Function.comp_def] using keys) fun field member => ?_
  obtain ⟨entry, -, rfl⟩ := List.mem_map.mp member
  exact .integer entry.2

end Json

namespace RuleRow

def rule {Name : Type} [DecidableEq Name] (names : List Name) (row : RuleRow Name) :
    Except Rule.Fault Rule :=
  Rule.ofSides (countsOf names row.inputs) (countsOf names row.outputs) row.line

def ofJson? (json : Json) : Option (RuleRow Text.Codes) := do
  let inputs ← (← json.field? "inputs").asCounts?
  let outputs ← (← json.field? "outputs").asCounts?
  let line ← match json.field? "line" with
    | none => some none
    | some line => line.asInteger?.map some
  return { inputs, outputs, line }

theorem ofJson?_toJson (row : RuleRow Text.Codes) : ofJson? row.toJson = some row := by
  obtain ⟨inputs, outputs, line⟩ := row
  cases line <;>
    simp [ofJson?, toJson, Json.field?_cons, Json.field?_nil, Json.asCounts?_ofCounts,
      Json.asInteger?]

theorem distinct_toJson {row : RuleRow Text.Codes} (inputs : (row.inputs.map (·.1)).Nodup)
    (outputs : (row.outputs.map (·.1)).Nodup) : row.toJson.Distinct := by
  have taken := Json.distinct_ofCounts inputs
  have given := Json.distinct_ofCounts outputs
  have keys : (["inputs", "outputs", "line"].map Text.codes).Nodup :=
    (show ["inputs", "outputs", "line"].Nodup by decide).map Text.codes_injective
  rw [toJson]
  cases row.line with
  | none => exact .object (keys.sublist (by simp)) (by simp [taken, given])
  | some line => exact .object keys (by simp [taken, given, Json.Distinct.integer])

def reread (row : RuleRow Text.Codes) : RuleRow Text.Codes where
  inputs := row.inputs.map fun entry => (Json.rereadText entry.1, entry.2)
  outputs := row.outputs.map fun entry => (Json.rereadText entry.1, entry.2)
  line := row.line

end RuleRow

namespace Json

theorem rereadItems_eq_map (items : List Json) : rereadItems items = items.map reread := by
  induction items with
  | nil => rfl
  | cons item rest ih => rw [rereadItems, ih, List.map_cons]

theorem rereadFields_eq_map (fields : List (Text.Codes × Json)) :
    rereadFields fields = fields.map fun field => (rereadText field.1, field.2.reread) := by
  induction fields with
  | nil => rfl
  | cons field rest ih => rw [rereadFields, ih, List.map_cons]

theorem rereadText_codes (text : String) : rereadText (Text.codes text) = Text.codes text :=
  rereadText_eq_self.mpr (Text.unpaired_codes text)

theorem reread_ofCounts (entries : List (Text.Codes × Int)) :
    (ofCounts entries).reread =
      ofCounts (entries.map fun entry => (rereadText entry.1, entry.2)) := by
  simp [ofCounts, reread, rereadFields_eq_map]

theorem reread_row (row : RuleRow Text.Codes) : row.toJson.reread = row.reread.toJson := by
  obtain ⟨inputs, outputs, line⟩ := row
  cases line <;>
    simp [RuleRow.toJson, RuleRow.reread, reread, rereadFields_eq_map, rereadText_codes,
      reread_ofCounts]

end Json

namespace RuleTable

def ofJson? (json : Json) : Option (RuleTable Text.Codes) := do
  let attributes ← (← (← json.field? "attributes").asArray?).mapM Json.asText?
  let rows ← (← (← json.field? "rules").asArray?).mapM RuleRow.ofJson?
  return { attributes, rows }

theorem ofJson?_toJson (table : RuleTable Text.Codes) : ofJson? table.toJson = some table := by
  have attributes := Json.mapM_written (fun _ => rfl : ∀ name, (Json.text name).asText? = some name)
    table.attributes
  have rows := Json.mapM_written RuleRow.ofJson?_toJson table.rows
  simp [ofJson?, toJson, Json.field?_cons, Json.asArray?, attributes, rows]

def reread (table : RuleTable Text.Codes) : RuleTable Text.Codes where
  attributes := table.attributes.map Json.rereadText
  rows := table.rows.map RuleRow.reread

theorem reread_toJson (table : RuleTable Text.Codes) :
    table.toJson.reread = table.reread.toJson := by
  simp [toJson, reread, Json.reread, Json.rereadFields_eq_map, Json.rereadItems_eq_map,
    Json.rereadText_codes, Json.reread_row]

theorem toJson_injective : Function.Injective toJson := by
  intro table other same
  have found := congrArg ofJson? same
  rw [ofJson?_toJson, ofJson?_toJson] at found
  exact Option.some.inj found

end RuleTable

theorem nodup_nonzero {names : List Text.Codes} {counts : Counts} (distinct : names.Nodup)
    (length : counts.length = names.length) : ((nonzero names counts).map (·.1)).Nodup :=
  (Vocabulary.kept_sublist length _).nodup distinct

theorem Rule.rule_row {Name : Type} [DecidableEq Name] {names : List Name} {rule : Rule}
    (distinct : names.Nodup) (fits : rule.dimension = names.length) :
    (rule.row names).rule names = .ok rule := by
  rw [RuleRow.rule, row, countsOf_nonzero distinct fits,
    countsOf_nonzero distinct (rule.length_outputs.trans fits)]
  exact ofSides_eq_ok.mpr ⟨rfl, rfl, rfl⟩

namespace CodeRuleSet

variable {set : CodeRuleSet} {indent : Option Int} {memory : Memory} {digits : Option Nat}
  {text : String}

theorem reread_nonzero {names : List Text.Codes}
    (plain : ∀ name ∈ names, Json.rereadText name = name)
    (counts : Counts) :
    ((nonzero names counts).map fun entry => (Json.rereadText entry.1, entry.2)) =
      nonzero names counts := by
  have same : ∀ entry ∈ nonzero names counts,
      (Json.rereadText entry.1, entry.2) = id entry := by
    intro entry member
    have named : entry.1 ∈ names := (List.of_mem_zip (List.mem_of_mem_filter member)).1
    rw [plain entry.1 named]
    rfl
  rw [List.map_congr_left same, List.map_id]

theorem reread_table (set : CodeRuleSet) :
    set.table.reread = set.table ↔ ∀ name ∈ set.vocabulary.names, Text.Unpaired name := by
  simp only [← Json.rereadText_eq_self]
  constructor
  · intro same
    have fixed : set.vocabulary.names.map Json.rereadText = set.vocabulary.names.map id := by
      rw [List.map_id]
      exact congrArg RuleTable.attributes same
    exact List.map_inj_left.mp fixed
  · intro plain
    have rows : ∀ rule ∈ set.rules,
        (rule.row set.vocabulary.names).reread = rule.row set.vocabulary.names := by
      intro rule _
      rw [Rule.row, RuleRow.reread, reread_nonzero plain, reread_nonzero plain]
    have attributes : set.vocabulary.names.map Json.rereadText = set.vocabulary.names :=
      (List.map_congr_left plain).trans (List.map_id _)
    rw [table, RuleTable.of, RuleTable.reread, List.map_map, attributes]
    exact congrArg (RuleTable.mk _) (List.map_congr_left rows)

theorem distinct_table (set : CodeRuleSet) : set.table.toJson.Distinct := by
  have attributes : ∀ item ∈ set.table.attributes.map Json.text, item.Distinct := by
    simp [Json.Distinct.text]
  have rows : ∀ item ∈ set.table.rows.map RuleRow.toJson, item.Distinct := by
    simp only [table, RuleTable.of, List.map_map, List.forall_mem_map]
    intro rule member
    have fits := set.fits rule member
    exact RuleRow.distinct_toJson (nodup_nonzero set.vocabulary.distinct fits)
      (nodup_nonzero set.vocabulary.distinct (rule.length_outputs.trans fits))
  have keys : (["attributes", "rules"].map Text.codes).Nodup :=
    (show ["attributes", "rules"].Nodup by decide).map Text.codes_injective
  exact .object keys (by simp [Json.Distinct.array attributes, Json.Distinct.array rows])

theorem checkedJson_eq_ok : set.table.checkedJson indent memory digits = .ok text ↔
    Repetition.Possible memory (set.table.toJson.indents indent) ∧
      (∀ row ∈ set.table.rows, ∀ number ∈ row.numbers, Text.fits digits number = true) ∧
      set.table.json indent = text := by
  rw [RuleTable.checkedJson, ← Repetition.fault?_eq_none]
  cases Repetition.fault? memory (set.table.toJson.indents indent) with
  | some fault => simp
  | none =>
    simp only [true_and, ← List.all_eq_true]
    split
    · rename_i fits
      simp [fits]
    · rename_i misfit
      simp [misfit]

/-- What is written of a table is read as it just if there is no pair in a name. -/
theorem read?_checkedJson (written : set.table.checkedJson indent memory digits = .ok text) :
    Json.read? text = some set.table.toJson ↔
      ∀ name ∈ set.vocabulary.names, Text.Unpaired name := by
  obtain ⟨-, -, rfl⟩ := checkedJson_eq_ok.mp written
  rw [RuleTable.json, Json.read?_write, RuleTable.reread_toJson, RuleTable.toJson_injective.eq_iff,
    ← reread_table]
  refine and_iff_right_of_imp fun same => ?_
  rw [same]
  exact set.distinct_table

/-- Tables and their JSON lose nothing. The attributes give back the vocabulary, the rows give back
the rules with their lines, in order, and the JSON value gives back the table. There is a text under
every indent that can be repeated, where no number is too long to be written. What a strict reader
reads in it is that value just if in no name the halves of a surrogate pair stand side by side. -/
theorem exports_lossless (set : CodeRuleSet) :
    Names.ofList set.table.attributes = .ok set.vocabulary ∧
    set.table.rows.map (RuleRow.rule set.vocabulary.names) = set.rules.map .ok ∧
    RuleTable.ofJson? set.table.toJson = some set.table ∧
    ∀ indent memory digits,
      ((∃ text, set.table.checkedJson indent memory digits = .ok text) ↔
        Repetition.Possible memory (set.table.toJson.indents indent) ∧
          ∀ row ∈ set.table.rows, ∀ number ∈ row.numbers, Text.fits digits number = true) ∧
      ∀ text, set.table.checkedJson indent memory digits = .ok text →
        (Json.read? text = some set.table.toJson ↔
          ∀ name ∈ set.vocabulary.names, Text.Unpaired name) := by
  refine ⟨Names.ofList_eq_ok.mpr rfl, ?_, set.table.ofJson?_toJson,
    fun indent memory digits => ⟨?_, fun text => read?_checkedJson⟩⟩
  · rw [table, RuleTable.of, List.map_map]
    exact List.map_congr_left fun rule member =>
      Rule.rule_row set.vocabulary.distinct (set.fits rule member)
  · simp only [checkedJson_eq_ok]
    constructor
    · rintro ⟨text, possible, fits, -⟩
      exact ⟨possible, fits⟩
    · rintro ⟨possible, fits⟩
      exact ⟨set.table.json indent, possible, fits, rfl⟩

def escapes : Vocabulary := ⟨["\"", "𝄞"], by decide, by decide +kernel⟩

def escaping : CodeRuleSet := RuleSet.coded <|
  (RuleSet.empty escapes).push
    ⟨[1, 1], [0, 2], some 1, rfl, by decide, by decide, rfl, by decide⟩ rfl

theorem exports_lossless_escaping :
    ∃ text, escaping.table.checkedJson (some (-1)) (fun _ => true) (some Text.digitLimit) =
        .ok text ∧
      Json.read? text = some escaping.table.toJson := by
  obtain ⟨-, -, -, json⟩ := exports_lossless escaping
  obtain ⟨written, undone⟩ := json (some (-1)) (fun _ => true) (some Text.digitLimit)
  have possible : Repetition.Possible (fun _ => true)
      (escaping.table.toJson.indents (some (-1))) :=
    ⟨by decide +kernel, fun _ _ _ => rfl⟩
  obtain ⟨text, found⟩ := written.mpr ⟨possible, by decide +kernel⟩
  exact ⟨text, found, (undone text found).mpr (by decide +kernel)⟩

def crowded : CodeRuleSet where
  vocabulary := escaping.vocabulary
  rules := [⟨[Text.overlong, 0], [0, 2], some 1, by decide +kernel, by decide +kernel, by decide,
    by decide +kernel, by decide +kernel⟩]
  fits := by decide +kernel

/-- A name that is the two halves of a surrogate pair. -/
def parted : CodeRuleSet where
  vocabulary := ⟨[[⟨0xD83D, by decide⟩, ⟨0xDE00, by decide⟩]], by decide, by decide +kernel⟩
  rules := []
  fits := by simp

/-- There is no text under an indent that is out of range, though it is below zero and would count
as zero, and none with a number that is too long. Halves of a surrogate pair are read as one. -/
theorem exports_lossy :
    escaping.table.checkedJson (some (-0x8000000000000001)) (fun _ => true)
        (some Text.digitLimit) = .error (.repetition .noIndex) ∧
    crowded.table.checkedJson none (fun _ => true) (some Text.digitLimit) = .error .longNumber ∧
    (∃ text, parted.table.checkedJson none (fun _ => true) (some Text.digitLimit) = .ok text ∧
      Json.read? text ≠ some parted.table.toJson) ∧
    ¬ ∀ (set : CodeRuleSet) (indent : Option Int), ∃ text,
      set.table.checkedJson indent (fun _ => true) (some Text.digitLimit) = .ok text ∧
        Json.read? text = some set.table.toJson := by
  have refused : escaping.table.checkedJson (some (-0x8000000000000001)) (fun _ => true)
      (some Text.digitLimit) = .error (.repetition .noIndex) := by decide +kernel
  have written : parted.table.checkedJson none (fun _ => true) (some Text.digitLimit) =
      .ok (parted.table.json none) := by decide +kernel
  refine ⟨refused, by decide +kernel, ⟨_, written, fun same => ?_⟩, fun every => ?_⟩
  · exact absurd ((read?_checkedJson written).mp same) (by decide +kernel)
  · obtain ⟨text, found, -⟩ := every escaping (some (-0x8000000000000001))
    rw [refused] at found
    exact nomatch found

end CodeRuleSet

end MultisetSubstitution
