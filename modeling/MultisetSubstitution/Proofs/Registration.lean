import MultisetSubstitution.Proofs.Accounting
import MultisetSubstitution.Proofs.Reloading

/-! Vocabularies from lines and from lists of names. Lines give the names that they hold, each at
its first occurrence, and further lines leave the ids as they are. A list of names is a vocabulary
just if all of them are names and no two are the same, and it can then be read from lines as well.
-/

set_option autoImplicit false

namespace MultisetSubstitution

namespace Names

variable {Name : Type} [DecidableEq Name] {isName : Name → Bool}

theorem pushAll_eq_ok {table result : Names Name isName} {names : List Name} :
    table.pushAll names = .ok result ↔ result.names = table.names ++ names := by
  induction names generalizing table with
  | nil =>
    rw [pushAll, Except.ok.injEq, List.append_nil]
    exact ⟨fun same => congrArg Names.names same.symm, fun same => (eq_of_names same).symm⟩
  | cons name rest ih =>
    rw [pushAll]
    split
    · rename_i valid
      split
      · rename_i present
        simp only [reduceCtorEq, false_iff]
        intro whole
        have distinct := result.distinct
        rw [whole, List.nodup_append] at distinct
        exact distinct.2.2 name present name List.mem_cons_self rfl
      · rename_i fresh
        rw [ih, push, List.append_assoc, List.singleton_append]
    · rename_i invalid
      simp only [reduceCtorEq, false_iff]
      intro whole
      exact invalid (result.valid name (by simp [whole]))

theorem ofList_eq_ok {table : Names Name isName} {names : List Name} :
    ofList names = .ok table ↔ table.names = names := pushAll_eq_ok

end Names

namespace Vocabulary

variable {vocabulary : Vocabulary} {lines : List String} {line : String}

theorem name_eq_ok {id : Int} {name : String} :
    vocabulary.name id = .ok name ↔
      ∃ place : Nat, id = place ∧ vocabulary.names[place]? = some name := by
  rw [Vocabulary.name]
  split
  · rename_i negative
    simp only [reduceCtorEq, false_iff]
    rintro ⟨place, rfl, -⟩
    omega
  · rename_i positive
    have same : id = id.toNat := by omega
    constructor
    · intro found
      refine ⟨id.toNat, same, ?_⟩
      split at found
      · rename_i other here
        rw [here, Except.ok.inj found]
      · exact nomatch found
    · rintro ⟨place, rfl, here⟩
      rw [Int.toNat_natCast, here]

/-- Ids and names stand for each other. The ids that have a name are those in range. -/
structure Numbered (vocabulary : Vocabulary) : Prop where
  inRange : ∀ id : Int, (∃ name, vocabulary.name id = .ok name) ↔ 0 ≤ id ∧ id < vocabulary.size
  id_of_name : ∀ (id : Int) (name : String), vocabulary.name id = .ok name →
    (vocabulary.id? name).map Int.ofNat = some id
  unknown : ∀ name, vocabulary.id? name = none ↔ name ∉ vocabulary.names
  name_of_id : ∀ name id, vocabulary.id? name = some id → vocabulary.name id = .ok name

theorem numbered (vocabulary : Vocabulary) : vocabulary.Numbered where
  inRange id := by
    constructor
    · rintro ⟨name, found⟩
      obtain ⟨place, rfl, here⟩ := name_eq_ok.mp found
      have inside : place < vocabulary.size := (List.getElem?_eq_some_iff.mp here).1
      omega
    · rintro ⟨positive, below⟩
      obtain ⟨place, rfl⟩ := Int.eq_ofNat_of_zero_le positive
      have inside : place < vocabulary.names.length := Int.ofNat_lt.mp below
      exact ⟨_, name_eq_ok.mpr ⟨place, rfl, List.getElem?_eq_getElem inside⟩⟩
  id_of_name id name found := by
    obtain ⟨place, rfl, here⟩ := name_eq_ok.mp found
    rw [id?_eq_some.mpr here]
    rfl
  unknown _ := id?_eq_none
  name_of_id name id found := name_eq_ok.mpr ⟨id, rfl, id?_eq_some.mp found⟩

theorem ofNames_eq_ok {names : List String} :
    ofNames names = .ok vocabulary ↔ vocabulary.names = names := Names.ofList_eq_ok

/-- A text that is taken in where it stands on a line of its own: a name, but no comment. -/
def isEntry (text : String) : Bool := isName text && !Text.beginsWith text "#"

def candidates (lines : List String) : List String := (lines.map Text.trim).filter isEntry

def complaint? (earlier : List String) (line : String) : Option Record :=
  if Text.trim line = "" ∨ Text.beginsWith (Text.trim line) "#" then none
  else if Text.hasBlank (Text.trim line) then
    some ⟨.warn, "Invalid whitespace `" ++ Text.trim line ++ "`."⟩
  else if Text.trim line ∈ earlier.map Text.trim then
    some ⟨.warn, "Duplicate entry `" ++ Text.trim line ++ "`."⟩
  else none

def complaints (lines : List String) : List Record :=
  lines.zipIdx.filterMap fun (line, index) => complaint? (lines.take index) line

theorem isEntry_trim (line : String) :
    isEntry (Text.trim line) = (!Text.isSkipped line && isName (Text.trim line)) := by
  have skipped : Text.isSkipped line = true ↔
      Text.trim line = "" ∨ Text.beginsWith (Text.trim line) "#" = true := Text.isSkipped_iff
  cases held : Text.isSkipped line with
  | true =>
    rcases skipped.mp held with blank | comment
    · rw [blank]
      rfl
    · simp [isEntry, comment]
  | false =>
    rw [held] at skipped
    have plain := (not_or.mp (skipped.not.mp Bool.false_ne_true)).2
    simp [isEntry, plain]

theorem candidates_append (first second : List String) :
    candidates (first ++ second) = candidates first ++ candidates second := by
  rw [candidates, List.map_append, List.filter_append, candidates, candidates]

theorem mem_candidates {name : String} (entry : isEntry name = true) :
    name ∈ candidates lines ↔ name ∈ lines.map Text.trim := by
  rw [candidates, List.mem_filter, and_iff_left entry]

theorem complaints_append_line (lines : List String) (line : String) :
    complaints (lines ++ [line]) = complaints lines ++ (complaint? lines line).toList := by
  have before : ∀ entry ∈ lines.zipIdx, complaint? ((lines ++ [line]).take entry.2) entry.1 =
      complaint? (lines.take entry.2) entry.1 := by
    rintro ⟨other, index⟩ member
    have inside := (List.getElem?_eq_some_iff.mp (List.mem_zipIdx_iff_getElem?.mp member)).1
    rw [List.take_append_of_le_length (Nat.le_of_lt inside)]
  rw [complaints, List.zipIdx_append, List.filterMap_append, List.filterMap_congr before]
  simp only [complaints, List.zipIdx_singleton, Nat.zero_add, List.filterMap_cons,
    List.filterMap_nil, List.take_left]
  cases complaint? lines line <;> rfl

theorem register_of_entry (entry : isEntry (Text.trim line) = true) :
    (vocabulary.register line).names = if Text.trim line ∈ vocabulary.names
      then vocabulary.names else vocabulary.names ++ [Text.trim line] := by
  rw [isEntry_trim, Bool.and_eq_true, Bool.not_eq_true'] at entry
  rw [register, entry.1, if_neg Bool.false_ne_true, dif_pos entry.2]
  split <;> rfl

theorem register_of_not_entry (other : isEntry (Text.trim line) = false) :
    vocabulary.register line = vocabulary := by
  rw [isEntry_trim] at other
  rw [register]
  split
  · rfl
  · rename_i held
    simp only [held, Bool.not_false, Bool.true_and] at other
    rw [dif_neg (Bool.eq_false_iff.mp other)]

theorem names_foldl_register (lines : List String) :
    (lines.foldl register empty).names = (candidates lines).eraseDups := by
  -- The last line gives a name just if it is a candidate that is not there yet.
  induction lines using List.reverseRecOn with
  | nil => rfl
  | append_singleton rest line ih =>
    rw [List.foldl_append, List.foldl_cons, List.foldl_nil, candidates_append]
    cases entry : isEntry (Text.trim line) with
    | false =>
      have none : candidates [line] = [] := by simp [candidates, entry]
      rw [register_of_not_entry entry, none, List.append_nil, ih]
    | true =>
      have one : candidates [line] = [Text.trim line] := by simp [candidates, entry]
      rw [register_of_entry entry, one, List.eraseDups_append, ih]
      by_cases present : Text.trim line ∈ candidates rest
      · simp [List.removeAll, present]
      · simp [List.removeAll, present, List.eraseDups_cons]

theorem mem_foldl_register {name : String} (entry : isEntry name = true) :
    name ∈ (lines.foldl register empty).names ↔ name ∈ lines.map Text.trim := by
  rw [names_foldl_register, List.mem_eraseDups, mem_candidates entry]

theorem refusal?_eq_complaint? (lines : List String) (line : String) :
    (lines.foldl register empty).refusal? line = complaint? lines line := by
  have skipped : Text.isSkipped line = true ↔
      Text.trim line = "" ∨ Text.beginsWith (Text.trim line) "#" = true := Text.isSkipped_iff
  rw [refusal?, complaint?]
  by_cases held : Text.isSkipped line = true
  · rw [if_pos held, if_pos (skipped.mp held)]
  · have plain := skipped.not.mp held
    have name : isName (Text.trim line) = !Text.hasBlank (Text.trim line) := by
      simp [isName, (not_or.mp plain).1]
    rw [if_neg held, if_neg plain, name]
    cases blank : Text.hasBlank (Text.trim line) with
    | true => rfl
    | false =>
      have entry : isEntry (Text.trim line) = true := by
        simp [isEntry_trim, held, name, blank]
      simp only [mem_foldl_register entry]
      rfl

theorem refusals_eq_complaints (lines : List String) :
    empty.refusals lines = complaints lines := by
  induction lines using List.reverseRecOn with
  | nil => rfl
  | append_singleton rest line ih =>
    rw [refusals_append, complaints_append_line, ih, refusals, refusals, List.append_nil,
      refusal?_eq_complaint?]

theorem ofLines_gives (lines : List String) :
    (ofLines lines).Gives (lines.foldl register empty) (complaints lines) := by
  rw [ofLines, pushLines_eq_perform, refusals_eq_complaints]
  exact Reporting.gives_perform _ _

/-- What is to be said of a vocabulary and the reports that come of lines. The names can be made to
the vocabulary without a fault. They are what the lines hold, each at its first occurrence. A report
tells of a blank in a name or of a name that was there before, and each line is skipped, gives a
name or is reported. -/
structure Registers (lines : List String) (vocabulary : Vocabulary) (reports : List Record) :
    Prop where
  made : ofNames vocabulary.names = .ok vocabulary
  names : vocabulary.names = (candidates lines).eraseDups
  reported : reports = complaints lines
  complete : vocabulary.size + reports.length + lines.countP Text.isSkipped = lines.length
  numbered : vocabulary.Numbered

theorem registers (lines : List String) :
    Registers lines (lines.foldl register empty) (complaints lines) where
  made := ofNames_eq_ok.mpr rfl
  names := names_foldl_register lines
  reported := rfl
  complete := by
    have account := empty.size_foldl_register lines
    rw [refusals_eq_complaints] at account
    exact account.trans (Nat.zero_add _)
  numbered := Vocabulary.numbered _

/-- Lines always give a vocabulary, in which ids and names stand for each other. Its names are those
that the lines hold, each at its first occurrence, and of the other lines with something to read
each is reported once. Further lines change none of the names and ids that there are already. -/
theorem ofLines_registers (first second : List String) :
    ∃ vocabulary whole reports raised,
      (ofLines first).Gives vocabulary reports ∧
      (ofLines (first ++ second)).Gives whole (reports ++ raised) ∧
      Registers first vocabulary reports ∧
      vocabulary.names <+: whole.names ∧
      ∀ name id, vocabulary.id? name = some id → whole.id? name = some id := by
  have extended : (first.foldl register empty).names <+:
      ((first ++ second).foldl register empty).names := by
    rw [names_foldl_register, names_foldl_register, candidates_append, List.eraseDups_append]
    exact List.prefix_append _ _
  refine ⟨first.foldl register empty, (first ++ second).foldl register empty, complaints first,
    (first.foldl register empty).refusals second, ofLines_gives first, ?_, registers first,
    extended, ?_⟩
  · rw [← refusals_eq_complaints, ← refusals_append, refusals_eq_complaints]
    exact ofLines_gives (first ++ second)
  · intro name id found
    obtain ⟨more, same⟩ := extended
    have here := id?_eq_some.mp found
    have inside := (List.getElem?_eq_some_iff.mp here).1
    rw [id?_eq_some, ← same, List.getElem?_append_left inside, here]

-- Blanks around a name are no fault, but it is the second of its name; blanks in it are one.
example : complaints ["fire", "# salt", " fire", "wet sand"] =
    [⟨.warn, "Duplicate entry `fire`."⟩, ⟨.warn, "Invalid whitespace `wet sand`."⟩] := by
  decide +kernel

theorem eraseDups_of_nodup {names : List String} (distinct : names.Nodup) :
    names.eraseDups = names := by
  induction names with
  | nil => rfl
  | cons name rest ih =>
    obtain ⟨fresh, others⟩ := List.nodup_cons.mp distinct
    have kept : rest.filter (fun other => !other == name) = rest := by
      rw [List.filter_eq_self]
      rintro other member
      have different : other ≠ name := fun same => fresh (same ▸ member)
      simp [different]
    rw [List.eraseDups_cons, kept, ih others]

/-- Of the names of a vocabulary all but those that look like comments are read again. -/
theorem names_reread (vocabulary : Vocabulary) :
    (vocabulary.names.foldl register empty).names =
      vocabulary.names.filter (!Text.beginsWith · "#") := by
  have kept : candidates vocabulary.names = vocabulary.names.filter (!Text.beginsWith · "#") := by
    rw [candidates, map_trim_of_names fun _ member => member]
    apply List.filter_congr
    intro name member
    rw [isEntry, vocabulary.valid name member, Bool.true_and]
  rw [names_foldl_register, kept, eraseDups_of_nodup (vocabulary.distinct.filter _)]

theorem complaints_names (vocabulary : Vocabulary) : complaints vocabulary.names = [] := by
  have account := (registers vocabulary.names).complete
  have comments : vocabulary.names.countP Text.isSkipped =
      vocabulary.names.countP (Text.beginsWith · "#") :=
    List.countP_congr fun name member => by
      rw [Text.isSkipped_name (vocabulary.valid name member)]
  have others := List.length_eq_countP_add_countP (Text.beginsWith · "#") (l := vocabulary.names)
  rw [size, names_reread, ← List.countP_eq_length_filter, comments] at account
  simp only [Bool.not_eq_true, Bool.decide_eq_false] at others
  exact List.length_eq_zero_iff.mp (by omega)

theorem ofText_joined (vocabulary : Vocabulary) :
    ofText ("\n".intercalate vocabulary.names) = ofLines vocabulary.names := by
  rw [ofText, Text.lines_joined]
  · exact fun name member => (isName_iff.mp (vocabulary.valid name member)).1
  · exact fun name member => Text.unbroken_name (vocabulary.valid name member)

theorem reread_gives (vocabulary : Vocabulary) :
    (ofLines vocabulary.names).Gives (vocabulary.names.foldl register empty) [] := by
  have given := ofLines_gives vocabulary.names
  rwa [complaints_names] at given

theorem reread_eq_iff (vocabulary : Vocabulary) :
    vocabulary.names.foldl register empty = vocabulary ↔
      ∀ name ∈ vocabulary.names, Text.beginsWith name "#" = false := by
  have names : vocabulary.names.foldl register empty = vocabulary ↔
      vocabulary.names.filter (!Text.beginsWith · "#") = vocabulary.names := by
    rw [← names_reread]
    exact ⟨congrArg Names.names, Names.eq_of_names⟩
  rw [names, List.filter_eq_self]
  simp only [Bool.not_eq_true']

theorem reread_of_lines (lines : List String) :
    (lines.foldl register empty).names.foldl register empty = lines.foldl register empty := by
  have uncommented : (lines.foldl register empty).Uncommented :=
    uncommented_foldl_register (by simp [Uncommented, empty, Names.empty]) lines
  rw [reread_eq_iff]
  intro name member
  rw [← Text.isSkipped_name ((lines.foldl register empty).valid name member)]
  exact uncommented name member

/-- Names make a vocabulary exactly if each has characters, none of them blank, and no two are the
same. From lines, or from a text of lines, they are then read without a warning, all but those that
look like comments, of which there are none if they have been read from lines before. -/
theorem ofNames_agrees_with_ofLines (names : List String) :
    ((∃ vocabulary, ofNames names = .ok vocabulary) ↔
      (∀ name ∈ names, name ≠ "" ∧ Text.hasBlank name = false) ∧ names.Nodup) ∧
    (∀ vocabulary, ofNames names = .ok vocabulary → vocabulary.names = names ∧
      ∃ loaded, (ofLines names).Gives loaded [] ∧
        (ofText ("\n".intercalate names)).Gives loaded [] ∧
        loaded.names = names.filter (!Text.beginsWith · "#") ∧
        (loaded = vocabulary ↔ ∀ name ∈ names, Text.beginsWith name "#" = false)) ∧
    ∀ vocabulary reports, (ofLines names).Gives vocabulary reports →
      (ofLines vocabulary.names).Gives vocabulary [] ∧
        (ofText ("\n".intercalate vocabulary.names)).Gives vocabulary [] := by
  refine ⟨⟨?_, ?_⟩, ?_, ?_⟩
  · rintro ⟨vocabulary, made⟩
    obtain rfl := ofNames_eq_ok.mp made
    refine ⟨fun name member => ?_, vocabulary.distinct⟩
    simpa [isName] using vocabulary.valid name member
  · rintro ⟨valid, distinct⟩
    have names_valid : ∀ name ∈ names, isName name = true := by
      intro name member
      simpa [isName] using valid name member
    exact ⟨⟨names, distinct, names_valid⟩, ofNames_eq_ok.mpr rfl⟩
  · intro vocabulary made
    obtain rfl := ofNames_eq_ok.mp made
    rw [ofText_joined]
    exact ⟨rfl, _, vocabulary.reread_gives, vocabulary.reread_gives, vocabulary.names_reread,
      vocabulary.reread_eq_iff⟩
  · intro vocabulary reports given
    obtain ⟨rfl, -⟩ := given.unique (ofLines_gives names)
    have again := reread_gives (names.foldl register empty)
    rw [reread_of_lines] at again
    rw [ofText_joined]
    exact ⟨again, again⟩

/-- A name that looks like a comment is made, but not read. -/
theorem ofNames_agrees_with_ofLines_sharp :
    ∃ vocabulary loaded, ofNames ["water", "#1", "fire"] = .ok vocabulary ∧
      (ofLines ["water", "#1", "fire"]).Gives loaded [] ∧ loaded.names = ["water", "fire"] ∧
      loaded ≠ vocabulary := by
  have names : ["water", "#1", "fire"].filter (!Text.beginsWith · "#") = ["water", "fire"] := by
    decide +kernel
  obtain ⟨constructed, agrees, -⟩ := ofNames_agrees_with_ofLines ["water", "#1", "fire"]
  obtain ⟨vocabulary, made⟩ := constructed.mpr (by decide +kernel)
  obtain ⟨-, loaded, read, -, kept, same⟩ := agrees vocabulary made
  refine ⟨vocabulary, loaded, made, read, kept.trans names, fun equal => ?_⟩
  exact absurd (same.mp equal "#1" (by simp)) (by decide +kernel)

end Vocabulary

end MultisetSubstitution
