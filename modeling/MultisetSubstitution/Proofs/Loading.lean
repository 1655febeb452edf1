import MultisetSubstitution.Proofs.Effects
import MultisetSubstitution.Proofs.Lines
import MultisetSubstitution.Proofs.Reading
import MultisetSubstitution.Vocabulary.Loading

/-! Loading as what is accepted from the lines of a text and what is reported of the others. No name
that is accepted is a comment, and no accepted rule needs a name with a comma or an arrow in it. -/

set_option autoImplicit false

namespace MultisetSubstitution

namespace Vocabulary

def register (vocabulary : Vocabulary) (line : String) : Vocabulary :=
  if Text.isSkipped line then vocabulary
  else if valid : isName (Text.trim line) = true then
    if present : Text.trim line ∈ vocabulary.names then vocabulary
    else vocabulary.push (Text.trim line) valid present
  else vocabulary

def refusal? (vocabulary : Vocabulary) (line : String) : Option Record :=
  if Text.isSkipped line then none
  else if isName (Text.trim line) then
    if Text.trim line ∈ vocabulary.names then
      some ⟨.warn, "Duplicate entry `" ++ Text.trim line ++ "`."⟩
    else none
  else some ⟨.warn, "Invalid whitespace `" ++ Text.trim line ++ "`."⟩

def refusals (vocabulary : Vocabulary) : List String → List Record
  | [] => []
  | line :: rest => (vocabulary.refusal? line).toList ++ (vocabulary.register line).refusals rest

theorem pushLines_eq_perform (vocabulary : Vocabulary) (lines : List String) :
    vocabulary.pushLines lines =
      Reporting.perform (lines.foldl register vocabulary)
        ((vocabulary.refusals lines).map .tell) := by
  -- Only a fresh name changes the vocabulary that the other lines are read against.
  induction lines generalizing vocabulary with
  | nil => rfl
  | cons line rest ih =>
    rw [pushLines, refusals, List.foldl_cons, register, refusal?]
    by_cases skipped : Text.isSkipped line = true
    · simp only [skipped, if_true, ih]
      rfl
    · simp only [skipped, if_false, Bool.false_eq_true]
      by_cases valid : isName (Text.trim line) = true
      · simp only [valid, dif_pos, if_true]
        by_cases present : Text.trim line ∈ vocabulary.names
        · simp only [present, dif_pos, if_true]
          exact Reporting.warn_bind (ih vocabulary)
        · simp only [present, dif_neg, not_false_eq_true, if_false, ih]
          rfl
      · simp only [valid]
        exact Reporting.warn_bind (ih vocabulary)

/-- No name is a comment when it stands on a line of its own. -/
def Uncommented (vocabulary : Vocabulary) : Prop :=
  ∀ name ∈ vocabulary.names, Text.isSkipped name = false

theorem Uncommented.register {vocabulary : Vocabulary} (uncommented : vocabulary.Uncommented)
    (line : String) : (vocabulary.register line).Uncommented := by
  rw [Vocabulary.register]
  split
  · exact uncommented
  · rename_i held
    split
    · split
      · exact uncommented
      · intro name member
        rcases List.mem_append.mp member with old | new
        · exact uncommented name old
        · rw [List.mem_singleton.mp new, Text.isSkipped_trim]
          exact Bool.eq_false_iff.mpr held
    · exact uncommented

theorem uncommented_foldl_register {vocabulary : Vocabulary} (uncommented : vocabulary.Uncommented)
    (lines : List String) : (lines.foldl register vocabulary).Uncommented := by
  induction lines generalizing vocabulary with
  | nil => exact uncommented
  | cons line rest ih => exact ih (uncommented.register line)

def loaded (text : String) : Vocabulary := (Text.lines text).foldl register empty

theorem ofText_eq_perform (text : String) :
    ofText text =
      Reporting.perform (loaded text) ((empty.refusals (Text.lines text)).map .tell) :=
  pushLines_eq_perform empty (Text.lines text)

theorem ofText_gives (text : String) :
    (ofText text).Gives (loaded text) (empty.refusals (Text.lines text)) := by
  rw [ofText_eq_perform]
  exact Reporting.gives_perform _ _

theorem runWith_ofText {around : Surroundings} (accepting : around.sink.Accepting)
    (text : String) (output : Output) :
    (ofText text).runWith around output = (.ok (loaded text),
      around.sink.deliverAll (empty.refusals (Text.lines text)) output) :=
  ofText_gives text around accepting output

theorem refusal?_warn {vocabulary : Vocabulary} {line : String} {record : Record}
    (refused : vocabulary.refusal? line = some record) : record.level = .warn := by
  rw [refusal?] at refused
  split at refused
  · cases refused
  · split at refused
    · split at refused
      · cases refused
        rfl
      · cases refused
    · cases refused
      rfl

theorem refusals_warn {vocabulary : Vocabulary} {lines : List String} {record : Record}
    (member : record ∈ vocabulary.refusals lines) : record.level = .warn := by
  induction lines generalizing vocabulary with
  | nil => exact nomatch member
  | cons line rest ih =>
    rcases List.mem_append.mp member with here | later
    · exact refusal?_warn (Option.mem_toList.mp here)
    · exact ih later

theorem loaded_uncommented (text : String) : (loaded text).Uncommented :=
  uncommented_foldl_register (by simp [Uncommented, empty, Names.empty]) (Text.lines text)

end Vocabulary

def Text.numbered (number : Int) : List String → List (Int × String)
  | [] => []
  | line :: rest => (number, line) :: numbered (number + 1) rest

@[simp] theorem Text.length_numbered (number : Int) (lines : List String) :
    (numbered number lines).length = lines.length := by
  induction lines generalizing number with
  | nil => rfl
  | cons line rest ih => exact congrArg (· + 1) (ih (number + 1))

theorem Text.line_of_mem_numbered {number : Int} {lines : List String} {line : Int × String}
    (member : line ∈ numbered number lines) : line.2 ∈ lines := by
  induction lines generalizing number with
  | nil => exact nomatch member
  | cons text rest ih =>
    rcases List.mem_cons.mp member with rfl | later
    · exact List.mem_cons_self
    · exact List.mem_cons_of_mem text (ih later)

namespace Rule

def accepted? (vocabulary : Vocabulary) (line : Int × String) : Option Rule :=
  match read vocabulary line.2 (some line.1) with
  | .ok found => found
  | .error _ => none

def rejection? (vocabulary : Vocabulary) (line : Int × String) : Option Record :=
  match read vocabulary line.2 (some line.1) with
  | .ok _ => none
  | .error rejection => some ⟨.warn, rejection.message (some line.1)⟩

section

variable {vocabulary : Vocabulary} {number : Int} {text : String}

theorem accepted?_of_ok {found : Option Rule}
    (same : read vocabulary text (some number) = .ok found) :
    accepted? vocabulary (number, text) = found := by
  simp only [accepted?, same]

theorem rejection?_of_ok {found : Option Rule}
    (same : read vocabulary text (some number) = .ok found) :
    rejection? vocabulary (number, text) = none := by
  simp only [rejection?, same]

theorem accepted?_of_error {rejection : Rejection}
    (rejected : read vocabulary text (some number) = .error rejection) :
    accepted? vocabulary (number, text) = none := by
  simp only [accepted?, rejected]

theorem rejection?_of_error {rejection : Rejection}
    (rejected : read vocabulary text (some number) = .error rejection) :
    rejection? vocabulary (number, text) = some ⟨.warn, rejection.message (some number)⟩ := by
  simp only [rejection?, rejected]

end

theorem accepted?_eq_some {vocabulary : Vocabulary} {line : Int × String} {rule : Rule} :
    accepted? vocabulary line = some rule ↔
      read vocabulary line.2 (some line.1) = .ok (some rule) := by
  rw [accepted?]
  split
  · rename_i found same
    rw [same]
    simp
  · rename_i rejection same
    rw [same]
    simp

end Rule

namespace RuleSet

def acceptedFrom (vocabulary : Vocabulary) (number : Int) (lines : List String) : List Rule :=
  (Text.numbered number lines).filterMap (Rule.accepted? vocabulary)

def rejectionsFrom (vocabulary : Vocabulary) (number : Int) (lines : List String) : List Record :=
  (Text.numbered number lines).filterMap (Rule.rejection? vocabulary)

theorem exists_of_mem_acceptedFrom {vocabulary : Vocabulary} {number : Int} {lines : List String}
    {rule : Rule} (member : rule ∈ acceptedFrom vocabulary number lines) :
    ∃ text ∈ lines, ∃ line, Rule.read vocabulary text line = .ok (some rule) := by
  obtain ⟨line, inLines, accepted⟩ := List.mem_filterMap.mp member
  exact ⟨line.2, Text.line_of_mem_numbered inLines, some line.1,
    Rule.accepted?_eq_some.mp accepted⟩

theorem rejectionsFrom_warn {vocabulary : Vocabulary} {number : Int}
    {lines : List String} {record : Record}
    (member : record ∈ rejectionsFrom vocabulary number lines) : record.level = .warn := by
  obtain ⟨line, _, rejected⟩ := List.mem_filterMap.mp member
  rw [Rule.rejection?] at rejected
  split at rejected
  · cases rejected
  · cases rejected
    rfl

def extend (set : RuleSet) (number : Int) (lines : List String) : RuleSet where
  vocabulary := set.vocabulary
  rules := set.rules ++ acceptedFrom set.vocabulary number lines
  fits := by
    intro rule member
    rcases List.mem_append.mp member with old | new
    · exact set.fits rule old
    · obtain ⟨_, _, _, found⟩ := exists_of_mem_acceptedFrom new
      exact Rule.read_dimension found

theorem rules_extend_empty (vocabulary : Vocabulary) (number : Int) (lines : List String) :
    ((empty vocabulary).extend number lines).rules = acceptedFrom vocabulary number lines :=
  List.nil_append _

theorem extend_cons_none {set : RuleSet} {number : Int} {text : String}
    (nothing : Rule.accepted? set.vocabulary (number, text) = none) (rest : List String) :
    set.extend number (text :: rest) = set.extend (number + 1) rest := by
  simp only [extend, acceptedFrom, Text.numbered, List.filterMap_cons_none nothing]

theorem extend_cons_some {set : RuleSet} {number : Int} {text : String} {rule : Rule}
    (found : Rule.accepted? set.vocabulary (number, text) = some rule)
    (fits : rule.dimension = set.vocabulary.size) (rest : List String) :
    set.extend number (text :: rest) = (set.push rule fits).extend (number + 1) rest := by
  simp only [extend, push, acceptedFrom, Text.numbered, List.filterMap_cons_some found,
    List.append_assoc, List.singleton_append]

theorem pushLines_eq_perform (set : RuleSet) (number : Int) (lines : List String) :
    set.pushLines number lines = Reporting.perform (set.extend number lines)
      ((rejectionsFrom set.vocabulary number lines).map .tell) := by
  -- A line is skipped, is a rule, or is rejected; the number goes up in any case.
  induction lines generalizing set number with
  | nil => simp [pushLines, extend, acceptedFrom, rejectionsFrom, Text.numbered, Reporting.perform]
  | cons text rest ih =>
    rw [pushLines, rejectionsFrom, Text.numbered]
    split
    · rename_i nothing
      rw [extend_cons_none (Rule.accepted?_of_ok nothing),
        List.filterMap_cons_none (Rule.rejection?_of_ok nothing)]
      exact ih set (number + 1)
    · rename_i rule found
      rw [extend_cons_some (Rule.accepted?_of_ok found) (Rule.read_dimension found),
        List.filterMap_cons_none (Rule.rejection?_of_ok found)]
      exact ih (set.push rule (Rule.read_dimension found)) (number + 1)
    · rename_i rejection rejected
      rw [extend_cons_none (Rule.accepted?_of_error rejected),
        List.filterMap_cons_some (Rule.rejection?_of_error rejected)]
      exact Reporting.warn_bind (ih set (number + 1))

theorem ofLines_gives (vocabulary : Vocabulary) (lines : List String) :
    (ofLines vocabulary lines).Gives ((empty vocabulary).extend 1 lines)
      (rejectionsFrom vocabulary 1 lines) := by
  rw [ofLines, pushLines_eq_perform]
  exact Reporting.gives_perform _ _

def loaded (vocabulary : Vocabulary) (text : String) : RuleSet :=
  (empty vocabulary).extend 1 (Text.lines text)

theorem rules_loaded (vocabulary : Vocabulary) (text : String) :
    (loaded vocabulary text).rules = acceptedFrom vocabulary 1 (Text.lines text) :=
  rules_extend_empty vocabulary 1 (Text.lines text)

theorem ofText_eq_perform (vocabulary : Vocabulary) (text : String) :
    ofText vocabulary text = Reporting.perform (loaded vocabulary text)
      ((rejectionsFrom vocabulary 1 (Text.lines text)).map .tell) :=
  pushLines_eq_perform (empty vocabulary) 1 (Text.lines text)

theorem ofText_gives (vocabulary : Vocabulary) (text : String) :
    (ofText vocabulary text).Gives (loaded vocabulary text)
      (rejectionsFrom vocabulary 1 (Text.lines text)) :=
  ofLines_gives vocabulary (Text.lines text)

theorem runWith_ofText {around : Surroundings} (accepting : around.sink.Accepting)
    (vocabulary : Vocabulary) (text : String) (output : Output) :
    (ofText vocabulary text).runWith around output = (.ok (loaded vocabulary text),
      around.sink.deliverAll (rejectionsFrom vocabulary 1 (Text.lines text)) output) :=
  ofText_gives vocabulary text around accepting output

theorem exists_of_mem_loaded {vocabulary : Vocabulary} {text : String} {rule : Rule}
    (member : rule ∈ (loaded vocabulary text).rules) :
    ∃ line ∈ Text.lines text, ∃ number, Rule.read vocabulary line number = .ok (some rule) :=
  exists_of_mem_acceptedFrom (rules_loaded vocabulary text ▸ member)

end RuleSet

end MultisetSubstitution
