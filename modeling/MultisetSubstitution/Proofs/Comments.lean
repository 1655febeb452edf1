import MultisetSubstitution.Proofs.Accounting
import MultisetSubstitution.Proofs.Reloading

/-! Lines that are put in between others. They change nothing exactly if all of them are skipped,
which is to be asked of the lines of a comment or of a heading after its first. -/

set_option autoImplicit false

namespace MultisetSubstitution

namespace Text

/-- Lines in which others stand, with nothing to read above and below them. -/
def Padded (lines core : List String) : Prop :=
  ∃ above below, lines = above ++ core ++ below ∧
    (∀ line ∈ above, isSkipped line = true) ∧ ∀ line ∈ below, isSkipped line = true

theorem Padded.skipped_iff {lines core : List String} (padded : Padded lines core) :
    (∀ line ∈ lines, isSkipped line = true) ↔ ∀ line ∈ core, isSkipped line = true := by
  obtain ⟨above, below, rfl, aboveSkipped, belowSkipped⟩ := padded
  rw [List.forall_mem_append, List.forall_mem_append]
  exact ⟨fun all => all.1.2, fun all => ⟨⟨aboveSkipped, all⟩, belowSkipped⟩⟩

theorem Padded.append_blank {lines core blank : List String} (padded : Padded lines core)
    (skipped : ∀ line ∈ blank, isSkipped line = true) : Padded (lines ++ blank) core := by
  obtain ⟨above, below, rfl, aboveSkipped, belowSkipped⟩ := padded
  exact ⟨above, below ++ blank, by rw [List.append_assoc],
    aboveSkipped, List.forall_mem_append.mpr ⟨belowSkipped, skipped⟩⟩

theorem lines_comment_feed {pad : String} (unbroken : Unbroken pad) (body : String) :
    ∃ inner, Padded inner (laterLines body) ∧
      ∀ rest, lines ("#" ++ pad ++ body ++ "\n" ++ rest) = inner ++ lines rest := by
  obtain ⟨comment, skipped, begun⟩ := lines_comment unbroken body
  obtain ⟨blank, blankSkipped, ended⟩ := lines_append_feed ("#" ++ pad ++ body)
  refine ⟨comment :: laterLines body ++ blank,
    ⟨[comment], blank, rfl, by simpa using skipped, blankSkipped⟩, fun rest => ?_⟩
  rw [ended, begun]

theorem lines_commented (before after body : String) :
    ∃ first inner last, Padded inner (laterLines body) ∧
      lines (before ++ "\n" ++ after) = first ++ last ∧
      lines (before ++ "\n#" ++ body ++ "\n" ++ after) = first ++ inner ++ last := by
  have empty : Unbroken "" := unbroken_of_all rfl
  obtain ⟨blank, -, started⟩ := lines_append_feed before
  obtain ⟨inner, padded, commented⟩ := lines_comment_feed empty body
  refine ⟨lines before ++ blank, inner, lines after, padded, started after, ?_⟩
  have text : before ++ "\n#" ++ body ++ "\n" ++ after =
      before ++ "\n" ++ ("#" ++ "" ++ body ++ "\n" ++ after) := by
    rw [← String.toList_inj]
    simp
  rw [text, started, commented, List.append_assoc _ inner]

end Text

namespace Vocabulary

variable {vocabulary : Vocabulary} {lines : List String}

theorem foldl_register_of_skipped (skipped : ∀ line ∈ lines, Text.isSkipped line = true) :
    lines.foldl register vocabulary = vocabulary := by
  induction lines with
  | nil => rfl
  | cons line rest ih =>
    obtain ⟨here, later⟩ := List.forall_mem_cons.mp skipped
    rw [List.foldl_cons, register, if_pos here, ih later]

theorem refusals_of_skipped (skipped : ∀ line ∈ lines, Text.isSkipped line = true) :
    vocabulary.refusals lines = [] := by
  have account := vocabulary.size_foldl_register lines
  rw [foldl_register_of_skipped skipped, List.countP_eq_length.mpr skipped] at account
  exact List.length_eq_zero_iff.mp (by omega)

/-- Lines in between others make no difference exactly if they are skipped. -/
theorem inserted_iff (vocabulary : Vocabulary) (first inner last : List String) :
    ((first ++ inner ++ last).foldl register vocabulary).names =
          ((first ++ last).foldl register vocabulary).names ∧
        vocabulary.refusals (first ++ inner ++ last) = vocabulary.refusals (first ++ last) ↔
      ∀ line ∈ inner, Text.isSkipped line = true := by
  constructor
  · rintro ⟨names, reports⟩
    have account := vocabulary.size_foldl_register (first ++ inner ++ last)
    have other := vocabulary.size_foldl_register (first ++ last)
    rw [reports, size, names] at account
    rw [size] at other
    simp only [List.countP_append, List.length_append] at account other
    exact List.countP_eq_length.mp (by omega)
  · intro skipped
    rw [List.foldl_append, List.foldl_append, List.foldl_append, refusals_append, refusals_append,
      refusals_append, List.foldl_append, foldl_register_of_skipped skipped,
      refusals_of_skipped skipped, List.append_nil]
    exact ⟨rfl, rfl⟩

end Vocabulary

namespace RuleSet

theorem sides_acceptedFrom (vocabulary : Vocabulary) (number other : Int) (lines : List String) :
    (acceptedFrom vocabulary number lines).map Rule.sides =
      (acceptedFrom vocabulary other lines).map Rule.sides := by
  have number_eq : number = other + (number - other) := by omega
  rw [number_eq, acceptedFrom_lowered, List.map_map]
  rfl

theorem length_rejectionsFrom (vocabulary : Vocabulary) (number other : Int)
    (lines : List String) :
    (rejectionsFrom vocabulary number lines).length =
      (rejectionsFrom vocabulary other lines).length := by
  have here := length_acceptedFrom vocabulary number lines
  have there := length_acceptedFrom vocabulary other lines
  have same := congrArg List.length (sides_acceptedFrom vocabulary number other lines)
  rw [List.length_map, List.length_map] at same
  omega

theorem sides_append (vocabulary : Vocabulary) (number : Int) (first second : List String) :
    (acceptedFrom vocabulary number (first ++ second)).map Rule.sides =
      (acceptedFrom vocabulary number first).map Rule.sides ++
        (acceptedFrom vocabulary number second).map Rule.sides := by
  rw [acceptedFrom_append, List.map_append, sides_acceptedFrom vocabulary _ number second]

theorem length_rejectionsFrom_append (vocabulary : Vocabulary) (number : Int)
    (first second : List String) :
    (rejectionsFrom vocabulary number (first ++ second)).length =
      (rejectionsFrom vocabulary number first).length +
        (rejectionsFrom vocabulary number second).length := by
  rw [rejectionsFrom_append, List.length_append, length_rejectionsFrom vocabulary _ number second]

theorem loads_nothing_iff (vocabulary : Vocabulary) (number : Int) (lines : List String) :
    (acceptedFrom vocabulary number lines).map Rule.sides = [] ∧
        (rejectionsFrom vocabulary number lines).length = 0 ↔
      ∀ line ∈ lines, Text.isSkipped line = true := by
  have account := length_acceptedFrom vocabulary number lines
  rw [← List.countP_eq_length, List.map_eq_nil_iff, ← List.length_eq_zero_iff]
  omega

/-- Lines in between others make no difference exactly if they are skipped. -/
theorem inserted_iff (vocabulary : Vocabulary) (number : Int) (first inner last : List String) :
    (acceptedFrom vocabulary number (first ++ inner ++ last)).map Rule.sides =
          (acceptedFrom vocabulary number (first ++ last)).map Rule.sides ∧
        (rejectionsFrom vocabulary number (first ++ inner ++ last)).length =
          (rejectionsFrom vocabulary number (first ++ last)).length ↔
      ∀ line ∈ inner, Text.isSkipped line = true := by
  rw [← loads_nothing_iff vocabulary number]
  simp only [sides_append, length_rejectionsFrom_append, List.append_cancel_right_eq,
    List.append_right_eq_self, Nat.add_right_cancel_iff, Nat.add_eq_left]

theorem loads_padded {lines core : List String} (padded : Text.Padded lines core)
    (vocabulary : Vocabulary) (number : Int) :
    (acceptedFrom vocabulary number lines).map Rule.sides =
        (acceptedFrom vocabulary number core).map Rule.sides ∧
      (rejectionsFrom vocabulary number lines).length =
        (rejectionsFrom vocabulary number core).length := by
  obtain ⟨above, below, rfl, aboveSkipped, belowSkipped⟩ := padded
  obtain ⟨noRule, noReport⟩ := (loads_nothing_iff vocabulary number above).mpr aboveSkipped
  obtain ⟨noOther, noFurther⟩ := (loads_nothing_iff vocabulary number below).mpr belowSkipped
  simp [sides_append, length_rejectionsFrom_append, noRule, noReport, noOther, noFurther]

theorem source_titled (set : RuleSet) {heading : String} (titled : heading ≠ "") :
    set.source (some heading) =
      "\n".intercalate (("# " ++ heading) :: "" :: set.rules.map (Rule.source set.vocabulary)) := by
  rw [source]
  · rfl
  · exact titled

theorem lines_source_some (set : RuleSet) (heading : String) :
    ∃ inner, Text.Padded inner (Text.laterLines heading) ∧
      Text.lines (set.source (some heading)) = inner ++ Text.lines (set.source none) := by
  by_cases untitled : heading = ""
  · subst untitled
    exact ⟨[], ⟨[], [], rfl, by simp, by simp⟩, rfl⟩
  · have space : Text.Unbroken " " := Text.unbroken_of_all rfl
    obtain ⟨inner, padded, commented⟩ := Text.lines_comment_feed space heading
    obtain ⟨blank, blankSkipped, ended⟩ := Text.lines_append_feed ""
    have mark : "# " = "#" ++ " " := rfl
    have plain : set.source none =
        "\n".intercalate (set.rules.map (Rule.source set.vocabulary)) := rfl
    rw [source_titled set untitled, plain, mark, String.intercalate_cons_cons]
    cases set.rules.map (Rule.source set.vocabulary) with
    | nil =>
      refine ⟨inner, padded, ?_⟩
      rw [String.intercalate_singleton, commented]
      rfl
    | cons text rest =>
      refine ⟨inner ++ blank, padded.append_blank blankSkipped, ?_⟩
      have empty : Text.lines "" = [] := rfl
      rw [String.intercalate_cons_cons, commented, ended, empty, List.nil_append,
        List.append_assoc]

/-- What is loaded from a rule set with a heading: what the later lines of the heading hold, and
then what is loaded without it. -/
theorem loaded_headed (set : RuleSet) (heading : String) :
    (loaded set.vocabulary (set.source (some heading))).rules.map Rule.sides =
        (acceptedFrom set.vocabulary 1 (Text.laterLines heading)).map Rule.sides ++
          (loaded set.vocabulary (set.source none)).rules.map Rule.sides ∧
      (rejectionsFrom set.vocabulary 1 (Text.lines (set.source (some heading)))).length =
        (rejectionsFrom set.vocabulary 1 (Text.laterLines heading)).length +
          (rejectionsFrom set.vocabulary 1 (Text.lines (set.source none))).length := by
  obtain ⟨inner, padded, headed⟩ := lines_source_some set heading
  obtain ⟨sides, faults⟩ := loads_padded padded set.vocabulary 1
  rw [rules_loaded, rules_loaded, headed, sides_append, sides, length_rejectionsFrom_append, faults]
  exact ⟨rfl, rfl⟩

theorem reports_nothing_of_same {set : RuleSet}
    (same : (loaded set.vocabulary (set.source none)).rules.map Rule.sides =
      set.rules.map Rule.sides) :
    (rejectionsFrom set.vocabulary 1 (Text.lines (set.source none))).length = 0 := by
  have account := length_acceptedFrom set.vocabulary 1 (Text.lines (set.source none))
  have read := congrArg List.length same
  have written := congrArg List.length set.lines_source
  rw [rules_loaded, List.length_map, List.length_map] at read
  rw [List.length_map] at written
  omega

/-- A heading is read from its second line on. What is loaded from a rule set that is written with a
heading is what is in the later lines of the heading and then what is loaded without one. So it is
the same rules, with nothing to report, exactly if all of these lines are skipped, as they are if
there are none. -/
theorem heading_inert_iff (set : RuleSet) (heading : String) :
    (∀ memory, set.checkedSource (some heading) memory = .ok (set.source (some heading)) ↔
      set.checkedSource none memory = .ok (set.source none)) ∧
    ∃ plain plainReports own ownReports headed reports,
      (ofText set.vocabulary (set.source none)).Gives plain plainReports ∧
      (ofLines set.vocabulary (Text.laterLines heading)).Gives own ownReports ∧
      (ofText set.vocabulary (set.source (some heading))).Gives headed reports ∧
      headed.rules.map Rule.sides = own.rules.map Rule.sides ++ plain.rules.map Rule.sides ∧
      reports.length = ownReports.length + plainReports.length ∧
      (plain.sameRules set = true →
        (headed.sameRules set = true ∧ reports = [] ↔ Text.Inert heading)) ∧
      (Text.Unbroken heading → Text.Inert heading) := by
  obtain ⟨sides, faults⟩ := loaded_headed set heading
  refine ⟨fun memory => ?_, _, _, _, _, _, _, ofText_gives set.vocabulary _,
    ofLines_gives set.vocabulary _, ofText_gives set.vocabulary _, ?_, faults, fun reloads => ?_,
    Text.Unbroken.inert⟩
  · simp only [checkedSource_eq_ok, true_and]
  · rw [rules_extend_empty]
    exact sides
  · have same := sameRules_iff.mp reloads
    have silent : rejectionsFrom set.vocabulary 1 (Text.lines (set.source (some heading))) = [] ↔
        (rejectionsFrom set.vocabulary 1 (Text.laterLines heading)).length = 0 := by
      rw [← List.length_eq_zero_iff, faults, reports_nothing_of_same same, Nat.add_zero]
    rw [sameRules_iff, sides, same, List.append_left_eq_self, silent]
    exact loads_nothing_iff set.vocabulary 1 (Text.laterLines heading)

def burning : RuleSet where
  vocabulary := ⟨["hydrogen", "oxygen", "water"], by decide, by decide +kernel⟩
  rules := [⟨[2, 1, 0], [0, 0, 2], none, rfl, by decide, by decide, rfl, by decide⟩]
  fits := by decide

/-- The second line of a heading is read as a rule. -/
theorem burning_heading_read : ∃ plain headed,
    burning.checkedSource (some "alchemy\nwater -> oxygen") (fun made => made.all (· ≤ 2)) =
      .ok (burning.source (some "alchemy\nwater -> oxygen")) ∧
    (ofText burning.vocabulary (burning.source none)).Gives plain [] ∧
    plain.sameRules burning = true ∧
    (ofText burning.vocabulary (burning.source (some "alchemy\nwater -> oxygen"))).Gives headed [] ∧
    headed.sameRules burning = false := by
  have silent : rejectionsFrom burning.vocabulary 1 (Text.lines (burning.source none)) = [] := by
    decide +kernel
  have headedSilent : rejectionsFrom burning.vocabulary 1
      (Text.lines (burning.source (some "alchemy\nwater -> oxygen"))) = [] := by
    decide +kernel
  exact ⟨_, _, by decide +kernel, silent ▸ ofText_gives burning.vocabulary _, by decide +kernel,
    headedSilent ▸ ofText_gives burning.vocabulary _, by decide +kernel⟩

/-- A comment is read from its second line on. Among the rules and the names of a text a comment
makes no difference exactly if all of these lines are skipped, as they are if there are none. -/
theorem comment_inert_iff (vocabulary : Vocabulary) (before after body : String) :
    ∃ plain plainReports commented reports names nameReports others otherReports,
      (ofText vocabulary (before ++ "\n" ++ after)).Gives plain plainReports ∧
      (ofText vocabulary (before ++ "\n#" ++ body ++ "\n" ++ after)).Gives commented reports ∧
      (Vocabulary.ofText (before ++ "\n" ++ after)).Gives names nameReports ∧
      (Vocabulary.ofText (before ++ "\n#" ++ body ++ "\n" ++ after)).Gives others otherReports ∧
      (∀ record ∈ plainReports ++ reports ++ nameReports ++ otherReports, record.level = .warn) ∧
      (commented.rules.map Rule.sides = plain.rules.map Rule.sides ∧
          reports.length = plainReports.length ↔ Text.Inert body) ∧
      (others.names = names.names ∧ otherReports = nameReports ↔ Text.Inert body) ∧
      (Text.Unbroken body → Text.Inert body) := by
  obtain ⟨first, inner, last, padded, plain, commented⟩ := Text.lines_commented before after body
  refine ⟨_, _, _, _, _, _, _, _, ofText_gives vocabulary _, ofText_gives vocabulary _,
    Vocabulary.ofText_gives _, Vocabulary.ofText_gives _, ?_, ?_, ?_, Text.Unbroken.inert⟩
  · simp only [List.forall_mem_append]
    exact ⟨⟨⟨fun _ => rejectionsFrom_warn, fun _ => rejectionsFrom_warn⟩,
      fun _ => Vocabulary.refusals_warn⟩, fun _ => Vocabulary.refusals_warn⟩
  · rw [rules_loaded, rules_loaded, plain, commented, Text.Inert, ← padded.skipped_iff]
    exact inserted_iff vocabulary 1 first inner last
  · rw [Vocabulary.loaded, Vocabulary.loaded, plain, commented, Text.Inert, ← padded.skipped_iff]
    exact Vocabulary.inserted_iff .empty first inner last

/-- A form feed ends the first line of a comment, and what is after it is read as a rule. -/
theorem burning_comment_read : ∃ body plain commented,
    '\n' ∉ body.toList ∧ '\r' ∉ body.toList ∧
    (ofText burning.vocabulary ("water -> oxygen" ++ "\n" ++ "")).Gives plain [] ∧
    (ofText burning.vocabulary ("water -> oxygen" ++ "\n#" ++ body ++ "\n" ++ "")).Gives
      commented [] ∧
    commented.rules.map Rule.sides ≠ plain.rules.map Rule.sides := by
  let body := " old rules\x0cwater -> hydrogen"
  have silent : rejectionsFrom burning.vocabulary 1
      (Text.lines ("water -> oxygen" ++ "\n" ++ "")) = [] := by
    decide +kernel
  have commentedSilent : rejectionsFrom burning.vocabulary 1
      (Text.lines ("water -> oxygen" ++ "\n#" ++ body ++ "\n" ++ "")) = [] := by
    decide +kernel
  exact ⟨body, _, _, by decide, by decide, silent ▸ ofText_gives burning.vocabulary _,
    commentedSilent ▸ ofText_gives burning.vocabulary _, by decide +kernel⟩

end RuleSet

end MultisetSubstitution
