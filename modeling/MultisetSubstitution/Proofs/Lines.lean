import MultisetSubstitution.Proofs.Pieces

/-! The lines of a text: texts in which no line ends are the lines of what they are joined to, and a
line is skipped for what it holds when it is trimmed. A number sign takes in the first line of the
text after it, so the other lines are read. -/

set_option autoImplicit false

namespace MultisetSubstitution.Text

def Unbroken (text : String) : Prop := ∀ c ∈ text.toList, isLineBreak c = false

theorem unbroken_of_all {text : String} (whole : text.toList.all (!isLineBreak ·) = true) :
    Unbroken text := by
  simpa [Unbroken] using whole

theorem Unbroken.append {first rest : String} (before : Unbroken first) (after : Unbroken rest) :
    Unbroken (first ++ rest) := by
  intro c member
  rw [String.toList_append, List.mem_append] at member
  exact member.elim (before c) (after c)

theorem unbroken_name {name : String} (valid : isName name = true) : Unbroken name := by
  intro c member
  rw [Bool.eq_false_iff]
  intro ends
  have dark := (isName_iff.mp valid).2 c member
  rw [isBlank_of_isLineBreak ends] at dark
  exact nomatch dark

theorem unbroken_joined {names : List String} (valid : ∀ name ∈ names, isName name = true) :
    Unbroken (", ".intercalate names) := by
  induction names with
  | nil => simp [Unbroken]
  | cons name rest ih =>
    obtain ⟨here, later⟩ := List.forall_mem_cons.mp valid
    cases rest with
    | nil => simpa using unbroken_name here
    | cons next rest =>
      rw [String.intercalate_cons_cons]
      exact ((unbroken_name here).append (unbroken_of_all rfl)).append (ih later)

theorem lineChars_cons {c : Char} {rest : List Char}
    (single : ∀ others, c = '\r' → rest ≠ '\n' :: others) :
    lineChars (c :: rest) =
      if isLineBreak c then [] :: lineChars rest else extendFirst c (lineChars rest) :=
  lineChars.eq_3 c rest single

theorem extendFirst_eq (c : Char) (parts : List (List Char)) :
    extendFirst c parts = (c :: parts.headD []) :: parts.tail := by
  cases parts <;> rfl

theorem lineChars_mark {mark : List Char} (some : mark ≠ [])
    (unbroken : ∀ c ∈ mark, isLineBreak c = false) (rest : List Char) :
    lineChars (mark ++ rest) =
      (mark ++ (lineChars rest).headD []) :: (lineChars rest).tail := by
  induction mark with
  | nil => exact absurd rfl some
  | cons c mark ih =>
    obtain ⟨here, later⟩ := List.forall_mem_cons.mp unbroken
    have extended : lineChars (c :: (mark ++ rest)) = extendFirst c (lineChars (mark ++ rest)) := by
      rw [lineChars_cons, here]
      · rfl
      · rintro others rfl
        exact absurd here (by decide)
    rw [List.cons_append, extended, extendFirst_eq]
    by_cases last : mark = []
    · subst last
      rfl
    · rw [ih last later]
      rfl

theorem lineChars_append {line : List Char} (unbroken : ∀ c ∈ line, isLineBreak c = false)
    (rest : List Char) : lineChars (line ++ '\n' :: rest) = line :: lineChars rest := by
  by_cases empty : line = []
  · subst empty
    rfl
  · have feed : lineChars ('\n' :: rest) = [] :: lineChars rest := rfl
    rw [lineChars_mark empty unbroken, feed, List.headD_cons, List.append_nil, List.tail_cons]

theorem lineChars_of_unbroken {line : List Char} (nonempty : line ≠ [])
    (unbroken : ∀ c ∈ line, isLineBreak c = false) : lineChars line = [line] := by
  have alone := lineChars_mark nonempty unbroken []
  rwa [List.append_nil, lineChars, List.headD_nil, List.append_nil, List.tail_nil] at alone

/-- The lines of texts that are joined are these texts, if no line ends within one of them. -/
theorem lines_joined {texts : List String} (nonempty : ∀ text ∈ texts, text ≠ "")
    (unbroken : ∀ text ∈ texts, Unbroken text) : lines ("\n".intercalate texts) = texts := by
  induction texts with
  | nil => rfl
  | cons text rest ih =>
    obtain ⟨here, later⟩ := List.forall_mem_cons.mp nonempty
    obtain ⟨whole, others⟩ := List.forall_mem_cons.mp unbroken
    cases rest with
    | nil =>
      have some : text.toList ≠ [] := fun none => here (String.toList_eq_nil_iff.mp none)
      rw [String.intercalate_singleton, lines, lineChars_of_unbroken some whole,
        List.map_singleton, String.ofList_toList]
    | cons next rest =>
      have feed : "\n".toList = ['\n'] := rfl
      rw [String.intercalate_cons_cons, lines, String.toList_append, String.toList_append, feed,
        List.append_assoc, List.singleton_append, lineChars_append whole, List.map_cons,
        String.ofList_toList, ← lines, ih later others]

theorem extendFirst_append (c : Char) {parts : List (List Char)} (some : parts ≠ [])
    (rest : List (List Char)) : extendFirst c (parts ++ rest) = extendFirst c parts ++ rest := by
  cases parts with
  | nil => exact absurd rfl some
  | cons first others => rfl

theorem lineChars_ne_nil {cs : List Char} (some : cs ≠ []) : lineChars cs ≠ [] := by
  fun_cases lineChars cs with
  | case1 => exact absurd rfl some
  | case2 => exact List.cons_ne_nil _ _
  | case3 => exact List.cons_ne_nil _ _
  | case4 c rest =>
    rw [extendFirst_eq]
    exact List.cons_ne_nil _ _

/-- A line feed parts a text in two. It ends a line of its own if what is before it has ended. -/
theorem lineChars_append_feed (cs : List Char) :
    ∃ blank : List (List Char), (∀ line ∈ blank, line = []) ∧
      ∀ rest, lineChars (cs ++ '\n' :: rest) = lineChars cs ++ blank ++ lineChars rest := by
  fun_induction lineChars cs with
  | case1 => exact ⟨[[]], by simp, fun _ => rfl⟩
  | case2 others ih =>
    obtain ⟨blank, empty, joined⟩ := ih
    exact ⟨blank, empty, fun rest => congrArg ([] :: ·) (joined rest)⟩
  | case3 c others noFeed ends ih =>
    obtain ⟨blank, empty, joined⟩ := ih
    -- A carriage return at the end and the line feed end the same line.
    by_cases fused : c = '\r' ∧ others = []
    · obtain ⟨rfl, rfl⟩ := fused
      exact ⟨[], by simp, fun _ => rfl⟩
    · have single : ∀ rest more, c = '\r' → others ++ '\n' :: rest ≠ '\n' :: more := by
        intro rest more returns same
        cases others with
        | nil => exact fused ⟨returns, rfl⟩
        | cons next others =>
          obtain ⟨rfl, -⟩ := List.cons.inj same
          exact noFeed others returns rfl
      refine ⟨blank, empty, fun rest => ?_⟩
      rw [List.cons_append, lineChars_cons (single rest), if_pos ends, joined]
      rfl
  | case4 c others noFeed goesOn ih =>
    obtain ⟨blank, empty, joined⟩ := ih
    have single : ∀ rest more, c = '\r' → others ++ '\n' :: rest ≠ '\n' :: more := by
      rintro rest more rfl
      exact absurd (show isLineBreak '\r' = true by decide) goesOn
    by_cases last : others = []
    · subst last
      refine ⟨[], by simp, fun rest => ?_⟩
      rw [List.cons_append, lineChars_cons (single rest), if_neg goesOn]
      rfl
    · refine ⟨blank, empty, fun rest => ?_⟩
      rw [List.cons_append, lineChars_cons (single rest), if_neg goesOn, joined,
        List.append_assoc, List.append_assoc, extendFirst_append c (lineChars_ne_nil last)]

theorem length_le_of_mem_lineChars {cs line : List Char} (member : line ∈ lineChars cs) :
    line.length ≤ cs.length := by
  fun_induction lineChars cs generalizing line with
  | case1 => exact nomatch member
  | case2 rest ih =>
    rcases List.mem_cons.mp member with rfl | later
    · exact Nat.zero_le _
    · have shorter := ih later
      simp only [List.length_cons]
      omega
  | case3 c rest noFeed ends ih =>
    rcases List.mem_cons.mp member with rfl | later
    · exact Nat.zero_le _
    · exact Nat.le_succ_of_le (ih later)
  | case4 c rest noFeed goesOn ih =>
    cases others : lineChars rest with
    | nil =>
      rw [others] at member
      obtain rfl := List.mem_singleton.mp member
      exact Nat.succ_le_succ (Nat.zero_le _)
    | cons first more =>
      rw [others] at member ih
      rcases List.mem_cons.mp member with rfl | later
      · exact Nat.succ_le_succ (ih List.mem_cons_self)
      · exact Nat.le_succ_of_le (ih (List.mem_cons_of_mem first later))

theorem length_le_of_mem_lines {text line : String} (member : line ∈ lines text) :
    line.length ≤ text.length := by
  obtain ⟨cs, inChars, rfl⟩ := List.mem_map.mp member
  have shorter := length_le_of_mem_lineChars inChars
  rwa [String.length_toList, ← String.toList_ofList (l := cs), String.length_toList] at shorter

theorem mem_streamLineChars {cs line : List Char} (member : line ∈ streamLineChars cs) :
    ∃ body, '\n' ∉ body ∧ (line = body ∨ line = body ++ ['\n']) := by
  fun_induction streamLineChars cs generalizing line with
  | case1 => exact nomatch member
  | case2 rest ih =>
    rcases List.mem_cons.mp member with rfl | later
    · exact ⟨[], by simp, .inr rfl⟩
    · exact ih later
  | case3 c rest goesOn ih =>
    have feedless : ∀ body, '\n' ∉ body → '\n' ∉ c :: body := by
      intro body clean inBody
      exact (List.mem_cons.mp inBody).elim (fun same => goesOn same.symm) clean
    cases others : streamLineChars rest with
    | nil =>
      rw [others] at member
      obtain rfl := List.mem_singleton.mp member
      exact ⟨[c], feedless [] (by simp), .inl rfl⟩
    | cons first more =>
      rw [others] at member ih
      rcases List.mem_cons.mp member with rfl | later
      · obtain ⟨body, clean, same | same⟩ := ih List.mem_cons_self
        · exact ⟨c :: body, feedless body clean, .inl (congrArg (c :: ·) same)⟩
        · exact ⟨c :: body, feedless body clean, .inr (congrArg (c :: ·) same)⟩
      · exact ih (List.mem_cons_of_mem first later)

theorem dark_of_trimStart {cs rest : List Char} {c : Char} (start : trimStart cs = c :: rest) :
    isBlank c = false := by
  have first := List.head?_dropWhile_not isBlank cs
  rw [trimStart] at start
  simpa [start] using first

theorem isSkipped_trim (line : String) : isSkipped (trim line) = isSkipped line := by
  rw [isSkipped, isSkipped, trim, String.toList_ofList, trimChars]
  cases start : trimStart line.toList with
  | nil => rfl
  | cons c rest =>
    have dark := dark_of_trimStart start
    have kept : trimEnd (c :: rest) = c :: trimEnd rest := trimEnd_append_cons dark [] rest
    rw [kept, trimStart_cons dark]

theorem isSkipped_iff {line : String} :
    isSkipped line = true ↔ trim line = "" ∨ beginsWith (trim line) "#" = true := by
  have mark : "#".toList = ['#'] := rfl
  rw [isSkipped, beginsWith, mark, trim, String.toList_ofList, trimChars]
  cases start : trimStart line.toList with
  | nil => simp [trimEnd]
  | cons c rest =>
    have kept : trimEnd (c :: rest) = c :: trimEnd rest :=
      trimEnd_append_cons (dark_of_trimStart start) [] rest
    rw [kept]
    simp only [List.isPrefixOf, String.ofList_eq_empty_iff, List.cons_ne_nil, false_or, beq_iff_eq,
      Bool.and_true]
    exact eq_comm

theorem isSkipped_append {name : String} (valid : isName name = true) (rest : String) :
    isSkipped (name ++ rest) = isSkipped name := by
  obtain ⟨nonempty, clean⟩ := isName_iff.mp valid
  cases chars : name.toList with
  | nil => exact absurd (String.toList_eq_nil_iff.mp chars) nonempty
  | cons c others =>
    rw [chars] at clean
    have dark := clean c List.mem_cons_self
    rw [isSkipped, isSkipped, String.toList_append, chars, List.cons_append, trimStart_cons dark,
      trimStart_cons dark]

theorem lines_append_feed (text : String) :
    ∃ blank : List String, (∀ line ∈ blank, isSkipped line = true) ∧
      ∀ rest, lines (text ++ "\n" ++ rest) = lines text ++ blank ++ lines rest := by
  obtain ⟨blank, empty, joined⟩ := lineChars_append_feed text.toList
  refine ⟨blank.map .ofList, fun line member => ?_, fun rest => ?_⟩
  · obtain ⟨cs, inBlank, rfl⟩ := List.mem_map.mp member
    rw [empty cs inBlank]
    rfl
  · have feed : "\n".toList = ['\n'] := rfl
    rw [lines, String.toList_append, String.toList_append, feed, List.append_assoc,
      List.singleton_append, joined, List.map_append, List.map_append, lines, lines]

def laterLines (text : String) : List String := (lines text).tail

/-- A text that is skipped whole when its first line is. -/
def Inert (text : String) : Prop := ∀ line ∈ laterLines text, isSkipped line = true

theorem Unbroken.inert {text : String} (unbroken : Unbroken text) : Inert text := by
  by_cases empty : text.toList = []
  · simp [Inert, laterLines, lines, lineChars, empty]
  · simp [Inert, laterLines, lines, lineChars_of_unbroken empty unbroken]

theorem lines_comment {pad : String} (unbroken : Unbroken pad) (text : String) :
    ∃ comment, isSkipped comment = true ∧
      lines ("#" ++ pad ++ text) = comment :: laterLines text := by
  have whole : Unbroken ("#" ++ pad) := Unbroken.append (unbroken_of_all rfl) unbroken
  refine ⟨"#" ++ pad ++ .ofList ((lineChars text.toList).headD []), ?_, ?_⟩
  · rw [String.append_assoc, isSkipped_append (by decide)]
    rfl
  · rw [lines, String.toList_append, lineChars_mark (by simp) whole, List.map_cons,
      String.ofList_append, String.ofList_toList, laterLines, lines, List.map_tail]

end MultisetSubstitution.Text
