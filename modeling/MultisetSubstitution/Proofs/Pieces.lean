import Mathlib.Data.List.Infix
import MultisetSubstitution.Vocabulary

/-! The pieces of a line: what trimming leaves, the tokens between commas and the sides of an arrow.
Where names are joined by commas and sides by an arrow, the pieces are these again. -/

set_option autoImplicit false

namespace MultisetSubstitution

namespace Text

theorem trimStart_append {pad : List Char} (blank : ∀ c ∈ pad, isBlank c = true)
    (cs : List Char) : trimStart (pad ++ cs) = trimStart cs :=
  List.dropWhile_append_of_pos blank

theorem trimEnd_append {pad : List Char} (blank : ∀ c ∈ pad, isBlank c = true)
    (cs : List Char) : trimEnd (cs ++ pad) = trimEnd cs := by
  have reversed : (cs ++ pad).reverse.dropWhile isBlank = cs.reverse.dropWhile isBlank := by
    rw [List.reverse_append]
    exact trimStart_append (fun c member => blank c (List.mem_reverse.mp member)) cs.reverse
  rw [trimEnd, reversed, trimEnd]

theorem trimChars_append {pad : List Char} (blank : ∀ c ∈ pad, isBlank c = true)
    (cs : List Char) : trimChars (cs ++ pad) = trimChars cs := by
  have nothing : trimStart pad = [] := by
    have all := trimStart_append blank []
    rwa [List.append_nil] at all
  rw [trimChars, trimStart, List.dropWhile_append, ← trimStart, ← trimStart, nothing, trimChars]
  cases trimStart cs with
  | nil => rfl
  | cons c rest => exact trimEnd_append blank (c :: rest)

theorem trimStart_cons {c : Char} (dark : isBlank c = false) (rest : List Char) :
    trimStart (c :: rest) = c :: rest :=
  List.dropWhile_cons_of_neg (by simp [dark])

theorem trimEnd_append_cons {c : Char} (dark : isBlank c = false) (first rest : List Char) :
    trimEnd (first ++ c :: rest) = first ++ c :: trimEnd rest := by
  have stops : (c :: first.reverse).dropWhile isBlank = c :: first.reverse :=
    trimStart_cons dark first.reverse
  rw [trimEnd, List.reverse_append, List.reverse_cons, List.append_assoc, List.singleton_append,
    List.dropWhile_append, stops, trimEnd]
  cases rest.reverse.dropWhile isBlank <;> simp

theorem trimEnd_isPrefix (cs : List Char) : trimEnd cs <+: cs := by
  rw [← List.reverse_suffix, trimEnd, List.reverse_reverse]
  exact List.dropWhile_suffix _

theorem trimChars_isInfix (cs : List Char) : trimChars cs <:+: cs :=
  (trimEnd_isPrefix _).isInfix.trans (List.dropWhile_suffix _).isInfix

theorem trimStart_of_clean {cs : List Char} (clean : ∀ c ∈ cs, isBlank c = false) :
    trimStart cs = cs := by
  cases cs with
  | nil => rfl
  | cons c rest => exact trimStart_cons (clean c List.mem_cons_self) rest

theorem trimEnd_of_clean {cs : List Char} (clean : ∀ c ∈ cs, isBlank c = false) :
    trimEnd cs = cs := by
  have reversed : cs.reverse.dropWhile isBlank = cs.reverse :=
    trimStart_of_clean fun c member => clean c (List.mem_reverse.mp member)
  rw [trimEnd, reversed, List.reverse_reverse]

def Blank (text : String) : Prop := ∀ c ∈ text.toList, isBlank c = true

theorem blank_empty : Blank "" := by simp [Blank]

theorem blank_space : Blank " " := by
  intro c member
  obtain rfl : c = ' ' := by simpa using member
  decide

theorem trim_blank {text : String} (blank : Blank text) : trim text = "" := by
  have nothing : trimStart text.toList = [] := by
    rw [← List.append_nil text.toList, trimStart_append blank]
    rfl
  rw [trim, trimChars, nothing]
  rfl

end Text

theorem isName_iff {text : String} :
    isName text = true ↔ text ≠ "" ∧ ∀ c ∈ text.toList, Text.isBlank c = false := by
  simp [isName, Text.hasBlank]

theorem trim_padded {name before after : String} (valid : isName name = true)
    (blankBefore : Text.Blank before) (blankAfter : Text.Blank after) :
    Text.trim (before ++ name ++ after) = name := by
  obtain ⟨nonempty, clean⟩ := isName_iff.mp valid
  rw [Text.trim, Text.trimChars, String.toList_append, String.toList_append, List.append_assoc,
    Text.trimStart_append blankBefore]
  cases chars : name.toList with
  | nil => exact absurd (String.toList_eq_nil_iff.mp chars) nonempty
  | cons c rest =>
    rw [chars] at clean
    rw [List.cons_append, Text.trimStart_cons (clean c List.mem_cons_self), ← List.cons_append,
      Text.trimEnd_append blankAfter, Text.trimEnd_of_clean clean, ← chars, String.ofList_toList]

theorem trim_name {name : String} (valid : isName name = true) : Text.trim name = name := by
  simpa using trim_padded valid Text.blank_empty Text.blank_empty

namespace Text

def tokens (text : String) : List String := ((commaPieces text).map trim).filter (· ≠ "")

theorem commaPieces_append (first rest : String) :
    commaPieces (first ++ "," ++ rest) = commaPieces first ++ commaPieces rest := by
  have comma : ",".toList = [','] := rfl
  simp [commaPieces, comma, List.splitOn_append_cons_self]

theorem tokens_append (first rest : String) :
    tokens (first ++ "," ++ rest) = tokens first ++ tokens rest := by
  rw [tokens, commaPieces_append, List.map_append, List.filter_append, tokens, tokens]

theorem commaPieces_of_plain {text : String} (plain : ',' ∉ text.toList) :
    commaPieces text = [text] := by
  rw [commaPieces, List.splitOn_eq_singleton plain, List.map_singleton, String.ofList_toList]

theorem comma_notMem_blank {text : String} (blank : Blank text) : ',' ∉ text.toList := by
  intro member
  exact absurd (blank ',' member) (by decide)

theorem tokens_blank {text : String} (blank : Blank text) : tokens text = [] := by
  rw [tokens, commaPieces_of_plain (comma_notMem_blank blank), List.map_singleton, trim_blank blank]
  rfl

theorem tokens_padded {name before after : String} (valid : isName name = true)
    (plain : ',' ∉ name.toList) (blankBefore : Blank before) (blankAfter : Blank after) :
    tokens (before ++ name ++ after) = [name] := by
  have whole : ',' ∉ (before ++ name ++ after).toList := by
    simp [plain, comma_notMem_blank blankBefore, comma_notMem_blank blankAfter]
  rw [tokens, commaPieces_of_plain whole, List.map_singleton,
    trim_padded valid blankBefore blankAfter]
  simp [(isName_iff.mp valid).1]

theorem tokens_joined {names : List String} {before after : String}
    (valid : ∀ name ∈ names, isName name = true) (plain : ∀ name ∈ names, ',' ∉ name.toList)
    (blankBefore : Blank before) (blankAfter : Blank after) :
    tokens (before ++ ", ".intercalate names ++ after) = names := by
  -- The first name has the given blanks before it, every other one the space of its separator.
  induction names generalizing before with
  | nil =>
    have blank : Blank (before ++ "" ++ after) := by
      intro c member
      rw [String.append_empty, String.toList_append, List.mem_append] at member
      exact member.elim (blankBefore c) (blankAfter c)
    exact tokens_blank blank
  | cons name rest ih =>
    obtain ⟨validName, validRest⟩ := List.forall_mem_cons.mp valid
    obtain ⟨plainName, plainRest⟩ := List.forall_mem_cons.mp plain
    cases rest with
    | nil =>
      rw [String.intercalate_singleton]
      exact tokens_padded validName plainName blankBefore blankAfter
    | cons next rest =>
      have apart : before ++ ", ".intercalate (name :: next :: rest) ++ after =
          (before ++ name ++ "") ++ "," ++ (" " ++ ", ".intercalate (next :: rest) ++ after) := by
        have separator : ", " = "," ++ " " := rfl
        rw [String.intercalate_cons_cons, String.append_empty, separator]
        simp only [String.append_assoc]
      rw [apart, tokens_append, tokens_padded validName plainName blankBefore blank_empty,
        ih validRest plainRest blank_space, List.singleton_append]

theorem not_mem_of_mem_splitOn {mark : Char} {cs piece : List Char}
    (member : piece ∈ cs.splitOn mark) : mark ∉ piece := by
  -- A character is put into the first piece only if it is not the mark.
  induction cs generalizing piece with
  | nil =>
    obtain rfl := List.mem_singleton.mp member
    exact List.not_mem_nil
  | cons c rest ih =>
    rw [List.splitOn_cons_eq_if_modifyHead] at member
    split at member
    · rcases List.mem_cons.mp member with rfl | later
      · exact List.not_mem_nil
      · exact ih later
    · rename_i other
      cases pieces : rest.splitOn mark with
      | nil => exact absurd pieces (List.splitOn_ne_nil mark rest)
      | cons first others =>
        rw [pieces, List.modifyHead_cons] at member
        rcases List.mem_cons.mp member with rfl | later
        · have here := ih (pieces ▸ List.mem_cons_self)
          simp only [List.mem_cons, not_or]
          exact ⟨fun same => other (by simp [same]), here⟩
        · exact ih (pieces ▸ List.mem_cons_of_mem first later)

theorem length_splitOn_le (mark : Char) (cs : List Char) :
    (cs.splitOn mark).length ≤ cs.length + 1 := by
  induction cs with
  | nil => exact Nat.le_refl 1
  | cons c rest ih =>
    rw [List.splitOn_cons_eq_if_modifyHead, List.length_cons]
    split
    · exact Nat.succ_le_succ ih
    · rw [List.length_modifyHead]
      exact Nat.le_succ_of_le ih

theorem length_tokens_le (text : String) : (tokens text).length ≤ text.length + 1 := by
  have pieces := length_splitOn_le ',' text.toList
  have kept := List.length_filter_le (· ≠ "") ((commaPieces text).map trim)
  rw [List.length_map, commaPieces, List.length_map] at kept
  rw [String.length_toList] at pieces
  exact kept.trans pieces

theorem infix_intercalate {mark piece : List Char} {pieces : List (List Char)}
    (member : piece ∈ pieces) : piece <:+: mark.intercalate pieces := by
  induction pieces with
  | nil => exact nomatch member
  | cons first rest ih =>
    rcases List.mem_cons.mp member with rfl | later
    · cases rest with
      | nil => simp
      | cons next rest =>
        rw [List.intercalate_cons_cons]
        exact List.infix_append_of_infix_left List.infix_append_left
    · rw [List.intercalate_cons_of_ne_nil (List.ne_nil_of_mem later)]
      exact List.infix_append_of_infix_right (ih later)

theorem of_mem_intercalate {mark : List Char} {pieces : List (List Char)} {c : Char}
    (member : c ∈ mark.intercalate pieces) : c ∈ mark ∨ ∃ piece ∈ pieces, c ∈ piece := by
  induction pieces with
  | nil => simp at member
  | cons first rest ih =>
    cases rest with
    | nil => exact .inr ⟨first, List.mem_singleton.mpr rfl, by simpa using member⟩
    | cons next rest =>
      rw [List.intercalate_cons_cons, List.mem_append, List.mem_append] at member
      rcases member with (here | between) | later
      · exact .inr ⟨first, List.mem_cons_self, here⟩
      · exact .inl between
      · exact (ih later).imp_right fun ⟨piece, inRest, inPiece⟩ =>
          ⟨piece, List.mem_cons_of_mem first inRest, inPiece⟩

theorem of_mem_tokens {text token : String} (member : token ∈ tokens text) :
    token.toList <:+: text.toList ∧ ',' ∉ token.toList := by
  obtain ⟨piece, inPieces, rfl⟩ := List.mem_map.mp (List.mem_filter.mp member).1
  obtain ⟨cs, inSplit, rfl⟩ := List.mem_map.mp inPieces
  have within : cs <:+: text.toList := by
    have parts : cs <:+: [','].intercalate (text.toList.splitOn ',') := infix_intercalate inSplit
    rwa [List.intercalate_splitOn] at parts
  simp only [trim, String.toList_ofList]
  refine ⟨(trimChars_isInfix cs).trans within, fun comma => ?_⟩
  exact not_mem_of_mem_splitOn inSplit ((trimChars_isInfix cs).subset comma)

def Arrowless (cs : List Char) : Prop := ¬ ['-', '>'] <:+: cs

theorem Arrowless.of_isInfix {cs part : List Char} (arrowless : Arrowless cs)
    (within : part <:+: cs) : Arrowless part :=
  fun arrow => arrowless (arrow.trans within)

theorem arrowless_nil : Arrowless [] := by simp [Arrowless]

theorem arrowless_cons {c : Char} {rest : List Char} :
    Arrowless (c :: rest) ↔ ¬ (c = '-' ∧ ['>'] <+: rest) ∧ Arrowless rest := by
  rw [Arrowless, List.infix_cons_iff, not_or, List.cons_prefix_cons, Arrowless, eq_comm]

/-- An arrow has no part on either side of another character. -/
theorem Arrowless.append_cons {first rest : List Char} {c : Char} (before : Arrowless first)
    (after : Arrowless rest) (noDash : c ≠ '-') (noHead : c ≠ '>') :
    Arrowless (first ++ c :: rest) := by
  induction first with
  | nil => exact arrowless_cons.mpr ⟨fun arrow => noDash arrow.1, after⟩
  | cons d first ih =>
    obtain ⟨here, later⟩ := arrowless_cons.mp before
    refine arrowless_cons.mpr ⟨fun ⟨dash, head⟩ => ?_, ih later⟩
    cases first with
    | nil => exact noHead (List.cons_prefix_cons.mp head).1.symm
    | cons e first =>
      have same : '>' = e := (List.cons_prefix_cons.mp head).1
      exact here ⟨dash, List.cons_prefix_cons.mpr ⟨same, List.nil_prefix⟩⟩

theorem arrowless_joined {names : List String}
    (arrowless : ∀ name ∈ names, Arrowless name.toList) :
    Arrowless (", ".intercalate names).toList := by
  induction names with
  | nil => exact arrowless_nil
  | cons name rest ih =>
    obtain ⟨here, later⟩ := List.forall_mem_cons.mp arrowless
    cases rest with
    | nil => rwa [String.intercalate_singleton]
    | cons next rest =>
      have separator : ", ".toList = [',', ' '] := rfl
      rw [String.intercalate_cons_cons, String.toList_append, String.toList_append, separator,
        List.append_assoc]
      refine here.append_cons ?_ (by decide) (by decide)
      exact arrowless_nil.append_cons (ih later) (by decide) (by decide)

theorem arrowPieceChars_of_arrowless {cs : List Char} (arrowless : Arrowless cs) :
    arrowPieceChars cs = [cs] := by
  induction cs with
  | nil => rfl
  | cons c rest ih =>
    obtain ⟨here, later⟩ := arrowless_cons.mp arrowless
    rw [arrowPieceChars.eq_3 _ _ ?_, ih later, extendFirst]
    rintro others rfl rfl
    exact here ⟨rfl, List.cons_prefix_cons.mpr ⟨rfl, List.nil_prefix⟩⟩

theorem arrowPieceChars_append {first : List Char} (arrowless : Arrowless first)
    (rest : List Char) :
    arrowPieceChars (first ++ '-' :: '>' :: rest) = first :: arrowPieceChars rest := by
  induction first with
  | nil => rfl
  | cons c first ih =>
    obtain ⟨here, later⟩ := arrowless_cons.mp arrowless
    rw [List.cons_append, arrowPieceChars.eq_3 _ _ ?_, ih later, extendFirst]
    rintro others rfl same
    cases first with
    | nil => simp at same
    | cons d first =>
      obtain rfl : d = '>' := (List.cons.inj same).1
      exact here ⟨rfl, List.cons_prefix_cons.mpr ⟨rfl, List.nil_prefix⟩⟩

theorem arrowless_pieces (cs : List Char) : ∃ first others,
    arrowPieceChars cs = first :: others ∧ first <+: cs ∧
      ∀ piece ∈ first :: others, Arrowless piece := by
  -- The first piece begins the text, so a dash before it makes an arrow only where the text has
  -- one.
  fun_induction arrowPieceChars cs with
  | case1 => exact ⟨[], [], rfl, List.prefix_rfl, by simp [arrowless_nil]⟩
  | case2 rest ih =>
    obtain ⟨first, others, pieces, _, arrowless⟩ := ih
    refine ⟨[], first :: others, by rw [pieces], List.nil_prefix, ?_⟩
    exact List.forall_mem_cons.mpr ⟨arrowless_nil, arrowless⟩
  | case3 c rest noArrow ih =>
    obtain ⟨first, others, pieces, starts, arrowless⟩ := ih
    obtain ⟨here, later⟩ := List.forall_mem_cons.mp arrowless
    refine ⟨c :: first, others, by rw [pieces, extendFirst],
      List.cons_prefix_cons.mpr ⟨rfl, starts⟩, List.forall_mem_cons.mpr ⟨?_, later⟩⟩
    refine arrowless_cons.mpr ⟨fun ⟨dash, head⟩ => ?_, here⟩
    obtain ⟨more, same⟩ := head.trans starts
    exact noArrow more dash same.symm

theorem arrowless_of_mem_pieces {cs piece : List Char} (member : piece ∈ arrowPieceChars cs) :
    Arrowless piece := by
  obtain ⟨first, others, pieces, _, arrowless⟩ := arrowless_pieces cs
  exact arrowless piece (pieces ▸ member)

theorem intercalate_arrowPieceChars (cs : List Char) :
    ['-', '>'].intercalate (arrowPieceChars cs) = cs := by
  fun_induction arrowPieceChars cs with
  | case1 => rfl
  | case2 rest ih =>
    obtain ⟨first, others, pieces, _, _⟩ := arrowless_pieces rest
    rw [pieces] at ih ⊢
    rw [List.intercalate_cons_cons, ih]
    rfl
  | case3 c rest noArrow ih =>
    obtain ⟨first, others, pieces, _, _⟩ := arrowless_pieces rest
    rw [pieces] at ih ⊢
    rw [extendFirst]
    cases others with
    | nil => simp_all
    | cons next others => simp_all

/-- A text has two sides exactly if there is one arrow in it, and they stand on either side of
that. -/
theorem arrowPieces_eq_pair {text left right : String} :
    arrowPieces text = [left, right] ↔
      text = left ++ arrow ++ right ∧ Arrowless left.toList ∧ Arrowless right.toList := by
  constructor
  · intro pieces
    have chars : arrowPieceChars text.toList = [left.toList, right.toList] := by
      have listed := congrArg (List.map String.toList) pieces
      simpa [arrowPieces] using listed
    have whole := intercalate_arrowPieceChars text.toList
    rw [chars, List.intercalate_cons_cons, List.intercalate_singleton] at whole
    have arrowless : ∀ piece ∈ [left.toList, right.toList], Arrowless piece := fun piece member =>
      arrowless_of_mem_pieces (chars ▸ member)
    refine ⟨String.toList_inj.mp ?_, arrowless _ (by simp), arrowless _ (by simp)⟩
    simp [← whole, arrow]
  · rintro ⟨rfl, leftArrowless, rightArrowless⟩
    have chars : (left ++ arrow ++ right).toList = left.toList ++ '-' :: '>' :: right.toList := by
      simp [arrow]
    rw [arrowPieces, chars, arrowPieceChars_append leftArrowless,
      arrowPieceChars_of_arrowless rightArrowless]
    simp

-- The last name ends the text, and its last character is not blank.
theorem trimEnd_joined {names : List String} (valid : ∀ name ∈ names, isName name = true)
    (some : names ≠ []) (before : String) :
    trimEnd (before ++ ", ".intercalate names).toList =
      (before ++ ", ".intercalate names).toList := by
  induction names generalizing before with
  | nil => exact absurd rfl some
  | cons name rest ih =>
    obtain ⟨validName, validRest⟩ := List.forall_mem_cons.mp valid
    cases rest with
    | nil =>
      obtain ⟨nonempty, clean⟩ := isName_iff.mp validName
      rw [String.intercalate_singleton, String.toList_append]
      rcases List.eq_nil_or_concat name.toList with none | ⟨first, c, chars⟩
      · exact absurd (String.toList_eq_nil_iff.mp none) nonempty
      · have dark : isBlank c = false := clean c (by simp [chars])
        rw [chars, List.concat_eq_append, ← List.append_assoc, trimEnd_append_cons dark]
        rfl
    | cons next rest =>
      rw [String.intercalate_cons_cons, ← String.append_assoc]
      exact ih validRest (List.cons_ne_nil next rest) (before ++ (name ++ ", "))

theorem tokens_trimEnd_joined {names : List String} {before : String}
    (valid : ∀ name ∈ names, isName name = true) (plain : ∀ name ∈ names, ',' ∉ name.toList)
    (blankBefore : Blank before) :
    tokens (.ofList (trimEnd (before ++ ", ".intercalate names).toList)) = names := by
  -- Without names all is blank, and with names nothing is trimmed.
  by_cases none : names = []
  · have nothing : trimEnd before.toList = [] := trimEnd_append blankBefore []
    rw [none, String.intercalate_nil, String.append_empty, nothing]
    exact tokens_blank blank_empty
  · have joined := tokens_joined valid plain blankBefore blank_empty
    rw [String.append_empty] at joined
    rwa [trimEnd_joined valid none, String.ofList_toList]

end Text

end MultisetSubstitution
