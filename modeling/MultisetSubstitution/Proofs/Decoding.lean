import Mathlib
import MultisetSubstitution.Json.Reading
import MultisetSubstitution.Proofs.Printing

/-! Reading back what is written. A value is spelled by its tokens in every layout, since a layout
does no more than put blanks around commas, and its tokens are read as the value, if no object in it
has a key twice. -/

set_option autoImplicit false

namespace MultisetSubstitution

namespace Json

/-! ## Numbers -/

def Apart (rest : List Char) : Prop := ∀ c ∈ rest.head?, c.isDigit = false

theorem apart_cons {c : Char} (other : c.isDigit = false) (rest : List Char) :
    Apart (c :: rest) := by
  intro d first
  obtain rfl : c = d := by simpa using first
  exact other

theorem toDigits_ne_zero_cons (n : Nat) (c : Char) (rest : List Char) :
    Nat.toDigits 10 n ≠ '0' :: c :: rest := by
  -- The last digit is not the first of several, so the others begin with the same zero.
  induction n using Nat.strong_induction_on generalizing c rest with
  | _ n ih =>
    intro digits
    by_cases small : n < 10
    · rw [Nat.toDigits_of_lt_base small] at digits
      simp at digits
    · have large : 10 ≤ n := Nat.not_lt.mp small
      rw [Nat.toDigits_of_base_le (by decide) large] at digits
      cases front : Nat.toDigits 10 (n / 10) with
      | nil => exact Nat.toDigits_ne_nil front
      | cons d others =>
        rw [front] at digits
        obtain ⟨rfl, -⟩ := List.cons.inj digits
        cases others with
        | nil =>
          have value := Nat.ofDigitChars_toDigits (b := 10) (n := n / 10) (by decide) (by decide)
          rw [front] at value
          have none : Nat.ofDigitChars 10 ['0'] 0 = 0 := by decide
          omega
        | cons e more => exact ih (n / 10) (by omega) e more front

theorem natural?_toDigits (n : Nat) {rest : List Char} (apart : Apart rest) :
    natural? (Nat.toDigits 10 n ++ rest) = some (n, rest) := by
  have digits : ∀ c ∈ Nat.toDigits 10 n, c.isDigit = true := fun c member =>
    Nat.isDigit_of_mem_toDigits (by decide) (by decide) member
  have ends : rest.takeWhile Char.isDigit = [] ∧ rest.dropWhile Char.isDigit = rest := by
    cases rest with
    | nil => exact ⟨rfl, rfl⟩
    | cons c rest =>
      have other := apart c (by simp)
      exact ⟨List.takeWhile_cons_of_neg (by simp [other]),
        List.dropWhile_cons_of_neg (by simp [other])⟩
  rw [natural?, List.takeWhile_append_of_pos digits, List.dropWhile_append_of_pos digits, ends.1,
    ends.2, List.append_nil]
  split
  · rename_i none
    exact absurd none Nat.toDigits_ne_nil
  · rename_i c more zero
    exact absurd zero (toDigits_ne_zero_cons n c more)
  · rw [Nat.ofDigitChars_toDigits (by decide) (by decide)]

theorem integer?_toString (n : Int) {rest : List Char} (apart : Apart rest) :
    integer? ((toString n).toList ++ rest) = some (n, rest) := by
  rw [Int.toString_eq_repr, Int.repr_eq_if]
  split
  · rename_i positive
    rw [Nat.toList_repr, integer?.eq_2]
    · rw [natural?_toDigits n.toNat apart]
      simp [Prod.map, Int.toNat_of_nonneg positive]
    · intro others digits
      cases front : Nat.toDigits 10 n.toNat with
      | nil => exact Nat.toDigits_ne_nil front
      | cons d more =>
        have digit := Nat.isDigit_of_mem_toDigits (b := 10) (n := n.toNat) (c := d) (by decide)
          (by decide) (front ▸ List.mem_cons_self)
        rw [front] at digits
        obtain ⟨rfl, -⟩ := List.cons.inj digits
        exact absurd digit (by decide)
  · rename_i negative
    have minus : "-".toList = ['-'] := rfl
    rw [String.toList_append, minus, Nat.toList_repr, List.append_assoc, List.singleton_append,
      integer?, natural?_toDigits _ apart]
    simp only [Option.map_some, Prod.map, id, Option.some.injEq, Prod.mk.injEq, and_true]
    omega

/-! ## Strings -/

theorem hexDigit?_digitChar : ∀ digit < 16, hexDigit? (Nat.digitChar digit) = some digit := by
  decide

theorem hexValue?_append (digits others : List Char) :
    hexValue? (digits ++ others) = (hexValue? digits).bind fun value =>
      others.foldlM (fun value c => (hexDigit? c).map (16 * value + ·)) value :=
  List.foldlM_append

theorem hexValue?_toDigits (n : Nat) : hexValue? (Nat.toDigits 16 n) = some n := by
  induction n using Nat.strong_induction_on with
  | _ n ih =>
    by_cases small : n < 16
    · rw [Nat.toDigits_of_lt_base small]
      simp [hexValue?, hexDigit?_digitChar n small]
    · have large : 16 ≤ n := Nat.not_lt.mp small
      have last := hexDigit?_digitChar (n % 16) (Nat.mod_lt n (by decide))
      rw [Nat.toDigits_of_base_le (by decide) large, hexValue?_append, ih (n / 16) (by omega)]
      simp [last, Nat.div_add_mod]

theorem hexValue?_hexadecimal (width n : Nat) :
    hexValue? (Text.hexadecimal width n) = some n := by
  have zeros : ∀ count, hexValue? (List.replicate count '0') = some 0 := by
    intro count
    induction count with
    | zero => rfl
    | succ count ih => exact ih
  rw [Text.hexadecimal, hexValue?_append, zeros]
  exact hexValue?_toDigits n

theorem length_hexadecimal {width n : Nat} (positive : 0 < width) (fits : n < 16 ^ width) :
    (Text.hexadecimal width n).length = width := by
  have digits := (Nat.length_toDigits_le_iff (b := 16) (by decide) positive).mpr fits
  rw [Text.hexadecimal, List.length_append, List.length_replicate]
  omega

theorem units?_unitEscape {unit : Nat} (fits : unit < 0x10000) (rest : List Char) :
    units? (unitEscape unit ++ rest) = (units? rest).map (Prod.map (unit :: ·) id) := by
  have width : (Text.hexadecimal 4 unit).length = 4 := length_hexadecimal (by decide) fits
  have value := hexValue?_hexadecimal 4 unit
  obtain ⟨a, b, c, d, digits⟩ := List.length_eq_four.mp width
  rw [digits] at value
  rw [unitEscape, digits]
  simp only [List.cons_append, List.nil_append, units?, value, Option.bind_some]

def units (code : Text.Code) : List Nat :=
  if code.val < 0x10000 then [code.val]
  else [0xD800 + (code.val - 0x10000) / 0x400, 0xDC00 + (code.val - 0x10000) % 0x400]

theorem units?_escaped {escape : Char} {code : Text.Code} {unit : Nat} (same : code.val = unit)
    (known : escaped? escape = some unit) (small : unit < 0x10000) (rest : List Char) :
    units? ('\\' :: escape :: rest) = (units? rest).map (Prod.map (units code ++ ·) id) := by
  rw [units, same, if_pos small, units?, known, Option.bind_some]
  · rfl
  · rintro a b c d others rfl -
    exact nomatch known

theorem units?_plain {c : Char} (noQuote : c ≠ '"') (noEscape : c ≠ '\\')
    (printable : 0x20 ≤ c.toNat) (rest : List Char) :
    units? (c :: rest) = (units? rest).map (Prod.map (c.toNat :: ·) id) := by
  rw [units?, if_neg (Nat.not_lt.mpr printable)]
  · exact noQuote
  · rintro a b d e others rfl
    exact absurd rfl noEscape
  · rintro d others rfl
    exact absurd rfl noEscape

/-- A code is read as its units, in whatever way it is escaped. -/
theorem units?_escapeCode (code : Text.Code) (rest : List Char) :
    units? (escapeCode code ++ rest) = (units? rest).map (Prod.map (units code ++ ·) id) := by
  simp only [escapeCode]
  split_ifs with quote slash feed back tab delete form printable small
  · exact units?_escaped quote rfl (by decide) rest
  · exact units?_escaped slash rfl (by decide) rest
  · exact units?_escaped feed rfl (by decide) rest
  · exact units?_escaped back rfl (by decide) rest
  · exact units?_escaped tab rfl (by decide) rest
  · exact units?_escaped delete rfl (by decide) rest
  · exact units?_escaped form rfl (by decide) rest
  · obtain ⟨least, most⟩ : 0x20 ≤ code.val ∧ code.val < 0x7F := by simpa using printable
    have value : (Char.ofNat code.val).toNat = code.val := by
      rw [Char.toNat_ofNat, if_pos (.inl (by omega))]
    have noQuote : Char.ofNat code.val ≠ '"' := fun same => quote (by rw [← same, value])
    have noSlash : Char.ofNat code.val ≠ '\\' := fun same => slash (by rw [← same, value])
    rw [units, if_pos (by omega), List.singleton_append,
      units?_plain noQuote noSlash (by omega), value]
    rfl
  · rw [units, if_pos small]
    exact units?_unitEscape small rest
  · have most := code.isLt
    rw [units, if_neg small, List.append_assoc, units?_unitEscape (by omega),
      units?_unitEscape (by omega), Option.map_map]
    rfl

theorem units?_string (text : Text.Codes) (rest : List Char) :
    units? (text.flatMap escapeCode ++ '"' :: rest) = some (text.flatMap units, rest) := by
  induction text with
  | nil => rw [List.flatMap_nil, List.nil_append, units?, List.flatMap_nil]
  | cons code more ih =>
    rw [List.flatMap_cons, List.append_assoc, units?_escapeCode, ih, List.flatMap_cons]
    rfl

/-- What a text is read as, once it is written: halves of surrogate pairs that stand side by side in
it are joined. -/
def rereadText (text : Text.Codes) : Text.Codes := joined (text.flatMap units)

theorem string?_escaped (text : Text.Codes) (rest : List Char) :
    string? (text.flatMap escapeCode ++ '"' :: rest) = some (rereadText text, rest) := by
  rw [string?, units?_string]
  rfl

theorem joined_cons {unit : Nat} {more : List Nat}
    (apart : ∀ next ∈ more.head?, ¬ (Text.isHigh unit = true ∧ Text.isLow next = true)) :
    joined (unit :: more) = Fin.ofNat _ unit :: joined more := by
  cases more with
  | nil => rfl
  | cons next rest =>
    rw [joined, if_neg]
    simpa using apart next rfl

/-- A code is read back from its units, if it is not joined with what follows. -/
theorem joined_units {code : Text.Code} {more : List Nat}
    (apart : ∀ next ∈ more.head?, ¬ (Text.isHigh code.val = true ∧ Text.isLow next = true)) :
    joined (units code ++ more) = code :: joined more := by
  rw [units]
  split
  · rw [List.singleton_append, joined_cons apart, Fin.ofNat_val_eq_self]
  · rename_i large
    have most := code.isLt
    have value : 0x10000 + (0xD800 + (code.val - 0x10000) / 0x400 - 0xD800) * 0x400 +
        (0xDC00 + (code.val - 0x10000) % 0x400 - 0xDC00) = code.val := by omega
    rw [List.cons_append, List.singleton_append, joined, if_pos, value, Fin.ofNat_val_eq_self]
    simp only [Text.isHigh, Text.isLow, Bool.and_eq_true, decide_eq_true_eq]
    omega

theorem isLow_head_units {code : Text.Code} {unit : Nat} (first : unit ∈ (units code).head?) :
    Text.isLow unit = Text.isLow code.val := by
  rw [units] at first
  have most := code.isLt
  split at first
  · obtain rfl := Option.some.inj first
    rfl
  · obtain rfl := Option.some.inj first
    rw [Bool.eq_iff_iff]
    simp only [Text.isLow, Bool.and_eq_true, decide_eq_true_eq]
    omega

end Json

/-- No first half of a surrogate pair has a second one right after it. -/
def Text.Unpaired (text : Codes) : Prop :=
  text.IsChain fun first second => ¬ (isHigh first.val = true ∧ isLow second.val = true)

instance (text : Text.Codes) : Decidable (Text.Unpaired text) :=
  inferInstanceAs (Decidable (text.IsChain _))

theorem Text.unpaired_codes (text : String) : Unpaired (codes text) := by
  rw [Unpaired, codes, List.isChain_map]
  refine (List.pairwise_of_forall fun first second both => ?_).isChain
  have valid := toNat_valid first
  obtain ⟨least, most⟩ := Bool.and_eq_true_iff.mp both.1
  have high : 0xD800 ≤ first.toNat ∧ first.toNat < 0xDC00 :=
    ⟨of_decide_eq_true least, of_decide_eq_true most⟩
  omega

namespace Json

theorem rereadText_singleton (code : Text.Code) : rereadText [code] = [code] := by
  rw [rereadText, List.flatMap_singleton, ← List.append_nil (units code), joined_units (by simp)]
  rfl

theorem bounds_of_pair {code next : Text.Code}
    (pair : Text.isHigh code.val = true ∧ Text.isLow next.val = true) :
    (0xD800 ≤ code.val ∧ code.val < 0xDC00) ∧ 0xDC00 ≤ next.val ∧ next.val < 0xE000 := by
  simpa [Text.isHigh, Text.isLow] using pair

theorem rereadText_pair {code next : Text.Code}
    (pair : Text.isHigh code.val = true ∧ Text.isLow next.val = true) (more : Text.Codes) :
    rereadText (code :: next :: more) =
      Fin.ofNat _ (0x10000 + (code.val - 0xD800) * 0x400 + (next.val - 0xDC00)) ::
        rereadText more := by
  obtain ⟨high, low⟩ := bounds_of_pair pair
  rw [rereadText, List.flatMap_cons, List.flatMap_cons, units, if_pos (by omega), units,
    if_pos (by omega), List.singleton_append, List.singleton_append, joined, if_pos]
  · rfl
  · simpa using pair

theorem rereadText_cons {code next : Text.Code}
    (apart : ¬ (Text.isHigh code.val = true ∧ Text.isLow next.val = true)) (more : Text.Codes) :
    rereadText (code :: next :: more) = code :: rereadText (next :: more) := by
  rw [rereadText, List.flatMap_cons, joined_units]
  · rfl
  · intro unit first both
    rw [List.flatMap_cons, List.head?_append_of_ne_nil] at first
    · exact apart ⟨both.1, isLow_head_units first ▸ both.2⟩
    · rw [units]
      split <;> simp

/-- A text is read back just if there is no pair in it. -/
theorem rereadText_eq_self {text : Text.Codes} :
    rereadText text = text ↔ Text.Unpaired text := by
  induction text with
  | nil => exact iff_of_true rfl .nil
  | cons code rest ih =>
    cases rest with
    | nil => exact iff_of_true (rereadText_singleton code) (.singleton code)
    | cons next more =>
      rw [Text.Unpaired, List.isChain_cons_cons, ← Text.Unpaired, ← ih]
      by_cases pair : Text.isHigh code.val = true ∧ Text.isLow next.val = true
      · -- The two are read as one code, which is above both.
        refine iff_of_false (fun same => ?_) (fun both => both.1 pair)
        rw [rereadText_pair pair] at same
        obtain ⟨high, low⟩ := bounds_of_pair pair
        have value := congrArg Fin.val (List.cons.inj same).1
        rw [Fin.val_ofNat, Nat.mod_eq_of_lt (by omega)] at value
        omega
      · rw [rereadText_cons pair, List.cons_inj_right]
        exact ⟨fun same => ⟨pair, same⟩, fun both => both.2⟩

/-! ## Tokens -/

theorem isGap_iff {c : Char} : isGap c = true ↔ c = ' ' ∨ c = '\n' ∨ c = '\r' ∨ c = '\t' := by
  simp [isGap, or_assoc]

theorem mark?_gap {c : Char} (gap : isGap c = true) : mark? c = none := by
  rcases isGap_iff.mp gap with rfl | rfl | rfl | rfl <;> rfl

theorem isGap_number {c : Char} (starts : c = '-' ∨ c.isDigit = true) : isGap c = false := by
  rw [Bool.eq_false_iff]
  intro gap
  rcases isGap_iff.mp gap with rfl | rfl | rfl | rfl <;> exact absurd starts (by decide)

theorem mark?_number {c : Char} (starts : c = '-' ∨ c.isDigit = true) : mark? c = none := by
  cases marked : mark? c with
  | none => rfl
  | some token =>
    unfold mark? at marked
    split at marked
    all_goals first | exact absurd starts (by decide) | exact nomatch marked

theorem tokens?_gaps {gaps : List Char} (blank : ∀ c ∈ gaps, isGap c = true) (rest : List Char) :
    tokens? (gaps ++ rest) = tokens? rest := by
  induction gaps with
  | nil => rfl
  | cons c more ih =>
    obtain ⟨here, later⟩ := List.forall_mem_cons.mp blank
    rw [List.cons_append, tokens?, if_pos here, ih later]

theorem tokens?_token {c : Char} {rest after : List Char} {token : Token}
    (dark : isGap c = false) (read : token? (c :: rest) = some (token, after)) :
    tokens? (c :: rest) = (tokens? after).map (token :: ·) := by
  rw [tokens?, if_neg (by simp [dark])]
  split
  · rename_i none
    rw [none] at read
    cases read
  · rename_i other left found
    rw [found] at read
    obtain ⟨rfl, rfl⟩ := Prod.mk.inj (Option.some.inj read)
    rfl

/-- A text that is read as given tokens, whatever comes after it. -/
def Spells (text : String) (tokens : List Token) : Prop :=
  ∀ rest, Apart rest → tokens? (text.toList ++ rest) = (tokens? rest).map (tokens ++ ·)

theorem tokens?_mark {c : Char} {token : Token} (marked : mark? c = some token)
    (rest : List Char) : tokens? (c :: rest) = (tokens? rest).map (token :: ·) := by
  refine tokens?_token ?_ ?_
  · rw [Bool.eq_false_iff]
    intro gap
    rw [mark?_gap gap] at marked
    exact nomatch marked
  · rw [token?, marked]

theorem toString_starts (n : Int) :
    ∃ c rest, (toString n).toList = c :: rest ∧ (c = '-' ∨ c.isDigit = true) := by
  cases chars : (toString n).toList with
  | nil =>
    have read : integer? ((toString n).toList ++ []) = some (n, []) :=
      integer?_toString n (by simp [Apart])
    rw [chars] at read
    exact nomatch read
  | cons c rest => exact ⟨c, rest, rfl, Text.mem_toString (chars ▸ List.mem_cons_self)⟩

theorem spells_integer (n : Int) : Spells (toString n) [.integer n] := by
  intro rest apart
  have read := integer?_toString n apart
  obtain ⟨c, more, chars, starts⟩ := toString_starts n
  rw [chars, List.cons_append] at read ⊢
  refine tokens?_token (isGap_number starts) ?_
  rw [token?, mark?_number starts, if_neg]
  · rw [read]
    rfl
  · rintro rfl
    exact absurd starts (by decide)

theorem spells_text (value : Text.Codes) :
    Spells (stringText value) [.text (rereadText value)] := by
  intro rest _
  have chars : (stringText value).toList ++ rest =
      '"' :: (value.flatMap escapeCode ++ '"' :: rest) := by
    simp [stringText]
  rw [chars]
  refine tokens?_token rfl ?_
  rw [token?, if_pos rfl, string?_escaped]
  rfl

theorem gap_lineStart (layout : Layout) (depth : Nat) :
    ∀ c ∈ (layout.lineStart depth).toList, isGap c = true := by
  intro c member
  cases layout with
  | oneLine => simp [Layout.lineStart] at member
  | indented width =>
    have gap : c = '\n' ∨ c = ' ' := by
      simp only [Layout.lineStart, String.toList_ofList, List.mem_cons] at member
      exact member.imp_right List.eq_of_mem_replicate
    rcases gap with rfl | rfl <;> rfl

theorem tokens?_separator (layout : Layout) (depth : Nat) (rest : List Char) :
    tokens? ((layout.separator depth).toList ++ rest) = (tokens? rest).map (.comma :: ·) := by
  obtain ⟨gaps, chars, blank⟩ : ∃ gaps, (layout.separator depth).toList = ',' :: gaps ∧
      ∀ c ∈ gaps, isGap c = true := by
    cases layout with
    | oneLine => exact ⟨[' '], by simp [Layout.separator], by simp [isGap]⟩
    | indented width =>
      refine ⟨((Layout.indented width).lineStart depth).toList, ?_, gap_lineStart _ depth⟩
      simp [Layout.separator]
  rw [chars, List.cons_append, tokens?_mark rfl, tokens?_gaps blank]

theorem apart_separator (layout : Layout) (depth : Nat) (rest : List Char) :
    Apart ((layout.separator depth).toList ++ rest) := by
  cases layout <;> simp [Apart, Layout.separator]

theorem spells_joined (layout : Layout) (depth : Nat) {written : List String}
    {spelled : List (List Token)} (spells : List.Forall₂ Spells written spelled) :
    Spells ((layout.separator depth).intercalate written) ([.comma].intercalate spelled) := by
  induction spells with
  | nil =>
    intro rest _
    simp
  | @cons text tokens texts others here later ih =>
    cases later with
    | nil => simpa using here
    | @cons next more texts others second last =>
      intro rest apart
      rw [String.intercalate_cons_cons, List.intercalate_cons_cons, String.toList_append,
        String.toList_append, List.append_assoc, List.append_assoc,
        here _ (apart_separator layout depth _), tokens?_separator, ih rest apart]
      simp [Function.comp_def]

theorem spells_enclosed (layout : Layout) (depth : Nat) {first last : String} {opener closer : Char}
    (firstChars : first.toList = [opener]) (lastChars : last.toList = [closer])
    {opens closes : Token} (opening : mark? opener = some opens)
    (closing : mark? closer = some closes) (apart : closer.isDigit = false)
    {written : List String} {spelled : List (List Token)}
    (spells : List.Forall₂ Spells written spelled) :
    Spells (layout.enclose depth first last written)
      (opens :: ([.comma].intercalate spelled ++ [closes])) := by
  have inside := spells_joined layout (depth + 1) spells
  intro rest _
  cases spells with
  | nil =>
    simp [Layout.enclose, firstChars, lastChars, tokens?_mark opening, tokens?_mark closing,
      Function.comp_def]
  | @cons text tokens texts others here later =>
    have enclosed : (layout.enclose depth first last (text :: texts)).toList ++ rest =
        opener :: ((layout.lineStart (depth + 1)).toList ++
          (((layout.separator (depth + 1)).intercalate (text :: texts)).toList ++
            ((layout.lineStart depth).toList ++ closer :: rest))) := by
      simp [Layout.enclose, firstChars, lastChars]
    -- The last item ends where a line starts, or at once at the closing mark.
    have ends : Apart ((layout.lineStart depth).toList ++ closer :: rest) := by
      cases layout with
      | oneLine => exact apart_cons apart rest
      | indented width => simp [Apart, Layout.lineStart]
    rw [enclosed, tokens?_mark opening, tokens?_gaps (gap_lineStart layout _), inside _ ends,
      tokens?_gaps (gap_lineStart layout depth), tokens?_mark closing]
    simp [Function.comp_def]

mutual

def tokens : Json → List Token
  | .integer value => [.integer value]
  | .text value => [.text value]
  | .array items => .openArray :: ([.comma].intercalate (itemTokens items) ++ [.closeArray])
  | .object fields => .openObject :: ([.comma].intercalate (fieldTokens fields) ++ [.closeObject])

def itemTokens : List Json → List (List Token)
  | [] => []
  | item :: rest => item.tokens :: itemTokens rest

def fieldTokens : List (Text.Codes × Json) → List (List Token)
  | [] => []
  | (key, value) :: rest => (.text key :: .colon :: value.tokens) :: fieldTokens rest

end

mutual

def reread : Json → Json
  | .integer value => .integer value
  | .text value => .text (rereadText value)
  | .array items => .array (rereadItems items)
  | .object fields => .object (rereadFields fields)

def rereadItems : List Json → List Json
  | [] => []
  | item :: rest => item.reread :: rereadItems rest

def rereadFields : List (Text.Codes × Json) → List (Text.Codes × Json)
  | [] => []
  | (key, value) :: rest => (rereadText key, value.reread) :: rereadFields rest

end

theorem Spells.field {key : Text.Codes} {text : String} {value : List Token}
    (spells : Spells text value) :
    Spells (stringText key ++ ": " ++ text) (.text (rereadText key) :: .colon :: value) := by
  intro rest apart
  have chars : (stringText key ++ ": " ++ text).toList ++ rest =
      (stringText key).toList ++ ':' :: ([' '] ++ (text.toList ++ rest)) := by simp
  rw [chars, spells_text key _ (apart_cons rfl _), tokens?_mark rfl, tokens?_gaps (by simp [isGap]),
    spells rest apart]
  simp [Function.comp_def]

mutual

/-- In every layout a value is spelled by the tokens of what it is read as. -/
theorem spells_write (layout : Layout) (depth : Nat) :
    ∀ json : Json, Spells (json.write layout depth) json.reread.tokens
  | .integer value => spells_integer value
  | .text value => spells_text value
  | .array items => by
    rw [write, reread, tokens]
    have opening : mark? '[' = some .openArray := rfl
    have closing : mark? ']' = some .closeArray := rfl
    exact spells_enclosed layout depth rfl rfl opening closing rfl
      (spells_writeItems layout (depth + 1) items)
  | .object fields => by
    rw [write, reread, tokens]
    have opening : mark? '\x7b' = some .openObject := rfl
    have closing : mark? '\x7d' = some .closeObject := rfl
    exact spells_enclosed layout depth rfl rfl opening closing rfl
      (spells_writeFields layout (depth + 1) fields)

theorem spells_writeItems (layout : Layout) (depth : Nat) :
    ∀ items : List Json,
      List.Forall₂ Spells (writeItems layout depth items) (itemTokens (rereadItems items))
  | [] => .nil
  | item :: rest =>
    .cons (spells_write layout depth item) (spells_writeItems layout depth rest)

theorem spells_writeFields (layout : Layout) (depth : Nat) :
    ∀ fields : List (Text.Codes × Json),
      List.Forall₂ Spells (writeFields layout depth fields) (fieldTokens (rereadFields fields))
  | [] => .nil
  | (_, value) :: rest =>
    .cons (spells_write layout depth value).field (spells_writeFields layout depth rest)

end

/-! ## Values -/

inductive Distinct : Json → Prop
  | integer (value : Int) : Distinct (.integer value)
  | text (value : Text.Codes) : Distinct (.text value)
  | array {items : List Json} (each : ∀ item ∈ items, Distinct item) : Distinct (.array items)
  | object {fields : List (Text.Codes × Json)} (keys : (fields.map (·.1)).Nodup)
    (each : ∀ field ∈ fields, Distinct field.2) : Distinct (.object fields)

/-- The tokens of a value are read as that value, within whatever is not finished, if no object in
it has a key twice, and as nothing otherwise. -/
def Reads (json : Json) : Prop :=
  ∀ within rest found, readValue within (json.tokens ++ rest) = some found ↔
    json.Distinct ∧ readOn json within rest = some found

theorem tokens_starts (json : Json) :
    ∃ first rest, json.tokens = first :: rest ∧ first ≠ .closeArray := by
  cases json <;> exact ⟨_, _, by rw [tokens], by simp⟩

theorem readValue_items {item : Json} {items : List Json}
    (reads : ∀ other ∈ item :: items, Reads other) (done : List Json) (within : List Unfinished)
    (rest : List Token) (found : Json) :
    readValue (.array done :: within)
        ([.comma].intercalate (itemTokens (item :: items)) ++ .closeArray :: rest) = some found ↔
      (∀ other ∈ item :: items, other.Distinct) ∧
        readOn (.array (done ++ item :: items)) within rest = some found := by
  induction items generalizing item done with
  | nil =>
    rw [itemTokens, itemTokens, List.intercalate_singleton, reads item (by simp), readOn,
      List.forall_mem_singleton]
  | cons next more ih =>
    obtain ⟨here, later⟩ := List.forall_mem_cons.mp reads
    rw [itemTokens, itemTokens, List.intercalate_cons_cons, List.append_assoc, List.append_assoc,
      here, List.singleton_append, readOn, ← itemTokens, ih later, List.append_assoc,
      List.singleton_append, List.forall_mem_cons (a := item), and_assoc]

theorem reads_array {items : List Json} (reads : ∀ item ∈ items, Reads item) :
    Reads (.array items) := by
  intro within rest found
  have distinct : (Json.array items).Distinct ↔ ∀ item ∈ items, item.Distinct :=
    ⟨fun | .array each => each, .array⟩
  rw [distinct]
  cases items with
  | nil => exact ⟨fun same => ⟨nofun, same⟩, And.right⟩
  | cons item more =>
    have spread : (Json.array (item :: more)).tokens ++ rest = .openArray ::
        ([.comma].intercalate (itemTokens (item :: more)) ++ .closeArray :: rest) := by
      simp [tokens]
    have opens : ∃ first others, [Token.comma].intercalate (itemTokens (item :: more)) ++
        .closeArray :: rest = first :: others ∧ first ≠ .closeArray := by
      obtain ⟨first, others, starts, other⟩ := tokens_starts item
      cases more <;> exact ⟨first, _, by simp [itemTokens, starts]; rfl, other⟩
    obtain ⟨first, others, starts, other⟩ := opens
    have within_array : readValue within (.openArray :: first :: others) =
        readValue (.array [] :: within) (first :: others) := by
      rw [readValue]
      intro more same
      exact other (List.cons.inj same).1
    rw [spread, starts, within_array, ← starts, readValue_items reads, List.nil_append]

theorem nodup_snoc {done : List (Text.Codes × Json)} {key : Text.Codes} {value : Json} :
    ((done ++ [(key, value)]).map (·.1)).Nodup ↔
      (done.map (·.1)).Nodup ∧ key ∉ done.map (·.1) := by
  rw [List.map_append, List.map_singleton, ← List.concat_eq_append, List.nodup_concat]
  exact and_comm

theorem fresh_of_nodup {done fields : List (Text.Codes × Json)} {key : Text.Codes} {value : Json}
    (keys : ((done ++ (key, value) :: fields).map (·.1)).Nodup) : key ∉ done.map (·.1) := by
  rw [List.map_append, List.map_cons, List.nodup_append] at keys
  exact fun old => keys.2.2 key old key List.mem_cons_self rfl

theorem intercalate_cons_cons_head {α : Type} (separator : List α) (first : α) (rest : List α)
    (others : List (List α)) :
    separator.intercalate ((first :: rest) :: others) =
      first :: separator.intercalate (rest :: others) := by
  cases others <;> simp

theorem readValue_fields {key : Text.Codes} {value : Json} {fields : List (Text.Codes × Json)}
    (reads : ∀ field ∈ (key, value) :: fields, Reads field.2) (done : List (Text.Codes × Json))
    (distinct : (done.map (·.1)).Nodup) (within : List Unfinished) (rest : List Token)
    (found : Json) :
    readValue (.object done key :: within)
        ([.comma].intercalate (value.tokens :: fieldTokens fields) ++ .closeObject :: rest) =
        some found ↔
      (((done ++ (key, value) :: fields).map (·.1)).Nodup ∧
          ∀ field ∈ (key, value) :: fields, field.2.Distinct) ∧
        readOn (.object (done ++ (key, value) :: fields)) within rest = some found := by
  induction fields generalizing key value done with
  | nil =>
    rw [fieldTokens, List.intercalate_singleton, reads (key, value) (by simp), readOn, nodup_snoc,
      List.forall_mem_singleton]
    by_cases old : key ∈ done.map (·.1)
    · simp [old]
    · rw [if_neg old]
      simp only [distinct, old, not_false_eq_true, true_and]
  | cons field more ih =>
    obtain ⟨next, second⟩ := field
    obtain ⟨here, later⟩ := List.forall_mem_cons.mp reads
    have spread : [Token.comma].intercalate
        (value.tokens :: fieldTokens ((next, second) :: more)) ++ .closeObject :: rest =
        value.tokens ++ .comma :: .text next :: .colon ::
          ([.comma].intercalate (second.tokens :: fieldTokens more) ++ .closeObject :: rest) := by
      rw [fieldTokens, List.intercalate_cons_cons, intercalate_cons_cons_head,
        intercalate_cons_cons_head]
      simp
    have moved : done ++ (key, value) :: (next, second) :: more =
        (done ++ [(key, value)]) ++ (next, second) :: more := by simp
    rw [spread, here, readOn]
    by_cases old : key ∈ done.map (·.1)
    · rw [if_pos old]
      exact iff_of_false (fun both => nomatch both.2) fun both => fresh_of_nodup both.1.1 old
    · rw [if_neg old, ih later _ (nodup_snoc.mpr ⟨distinct, old⟩), moved,
        List.forall_mem_cons (a := (key, value))]
      tauto

theorem reads_object {fields : List (Text.Codes × Json)}
    (reads : ∀ field ∈ fields, Reads field.2) : Reads (.object fields) := by
  intro within rest found
  have distinct : (Json.object fields).Distinct ↔
      (fields.map (·.1)).Nodup ∧ ∀ field ∈ fields, field.2.Distinct :=
    ⟨fun | .object keys each => ⟨keys, each⟩, fun both => .object both.1 both.2⟩
  rw [distinct]
  cases fields with
  | nil => exact ⟨fun same => ⟨⟨.nil, nofun⟩, same⟩, And.right⟩
  | cons field more =>
    obtain ⟨key, value⟩ := field
    have spread : (Json.object ((key, value) :: more)).tokens ++ rest =
        .openObject :: .text key :: .colon ::
          ([.comma].intercalate (value.tokens :: fieldTokens more) ++ .closeObject :: rest) := by
      rw [tokens, fieldTokens, intercalate_cons_cons_head, intercalate_cons_cons_head]
      simp
    rw [spread, readValue, readValue_fields reads [] .nil, List.nil_append]

mutual

theorem reads : ∀ json : Json, Reads json
  | .integer value => fun _ _ _ => by
    rw [tokens, List.singleton_append, readValue]
    exact ⟨fun same => ⟨.integer value, same⟩, And.right⟩
  | .text value => fun _ _ _ => by
    rw [tokens, List.singleton_append, readValue]
    exact ⟨fun same => ⟨.text value, same⟩, And.right⟩
  | .array items => reads_array (reads_items items)
  | .object fields => reads_object (reads_fields fields)

theorem reads_items : ∀ items : List Json, ∀ item ∈ items, Reads item
  | [] => nofun
  | item :: rest => List.forall_mem_cons.mpr ⟨reads item, reads_items rest⟩

theorem reads_fields : ∀ fields : List (Text.Codes × Json), ∀ field ∈ fields, Reads field.2
  | [] => nofun
  | (_, value) :: rest => List.forall_mem_cons.mpr ⟨reads value, reads_fields rest⟩

end

/-- What is written in any layout is read as the value with its pairs joined, and as nothing else.
It is not read at all if an object then has a key twice. -/
theorem read?_write (json : Json) (layout : Layout) (depth : Nat) (found : Json) :
    read? (json.write layout depth) = some found ↔ json.reread.Distinct ∧ json.reread = found := by
  have spelled := spells_write layout depth json [] (by simp [Apart])
  have none : tokens? [] = some [] := by rw [tokens?]
  rw [List.append_nil, none, Option.map_some] at spelled
  rw [read?, spelled, Option.bind_some, reads, readOn, Option.some.injEq]

end Json

end MultisetSubstitution
