import MultisetSubstitution.Json

/-! Reading JSON. The reader is strict: it takes no text but one value with blanks around its
tokens, no number with a leading zero, no object with a key twice, and no string with a control
character in it. The halves of a surrogate pair are joined, and half of one is read as it is. There
is no value for a fraction, an exponent or one of the three literals, so these are not read. -/

set_option autoImplicit false

namespace MultisetSubstitution.Json

inductive Token where
  | openArray
  | closeArray
  | openObject
  | closeObject
  | comma
  | colon
  | text (value : Text.Codes)
  | integer (value : Int)
  deriving DecidableEq, Repr

def isGap (c : Char) : Bool := c = ' ' || c = '\n' || c = '\r' || c = '\t'

def mark? : Char → Option Token
  | '[' => some .openArray
  | ']' => some .closeArray
  | '\x7b' => some .openObject
  | '\x7d' => some .closeObject
  | ',' => some .comma
  | ':' => some .colon
  | _ => none

/-- The digits that a text begins with as a number, and what follows them. A number of more than one
digit does not begin with a zero. -/
def natural? (cs : List Char) : Option (Nat × List Char) :=
  match cs.takeWhile Char.isDigit with
  | [] => none
  | '0' :: _ :: _ => none
  | digits => some (Nat.ofDigitChars 10 digits 0, cs.dropWhile Char.isDigit)

def integer? : List Char → Option (Int × List Char)
  | '-' :: rest => (natural? rest).map (Prod.map (fun value : Nat => -(value : Int)) id)
  | cs => (natural? cs).map (Prod.map Int.ofNat id)

def hexDigit? (c : Char) : Option Nat :=
  if c.isDigit then some (c.toNat - 0x30)
  else if 'a' ≤ c && c ≤ 'f' then some (c.toNat - 0x57)
  else if 'A' ≤ c && c ≤ 'F' then some (c.toNat - 0x37)
  else none

def hexValue? (digits : List Char) : Option Nat :=
  digits.foldlM (fun value c => (hexDigit? c).map (16 * value + ·)) 0

def escaped? : Char → Option Nat
  | '"' => some 0x22
  | '\\' => some 0x5C
  | '/' => some 0x2F
  | 'b' => some 0x8
  | 'f' => some 0xC
  | 'n' => some 0xA
  | 'r' => some 0xD
  | 't' => some 0x9
  | _ => none

/-- The units of a string up to its closing quote, and what follows that. An escape may give half of
a surrogate pair. -/
def units? : List Char → Option (List Nat × List Char)
  | [] => none
  | '"' :: rest => some ([], rest)
  | '\\' :: 'u' :: a :: b :: c :: d :: rest =>
    (hexValue? [a, b, c, d]).bind fun unit => (units? rest).map (Prod.map (unit :: ·) id)
  | '\\' :: c :: rest =>
    (escaped? c).bind fun unit => (units? rest).map (Prod.map (unit :: ·) id)
  | c :: rest =>
    if c.toNat < 0x20 then none
    else (units? rest).map (Prod.map (c.toNat :: ·) id)

/-- The codes of units. Two halves of a surrogate pair give one code together. -/
def joined : List Nat → Text.Codes
  | [] => []
  | [unit] => [Fin.ofNat _ unit]
  | first :: second :: rest =>
    if Text.isHigh first && Text.isLow second then
      Fin.ofNat _ (0x10000 + (first - 0xD800) * 0x400 + (second - 0xDC00)) :: joined rest
    else Fin.ofNat _ first :: joined (second :: rest)

def string? (cs : List Char) : Option (Text.Codes × List Char) :=
  (units? cs).map (Prod.map joined id)

def token? : List Char → Option (Token × List Char)
  | [] => none
  | c :: rest =>
    match mark? c with
    | some token => some (token, rest)
    | none =>
      if c = '"' then (string? rest).map (Prod.map .text id)
      else (integer? (c :: rest)).map (Prod.map .integer id)

theorem of_map_read {α β : Type} {make : α → β} {read : Option (α × List Char)} {made : β}
    {after : List Char} (found : read.map (Prod.map make id) = some (made, after)) :
    ∃ value, read = some (value, after) := by
  obtain ⟨⟨value, rest⟩, same, pair⟩ := Option.map_eq_some_iff.mp found
  obtain ⟨-, rfl⟩ := Prod.mk.inj pair
  exact ⟨value, same⟩

theorem natural?_shortens {cs after : List Char} {value : Nat}
    (read : natural? cs = some (value, after)) : after.length < cs.length := by
  have whole := congrArg List.length (List.takeWhile_append_dropWhile (p := Char.isDigit) (l := cs))
  rw [List.length_append] at whole
  rw [natural?] at read
  split at read
  · exact nomatch read
  · exact nomatch read
  · rename_i some _
    have rest : cs.dropWhile Char.isDigit = after := (Prod.mk.inj (Option.some.inj read)).2
    have positive := List.length_pos_iff.mpr some
    rw [← rest]
    omega

theorem integer?_shortens {cs after : List Char} {value : Int}
    (read : integer? cs = some (value, after)) : after.length < cs.length := by
  unfold integer? at read
  split at read
  · obtain ⟨number, digits⟩ := of_map_read read
    exact Nat.lt_succ_of_lt (natural?_shortens digits)
  · obtain ⟨number, digits⟩ := of_map_read read
    exact natural?_shortens digits

theorem units?_shortens {cs after : List Char} {units : List Nat}
    (read : units? cs = some (units, after)) : after.length < cs.length := by
  fun_induction units? cs generalizing units with
  | case1 => exact nomatch read
  | case2 rest =>
    obtain ⟨-, rfl⟩ := Prod.mk.inj (Option.some.inj read)
    exact Nat.lt_succ_self _
  | case3 a b c d rest ih =>
    obtain ⟨code, -, found⟩ := Option.bind_eq_some_iff.mp read
    obtain ⟨others, later⟩ := of_map_read found
    exact Nat.lt_trans (ih later) (by simp only [List.length_cons]; omega)
  | case4 c rest _ ih =>
    obtain ⟨code, -, found⟩ := Option.bind_eq_some_iff.mp read
    obtain ⟨others, later⟩ := of_map_read found
    exact Nat.lt_trans (ih later) (by simp only [List.length_cons]; omega)
  | case5 => exact nomatch read
  | case6 c rest _ _ _ _ ih =>
    obtain ⟨others, later⟩ := of_map_read read
    exact Nat.lt_succ_of_lt (ih later)

theorem string?_shortens {cs after : List Char} {value : Text.Codes}
    (read : string? cs = some (value, after)) : after.length < cs.length := by
  obtain ⟨units, found⟩ := of_map_read read
  exact units?_shortens found

theorem token?_shortens {cs after : List Char} {token : Token}
    (read : token? cs = some (token, after)) : after.length < cs.length := by
  cases cs with
  | nil => exact nomatch read
  | cons c rest =>
    rw [token?] at read
    split at read
    · obtain ⟨-, rfl⟩ := Prod.mk.inj (Option.some.inj read)
      exact Nat.lt_succ_self _
    · split at read
      · obtain ⟨value, found⟩ := of_map_read read
        exact Nat.lt_succ_of_lt (string?_shortens found)
      · obtain ⟨value, found⟩ := of_map_read read
        exact integer?_shortens found

def tokens? : List Char → Option (List Token)
  | [] => some []
  | c :: rest =>
    if isGap c then tokens? rest
    else
      match read : token? (c :: rest) with
      | none => none
      | some (token, after) =>
        have := token?_shortens read
        (tokens? after).map (token :: ·)
  termination_by cs => cs.length
  decreasing_by
    · exact Nat.lt_succ_self _
    · exact this

inductive Unfinished where
  | array (items : List Json)
  | object (fields : List (Text.Codes × Json)) (key : Text.Codes)

mutual

/-- Read a value within others that are not finished, the innermost of them first. -/
def readValue (within : List Unfinished) : List Token → Option Json
  | .integer value :: rest => readOn (.integer value) within rest
  | .text value :: rest => readOn (.text value) within rest
  | .openArray :: .closeArray :: rest => readOn (.array []) within rest
  | .openArray :: rest => readValue (.array [] :: within) rest
  | .openObject :: .closeObject :: rest => readOn (.object []) within rest
  | .openObject :: .text key :: .colon :: rest => readValue (.object [] key :: within) rest
  | _ => none

/-- Go on after a value. A key is not put into an object that has it. -/
def readOn (value : Json) : List Unfinished → List Token → Option Json
  | [], [] => some value
  | .array items :: within, .comma :: rest => readValue (.array (items ++ [value]) :: within) rest
  | .array items :: within, .closeArray :: rest => readOn (.array (items ++ [value])) within rest
  | .object fields key :: within, .comma :: .text next :: .colon :: rest =>
    if key ∈ fields.map (·.1) then none
    else readValue (.object (fields ++ [(key, value)]) next :: within) rest
  | .object fields key :: within, .closeObject :: rest =>
    if key ∈ fields.map (·.1) then none
    else readOn (.object (fields ++ [(key, value)])) within rest
  | _, _ => none

end

def read? (text : String) : Option Json := (tokens? text.toList).bind (readValue [])

example : (read? "[1,]").isNone ∧ (read? "01").isNone := by decide +kernel

end MultisetSubstitution.Json
