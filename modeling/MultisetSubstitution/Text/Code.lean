import MultisetSubstitution.Text.Blank

/-! Texts as code points. Those of a string are characters; a text may also have halves of surrogate
pairs in it. -/

set_option autoImplicit false

namespace MultisetSubstitution.Text

abbrev Code := Fin 0x110000

abbrev Codes := List Code

theorem toNat_valid (c : Char) :
    c.toNat < 0xD800 ∨ 0xDFFF < c.toNat ∧ c.toNat < 0x110000 := c.valid

def code (c : Char) : Code := ⟨c.toNat, by have valid := toNat_valid c; omega⟩

def codes (text : String) : Codes := text.toList.map code

theorem code_injective : Function.Injective code := by
  intro first second same
  exact Char.toNat_inj.mp (Fin.mk.inj same)

theorem codes_injective : Function.Injective codes := by
  intro first second same
  exact String.toList_inj.mp (List.map_inj_right (fun _ _ same => code_injective same) |>.mp same)

/-- The first half of a surrogate pair. -/
def isHigh (n : Nat) : Bool := 0xD800 ≤ n && n < 0xDC00

/-- The second half of a surrogate pair. -/
def isLow (n : Nat) : Bool := 0xDC00 ≤ n && n < 0xE000

end MultisetSubstitution.Text
