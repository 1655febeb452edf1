/-! Texts in UTF-8: decoding bytes, and the place where bytes stop being the encoding of a text. -/

set_option autoImplicit false

namespace MultisetSubstitution.Text.Utf8

inductive Reason where
  | start
  | continuation
  | ended
  deriving DecidableEq, Repr

structure Fault where
  position : Nat
  first : UInt8
  length : Nat
  reason : Reason
  deriving DecidableEq, Repr

/-- For the first byte of a character, how many bytes follow it, and the least and the greatest
value of the one that follows next. -/
def following? (lead : UInt8) : Option (Nat × UInt8 × UInt8) :=
  if lead < 0x80 then some (0, 0x80, 0xBF)
  else if lead < 0xC2 then none
  else if lead < 0xE0 then some (1, 0x80, 0xBF)
  else if lead == 0xE0 then some (2, 0xA0, 0xBF)
  else if lead == 0xED then some (2, 0x80, 0x9F)
  else if lead < 0xF0 then some (2, 0x80, 0xBF)
  else if lead == 0xF0 then some (3, 0x90, 0xBF)
  else if lead < 0xF4 then some (3, 0x80, 0xBF)
  else if lead == 0xF4 then some (3, 0x80, 0x8F)
  else none

structure Unfinished where
  position : Nat
  lead : UInt8
  seen : Nat
  missing : Nat
  least : UInt8
  greatest : UInt8

/-- Look for the first fault from a position on, perhaps within a character. Where bytes run out
between characters there is nothing at fault but the end itself. -/
def faultFrom (position : Nat) : Option Unfinished → List UInt8 → Fault
  | none, [] => ⟨position, 0, 0, .ended⟩
  | some character, [] => ⟨character.position, character.lead, character.seen, .ended⟩
  | none, byte :: rest =>
    match following? byte with
    | none => ⟨position, byte, 1, .start⟩
    | some (0, _, _) => faultFrom (position + 1) none rest
    | some (missing, least, greatest) =>
      faultFrom (position + 1) (some ⟨position, byte, 1, missing, least, greatest⟩) rest
  | some character, byte :: rest =>
    if character.least ≤ byte && byte ≤ character.greatest then
      if character.missing ≤ 1 then faultFrom (position + 1) none rest
      else
        faultFrom (position + 1)
          (some ⟨character.position, character.lead, character.seen + 1, character.missing - 1,
            0x80, 0xBF⟩) rest
    else ⟨character.position, character.lead, character.seen, .continuation⟩

def decode (bytes : ByteArray) : Except Fault String :=
  match String.fromUTF8? bytes with
  | some text => .ok text
  | none => .error (faultFrom 0 none bytes.data.toList)

end MultisetSubstitution.Text.Utf8
