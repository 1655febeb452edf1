import MultisetSubstitution.Repetition

/-! Selecting items of a list by signed positions: those below zero count from the end. -/

set_option autoImplicit false

namespace MultisetSubstitution

def itemAt? {α : Type} (items : List α) (position : Int) : Option α :=
  let index := if position < 0 then position + items.length else position
  if index < 0 then none else items[index.toNat]?

inductive PositionFault where
  | noIndex
  | outOfRange
  deriving DecidableEq, Repr

def itemAt {α : Type} (items : List α) (position : Int) : Except PositionFault α :=
  if isIndex position then
    match itemAt? items position with
    | some item => .ok item
    | none => .error .outOfRange
  else .error .noIndex

/-- Positions from start to stop, the latter left out, at a distance that is not zero. Ends that
are not given are those of the list, in the direction of the steps. -/
structure Slice where
  start : Option Int
  stop : Option Int
  step : Option Int
  deriving DecidableEq, Repr

namespace Slice

def clip (length lowest highest : Int) (position : Int) : Int :=
  if position < 0 then max (position + length) lowest else min position highest

def stepCount (start stop step : Int) : Nat :=
  if 0 < step then ((stop - start + step - 1) / step).toNat
  else ((start - stop - step - 1) / -step).toNat

def select? {α : Type} (slice : Slice) (items : List α) : Option (List α) :=
  let step := slice.step.getD 1
  if step = 0 then none
  else
    let length : Int := items.length
    let (lowest, highest) := if 0 < step then (0, length) else (-1, length - 1)
    let (first, last) := if 0 < step then (lowest, highest) else (highest, lowest)
    let start := (slice.start.map (clip length lowest highest)).getD first
    let stop := (slice.stop.map (clip length lowest highest)).getD last
    let items := items.toArray
    some ((List.range (stepCount start stop step)).filterMap fun (count : Nat) =>
      items[(start + (count : Int) * step).toNat]?)

example : select? ⟨some (-2), none, none⟩ [1, 2, 3] = some [2, 3] := by decide +kernel

example : select? ⟨none, none, some (-2)⟩ [1, 2, 3, 4] = some [4, 2] := by decide +kernel

end Slice

end MultisetSubstitution
