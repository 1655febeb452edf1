import MultisetSubstitution.Proofs.Recounting

/-! What is read off the lines of rules: a side is read if its tokens are names, and counts these. A
line is read if it has two such sides that make a rule. -/

set_option autoImplicit false

namespace MultisetSubstitution

namespace Vocabulary

variable {vocabulary : Vocabulary}

theorem tally_cons_name {token : String} {id : Nat} {counts : Counts}
    (named : vocabulary.names[id]? = some token) (rest : List String) :
    vocabulary.tally counts (token :: rest) = vocabulary.tally (counts.increment id) rest := by
  have valid := vocabulary.valid token (List.mem_of_getElem? named)
  exact tally_cons_of_named (by rw [trim_name valid, id?_eq_some.mpr named])

theorem countPieces_eq_ok {pieces : List String} {counts after : Counts} :
    vocabulary.countPieces pieces counts = .ok after ↔
      (∀ token ∈ (pieces.map Text.trim).filter (· ≠ ""), token ∈ vocabulary.names) ∧
        after = vocabulary.tally counts ((pieces.map Text.trim).filter (· ≠ "")) := by
  -- A blank piece is no token, and a token that is no name ends the count.
  induction pieces generalizing counts with
  | nil => simp [countPieces, tally, eq_comm]
  | cons piece rest ih =>
    rw [countPieces, List.map_cons]
    by_cases blank : Text.trim piece = ""
    · rw [if_pos blank, ih, List.filter_cons_of_neg (by simp [blank])]
    · rw [if_neg blank, List.filter_cons_of_pos (by simpa using blank), List.forall_mem_cons]
      cases found : vocabulary.id? (Text.trim piece) with
      | none => simp [id?_eq_none.mp found]
      | some id =>
        have named := id?_eq_some.mp found
        simp only [ih, tally_cons_name named, List.mem_of_getElem? named, true_and]

/-- A side is read exactly if its tokens are names, and its counts are how often each occurs. -/
theorem readSide_eq_ok {text : String} {counts : Counts} :
    vocabulary.readSide text = .ok counts ↔
      (∀ token ∈ Text.tokens text, token ∈ vocabulary.names) ∧
        counts = vocabulary.tally vocabulary.zeros (Text.tokens text) :=
  countPieces_eq_ok

theorem countPieces_eq_error {pieces : List String} {counts : Counts} {token : String} :
    vocabulary.countPieces pieces counts = .error token ↔
      ((pieces.map Text.trim).filter (· ≠ "")).find? (· ∉ vocabulary.names) = some token := by
  induction pieces generalizing counts with
  | nil => simp [countPieces]
  | cons piece rest ih =>
    rw [countPieces, List.map_cons]
    by_cases blank : Text.trim piece = ""
    · rw [if_pos blank, ih, List.filter_cons_of_neg (by simp [blank])]
    · rw [if_neg blank, List.filter_cons_of_pos (by simpa using blank)]
      cases found : vocabulary.id? (Text.trim piece) with
      | none =>
        rw [List.find?_cons_of_pos (by simpa using id?_eq_none.mp found)]
        simp
      | some id =>
        have named := List.mem_of_getElem? (id?_eq_some.mp found)
        rw [List.find?_cons_of_neg (by simpa using named)]
        exact ih

theorem readSide_eq_error {text : String} {token : String} :
    vocabulary.readSide text = .error token ↔
      (Text.tokens text).find? (· ∉ vocabulary.names) = some token :=
  countPieces_eq_error

theorem readSide_of_tokens {text : String} {counts : Counts} (counted : vocabulary.Counted counts)
    (tokens : Text.tokens text = vocabulary.attributes counts) :
    vocabulary.readSide text = .ok counts := by
  rw [readSide_eq_ok, tokens, tally_attributes counted]
  exact ⟨fun _ => name_of_mem_attributes, rfl⟩

theorem mem_attributes {counts : Counts} {name : String}
    (member : name ∈ vocabulary.attributes counts) :
    ∃ id : Nat, ∃ count, vocabulary.names[id]? = some name ∧ counts[id]? = some count ∧
      0 < count := by
  obtain ⟨entry, inZip, copies⟩ := List.mem_flatMap.mp member
  obtain ⟨id, here⟩ := List.mem_iff_getElem?.mp inZip
  obtain ⟨named, counted⟩ := List.getElem?_zip_eq_some.mp here
  obtain ⟨some, rfl⟩ := List.mem_replicate.mp copies
  exact ⟨id, entry.2, named, counted, by omega⟩

theorem mem_tokens_of_readSide {text : String} {counts : Counts} {name : String}
    (read : vocabulary.readSide text = .ok counts) (member : name ∈ vocabulary.attributes counts) :
    name ∈ Text.tokens text := by
  obtain ⟨names, rfl⟩ := readSide_eq_ok.mp read
  obtain ⟨id, count, named, counted, positive⟩ := mem_attributes member
  have inside : id < vocabulary.size := (List.getElem?_eq_some_iff.mp named).1
  rw [getElem?_tally named, map_trim_of_names names, zeros, Counts.zeros,
    List.getElem?_replicate_of_lt inside] at counted
  -- Counts begin at zero, so what is counted comes from the tokens.
  have occurs : 0 < (Text.tokens text).count name := by
    simp only [Option.map_some, Option.some.injEq] at counted
    omega
  exact List.count_pos_iff.mp occurs

theorem le_length_of_readSide {text : String} {counts : Counts} {count : Int}
    (read : vocabulary.readSide text = .ok counts) (member : count ∈ counts) :
    count ≤ text.length + 1 := by
  obtain ⟨id, counted⟩ := List.mem_iff_getElem?.mp member
  have inside : id < vocabulary.size := by
    rw [← readSide_length read]
    exact (List.getElem?_eq_some_iff.mp counted).1
  obtain ⟨names, rfl⟩ := readSide_eq_ok.mp read
  have named : vocabulary.names[id]? = some vocabulary.names[id] := List.getElem?_eq_getElem inside
  rw [getElem?_tally named, map_trim_of_names names, zeros, Counts.zeros,
    List.getElem?_replicate_of_lt inside, Option.map_some, Option.some.injEq] at counted
  have few : (Text.tokens text).count vocabulary.names[id] ≤ (Text.tokens text).length :=
    List.count_le_length
  have room := Text.length_tokens_le text
  omega

end Vocabulary

namespace Rule

variable {vocabulary : Vocabulary}

theorem readSides_eq_ok {left right : String} {line : Option Int} {rule : Rule} :
    readSides vocabulary left right line = .ok rule ↔
      vocabulary.readSide left = .ok rule.inputs ∧ vocabulary.readSide right = .ok rule.outputs ∧
        rule.line = line := by
  constructor
  · intro read
    unfold readSides at read
    split at read
    · cases read
    · rename_i leftRead
      split at read
      · split at read
        · cases read
        · rename_i rightRead
          split at read
          · cases read
            exact ⟨leftRead, rightRead, rfl⟩
          · cases read
      · cases read
  · rintro ⟨leftRead, rightRead, rfl⟩
    unfold readSides
    split
    · rename_i leftFault
      cases leftRead.symm.trans leftFault
    · rename_i inputs leftSame
      obtain rfl : inputs = rule.inputs := Except.ok.inj (leftSame.symm.trans leftRead)
      rw [dif_pos rule.consumes]
      split
      · rename_i rightFault
        cases rightRead.symm.trans rightFault
      · rename_i outputs rightSame
        obtain rfl : outputs = rule.outputs := Except.ok.inj (rightSame.symm.trans rightRead)
        rw [dif_pos rule.changes]

section

variable {left right token : String} {line : Option Int} {inputs : Counts}

theorem readSides_of_unknown_left (unknown : vocabulary.readSide left = .error token) :
    readSides vocabulary left right line = .error (.unknown token) := by
  unfold readSides
  split <;> simp_all

theorem readSides_of_no_input (leftRead : vocabulary.readSide left = .ok inputs)
    (none : inputs.isZero = true) :
    readSides vocabulary left right line = .error .noInput := by
  unfold readSides
  split <;> simp_all

theorem readSides_of_unknown_right (leftRead : vocabulary.readSide left = .ok inputs)
    (some : inputs.isZero = false) (unknown : vocabulary.readSide right = .error token) :
    readSides vocabulary left right line = .error (.unknown token) := by
  unfold readSides
  split
  · simp_all
  · split
    · split <;> simp_all
    · simp_all

theorem readSides_of_unchanged (leftRead : vocabulary.readSide left = .ok inputs)
    (some : inputs.isZero = false) (rightRead : vocabulary.readSide right = .ok inputs) :
    readSides vocabulary left right line = .error .unchanged := by
  unfold readSides
  split
  · simp_all
  · split
    · split <;> simp_all
    · simp_all

theorem readSides_of_changed {outputs : Counts} (leftRead : vocabulary.readSide left = .ok inputs)
    (some : inputs.isZero = false) (rightRead : vocabulary.readSide right = .ok outputs)
    (changes : inputs ≠ outputs) (line : Option Int) :
    ∃ rule, readSides vocabulary left right line = .ok rule ∧
      rule.inputs = inputs ∧ rule.outputs = outputs ∧ rule.line = line := by
  let rule : Rule := {
    inputs, outputs, line, changes
    consumes := some
    sameLength :=
      (Vocabulary.readSide_length leftRead).trans (Vocabulary.readSide_length rightRead).symm
    inputsNonnegative := Vocabulary.readSide_nonnegative leftRead
    outputsNonnegative := Vocabulary.readSide_nonnegative rightRead }
  exact ⟨rule, readSides_eq_ok.mpr ⟨leftRead, rightRead, rfl⟩, rfl, rfl, rfl⟩

end

theorem read_eq_some {text : String} {line : Option Int} {rule : Rule} :
    read vocabulary text line = .ok (some rule) ↔
      Text.isSkipped text = false ∧ rule.line = line ∧
        ∃ left right, Text.arrowPieces text = [left, right] ∧
          vocabulary.readSide left = .ok rule.inputs ∧
          vocabulary.readSide right = .ok rule.outputs := by
  rw [read]
  cases skipped : Text.isSkipped text with
  | true => simp
  | false =>
    simp only [Bool.false_eq_true, if_false, true_and]
    constructor
    · intro found
      split at found
      · rename_i left right pieces
        cases sides : readSides vocabulary left right line with
        | error rejection =>
          rw [sides] at found
          exact nomatch found
        | ok other =>
          rw [sides] at found
          obtain rfl : other = rule := Option.some.inj (Except.ok.inj found)
          obtain ⟨leftRead, rightRead, same⟩ := readSides_eq_ok.mp sides
          exact ⟨same, left, right, pieces, leftRead, rightRead⟩
      · exact nomatch found
    · rintro ⟨same, left, right, pieces, leftRead, rightRead⟩
      simp only [pieces]
      rw [readSides_eq_ok.mpr ⟨leftRead, rightRead, same⟩]
      rfl

theorem le_length_of_read {text : String} {line : Option Int} {rule : Rule} {count : Int}
    (found : read vocabulary text line = .ok (some rule))
    (member : count ∈ rule.inputs ∨ count ∈ rule.outputs) : count ≤ text.length := by
  obtain ⟨_, _, left, right, pieces, leftRead, rightRead⟩ := read_eq_some.mp found
  have whole : left.length + right.length + 2 = text.length := by
    have arrow : Text.arrow.length = 2 := rfl
    rw [(Text.arrowPieces_eq_pair.mp pieces).1, String.length_append, String.length_append]
    omega
  rcases member with input | output
  · have few := Vocabulary.le_length_of_readSide leftRead input
    omega
  · have few := Vocabulary.le_length_of_readSide rightRead output
    omega

end Rule

end MultisetSubstitution
