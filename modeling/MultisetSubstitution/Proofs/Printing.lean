import Mathlib
import MultisetSubstitution.Proofs.Correspondence
import MultisetSubstitution.Proofs.Lines

/-! Printed results. The number of an entry stands after the last colon in it, whatever its name,
and no entry has a blank in it. So an entry is read off its text and a listing off its lines, and
results that look the same are the same. -/

set_option autoImplicit false

namespace MultisetSubstitution

namespace Text

theorem mem_toString {number : Int} {c : Char} (member : c ∈ (toString number).toList) :
    c = '-' ∨ c.isDigit = true := by
  have digits : ∀ n : Nat, c ∈ n.repr.toList → c.isDigit = true := by
    intro n inDigits
    rw [Nat.toList_repr] at inDigits
    exact Nat.isDigit_of_mem_toDigits (by decide) (by decide) inDigits
  rw [Int.toString_eq_repr, Int.repr_eq_if] at member
  split at member
  · exact .inr (digits _ member)
  · rw [String.toList_append, List.mem_append] at member
    exact member.imp List.mem_singleton.mp (digits _)

theorem isBlank_of_isDigit {c : Char} (digit : c.isDigit = true) : isBlank c = false := by
  have range : 48 ≤ c.toNat ∧ c.toNat ≤ 57 := by
    simpa [Char.isDigit, UInt32.le_iff_toNat_le] using digit
  simp only [isBlank, isBlankCode, Bool.or_eq_false_iff, Bool.and_eq_false_iff,
    decide_eq_false_iff_not, beq_eq_false_iff_ne]
  omega

end Text

namespace Vocabulary

variable {entry : String × Int}

/-- What stands after the last colon of an entry is its number. -/
theorem splitOn_entryText (entry : String × Int) :
    (entryText entry).toList.splitOn ':' =
      entry.1.toList.splitOn ':' ++ [(toString entry.2).toList] := by
  have plain : ':' ∉ (toString entry.2).toList := by
    intro member
    rcases Text.mem_toString member with minus | digit
    · exact absurd minus (by decide)
    · exact absurd digit (by decide)
  have colon : ":".toList = [':'] := rfl
  rw [entryText, String.toList_append, String.toList_append, colon, List.append_assoc,
    List.singleton_append, List.splitOn_append_cons_self, List.splitOn_eq_singleton plain]

theorem entryText_injective : Function.Injective entryText := by
  intro entry other same
  -- A name may hold colons, so the names are compared by all pieces but the last.
  have pieces := splitOn_entryText entry
  rw [same, splitOn_entryText other] at pieces
  obtain ⟨names, numbers⟩ := List.append_inj' pieces rfl
  have name := congrArg ([':'].intercalate ·) names
  simp only [List.intercalate_splitOn, String.toList_inj] at name
  have number : toString other.2 = toString entry.2 :=
    String.toList_inj.mp (List.singleton_inj.mp numbers)
  exact Prod.ext name.symm (Int.repr_injective number.symm)

theorem isName_entryText (named : isName entry.1 = true) : isName (entryText entry) = true := by
  obtain ⟨-, clean⟩ := isName_iff.mp named
  rw [isName_iff]
  constructor
  · simp [entryText]
  · intro c member
    rw [entryText, String.toList_append, String.toList_append, List.mem_append,
      List.mem_append] at member
    rcases member with (inName | colon) | inNumber
    · exact clean c inName
    · obtain rfl := List.mem_singleton.mp colon
      decide
    · rcases Text.mem_toString inNumber with rfl | digit
      · decide
      · exact Text.isBlank_of_isDigit digit

theorem isName_of_mem_listing {vocabulary : Vocabulary} {counts : Counts} {item : String}
    (member : item ∈ vocabulary.listing counts) : isName item = true := by
  obtain ⟨entry, kept, rfl⟩ := List.mem_map.mp member
  have name := (List.of_mem_zip (List.mem_of_mem_filter kept)).1
  exact isName_entryText (vocabulary.valid entry.1 name)

end Vocabulary

namespace Outcome

inductive ShownAlike : Outcome → Outcome → Prop
  | substituted {result again : Substituted} (listing : result.listing = again.listing) :
      ShownAlike (.substituted result) (.substituted again)
  | failure (fault other : Failure) : ShownAlike (.failure fault) (.failure other)

section

variable {outcome other : Outcome} {result : Substituted}

theorem lines_text (clean : ∀ item ∈ result.listing, isName item = true) :
    Text.lines (substituted result).text = result.listing :=
  Text.lines_joined (fun item member => (isName_iff.mp (clean item member)).1)
    fun item member => Text.unbroken_name (clean item member)

/-- The text of failures has blanks in it, but does not go over more than a line. -/
theorem text_ne_failureText (clean : ∀ item ∈ result.listing, isName item = true) :
    (substituted result).text ≠ failureText := by
  intro same
  have lines := lines_text clean
  have alone : Text.lines failureText = [failureText] := by decide +kernel
  rw [same, alone] at lines
  have named := clean failureText (lines ▸ List.mem_singleton_self failureText)
  exact absurd named (by decide +kernel)

theorem text_eq_failureText (clean : ∀ item ∈ outcome.items, isName item = true) :
    outcome.text = failureText ↔ ∃ fault, outcome = .failure fault := by
  cases outcome with
  | substituted result => simpa using text_ne_failureText clean
  | failure fault => exact ⟨fun _ => ⟨fault, rfl⟩, fun _ => rfl⟩

theorem text_eq_empty (clean : ∀ item ∈ outcome.items, isName item = true) :
    outcome.text = "" ↔ ∃ result, outcome = .substituted result ∧ result.listing = [] := by
  constructor
  · intro empty
    cases outcome with
    | substituted result =>
      have lines := lines_text clean
      rw [empty] at lines
      exact ⟨result, rfl, lines.symm⟩
    | failure fault =>
      have shown : failureText = "" := empty
      exact absurd shown (by decide +kernel)
  · rintro ⟨result, rfl, none⟩
    rw [text, none]
    rfl

theorem text_eq_iff (clean : ∀ item ∈ outcome.items, isName item = true)
    (otherClean : ∀ item ∈ other.items, isName item = true) :
    outcome.text = other.text ↔ outcome.ShownAlike other := by
  constructor
  · intro same
    cases outcome with
    | substituted result =>
      cases other with
      | substituted again =>
        refine .substituted ?_
        rw [← lines_text clean, same, lines_text otherClean]
      | failure fault => exact absurd same (text_ne_failureText clean)
    | failure fault =>
      cases other with
      | substituted again => exact absurd same.symm (text_ne_failureText otherClean)
      | failure another => exact .failure fault another
  · intro alike
    cases alike with
    | substituted listing => rw [text, text, listing]
    | failure fault another => rfl

end

end Outcome

namespace Engine

variable {engine : Engine} {tokens : List String} {traced : Bool} {around : Surroundings}
  {output : Output}

theorem isName_of_mem_items {outcome : Outcome}
    (came : engine.outcomeIn tokens traced around output = .ok outcome) :
    ∀ item ∈ outcome.items, isName item = true := by
  intro item member
  obtain ⟨rfl, -⟩ := outcomeIn_eq_ok.mp came
  rw [Engine.outcome] at member
  split at member
  · have listed : item ∈ engine.vocabulary.listing (engine.final tokens) := member
    exact Vocabulary.isName_of_mem_listing listed
  · exact absurd member List.not_mem_nil

theorem listing_eq_map {result : Substituted}
    (came : engine.outcomeIn tokens traced around output = .ok (.substituted result)) :
    result.listing = result.counts.map Vocabulary.entryText := by
  obtain ⟨ended, -⟩ := outcomeIn_eq_ok.mp came
  obtain ⟨-, rfl⟩ := substituted_eq_outcome.mp ended
  exact (engine.listed_result tokens traced).listing

/-- Printed results are unambiguous, whatever engines they come from. Results have one listing, and
are the same for that, exactly if they count the same names in the same order as often. Two outcomes
are printed as one text exactly if both are failures or both are results with one listing. The text
for failures is printed for nothing else, and only a result with nothing in it is printed as no
text. -/
theorem printed_unambiguous {first second : Engine} {tokens others : List String}
    {traced retraced : Bool} {around elsewhere : Surroundings} {output display : Output}
    {outcome other : Outcome}
    (came : first.outcomeIn tokens traced around output = .ok outcome)
    (otherCame : second.outcomeIn others retraced elsewhere display = .ok other) :
    (∀ result again, outcome = .substituted result → other = .substituted again →
      (result.listing = again.listing ↔ result.counts = again.counts) ∧
      (outcome.same other = true ↔ result.listing = again.listing)) ∧
    (outcome.text = other.text ↔ outcome.ShownAlike other) ∧
    (outcome.text = Outcome.failureText ↔ ∃ fault, outcome = .failure fault) ∧
    (outcome.text = "" ↔ ∃ result, outcome = .substituted result ∧ result.listing = []) := by
  have clean := isName_of_mem_items came
  refine ⟨?_, Outcome.text_eq_iff clean (isName_of_mem_items otherCame),
    Outcome.text_eq_failureText clean, Outcome.text_eq_empty clean⟩
  rintro result again rfl rfl
  constructor
  · rw [listing_eq_map came, listing_eq_map otherCame]
    exact (List.map_injective_iff.mpr Vocabulary.entryText_injective).eq_iff
  · exact beq_iff_eq

def bare (name : String) (valid : isName name = true) : Engine where
  rules := .empty ⟨[name], List.nodup_singleton name, by simpa using valid⟩

/-- A name that looks like an entry is not taken for the entry of a shorter name. -/
theorem printed_unambiguous_colon :
    ∃ result again,
      (bare "a" (by decide +kernel)).outcomeIn ["a"] false ⟨.collecting, some 4300⟩ {} =
        .ok (.substituted result) ∧
      (bare "a:1" (by decide +kernel)).outcomeIn ["a:1"] false ⟨.collecting, some 4300⟩ {} =
        .ok (.substituted again) ∧
      result.listing = ["a:1"] ∧ again.listing = ["a:1:1"] ∧
      (Outcome.substituted result).text ≠ (Outcome.substituted again).text := by
  have came : (bare "a" (by decide +kernel)).outcomeIn ["a"] false ⟨.collecting, some 4300⟩ {} =
      .ok (.substituted ((bare "a" (by decide +kernel)).result ["a"] false)) := rfl
  have cameAgain : (bare "a:1" (by decide +kernel)).outcomeIn ["a:1"] false
      ⟨.collecting, some 4300⟩ {} =
      .ok (.substituted ((bare "a:1" (by decide +kernel)).result ["a:1"] false)) := rfl
  obtain ⟨sameCounts, sameText, -, -⟩ := printed_unambiguous came cameAgain
  refine ⟨_, _, came, cameAgain, rfl, rfl, fun same => ?_⟩
  cases sameText.mp same with
  | substituted listing =>
    have counts := (sameCounts _ _ rfl rfl).1.mp listing
    exact absurd counts (by decide +kernel)

end Engine

end MultisetSubstitution
