import MultisetSubstitution.Proofs.Membership
import MultisetSubstitution.Proofs.Recognition

/-! Two readings of one text. The reader of rules takes it for a side, passes over blank pieces and
ends at a token that is no name; an engine counts the names in it, and reports every other piece.
Both see the same names, and what the first ends at is what the second reports of a token first. -/

set_option autoImplicit false

namespace MultisetSubstitution

namespace Rule

def sideReports (line : Option Int) : Except String Counts → List Record
  | .ok _ => []
  | .error token => [⟨.warn, (Rejection.unknown token).message line⟩]

def joinSides : Except String Counts → Except String Counts → Except String Counts
  | .error token, _ => .error token
  | .ok _, .error token => .error token
  | .ok counts, .ok more => .ok (counts.plus more)

theorem parseSide_gives (vocabulary : Vocabulary) (text : String) (line : Option Int) :
    (parseSide vocabulary text line).GivesWith line.toList (vocabulary.readSide text).toOption
      (sideReports line (vocabulary.readSide text)) := by
  rw [parseSide]
  cases vocabulary.readSide text with
  | ok counts => exact (Reporting.gives_perform (some counts) []).givesWith _
  | error token =>
    simp only [Rejection.report_bind]
    exact Reporting.givesWith_perform line.toList none _

end Rule

namespace Vocabulary

variable {vocabulary : Vocabulary} {text : String}

/-- A text is read up to its first token that is no name, also across a comma. -/
theorem readSide_append (vocabulary : Vocabulary) (text more : String) :
    vocabulary.readSide (text ++ "," ++ more) =
      Rule.joinSides (vocabulary.readSide text) (vocabulary.readSide more) := by
  cases read : vocabulary.readSide text with
  | error token =>
    rw [readSide_eq_error] at read
    rw [Rule.joinSides, readSide_eq_error, Text.tokens_append, List.find?_append, read,
      Option.some_or]
  | ok counts =>
    obtain ⟨named, rfl⟩ := readSide_eq_ok.mp read
    cases readMore : vocabulary.readSide more with
    | error token =>
      have none : (Text.tokens text).find? (· ∉ vocabulary.names) = none :=
        List.find?_eq_none.mpr fun token member => by simpa using named token member
      rw [readSide_eq_error] at readMore
      rw [Rule.joinSides, readSide_eq_error, Text.tokens_append, List.find?_append, none,
        Option.none_or, readMore]
    | ok others =>
      obtain ⟨othersNamed, rfl⟩ := readSide_eq_ok.mp readMore
      rw [Rule.joinSides, readSide_eq_ok, Text.tokens_append, tally_zeros_eq, tally_zeros_eq,
        tally_zeros_eq, List.map_append, occurrences_append]
      exact ⟨List.forall_mem_append.mpr ⟨named, othersNamed⟩, rfl⟩

theorem occurrences_tokens (vocabulary : Vocabulary) (text : String) :
    vocabulary.occurrences (Text.tokens text) =
      vocabulary.occurrences ((Text.commaPieces text).map Text.trim) := by
  apply List.map_congr_left
  intro name member
  have nonblank : name ≠ "" := ne_of_mem_of_not_mem member vocabulary.blank_not_mem
  rw [Text.tokens, List.count_filter (by simpa using nonblank)]

theorem unrecognized_of_named (named : ∀ token ∈ Text.tokens text, token ∈ vocabulary.names) :
    vocabulary.unrecognized (Text.commaPieces text) =
      ((Text.commaPieces text).map Text.trim).filter (· = "") := by
  apply List.filter_congr
  intro piece member
  rw [decide_eq_decide]
  constructor
  · intro unnamed
    by_contra nonblank
    exact unnamed (named piece (List.mem_filter.mpr ⟨member, by simpa using nonblank⟩))
  · rintro rfl
    exact vocabulary.blank_not_mem

theorem find?_unrecognized (vocabulary : Vocabulary) (text : String) :
    (vocabulary.unrecognized (Text.commaPieces text)).find? (· ≠ "") =
      (Text.tokens text).find? (· ∉ vocabulary.names) := by
  rw [unrecognized, Text.tokens, List.find?_filter, List.find?_filter]
  exact List.find?_congr fun piece _ => decide_eq_decide.mpr and_comm

end Vocabulary

namespace Engine

/-- What is read of a text as a side, and what an engine counts in it. All that it leaves out of a
text that is read is blank. -/
structure ReadsAs (engine : Engine) (text : String) (line : Option Int)
    (side : Except String Counts) : Prop where
  parsed : (Rule.parseSide engine.vocabulary text line).GivesWith line.toList side.toOption
    (Rule.sideReports line side)
  counted : (engine.count (Tokens.joined text).toList).Gives
    (engine.vocabulary.occurrences ((Text.commaPieces text).map Text.trim))
    ((engine.vocabulary.unrecognized (Text.commaPieces text)).map .omission)
  accepted : ∀ counts, side = .ok counts →
    counts = engine.vocabulary.occurrences ((Text.commaPieces text).map Text.trim) ∧
    engine.vocabulary.unrecognized (Text.commaPieces text) =
      ((Text.commaPieces text).map Text.trim).filter (· = "")
  refused : ∀ token, side = .error token →
    (engine.vocabulary.unrecognized (Text.commaPieces text)).find? (· ≠ "") = some token

theorem readsAs (engine : Engine) (text : String) (line : Option Int) :
    engine.ReadsAs text line (engine.vocabulary.readSide text) where
  parsed := Rule.parseSide_gives engine.vocabulary text line
  counted := engine.count_gives (Text.commaPieces text)
  accepted := by
    intro counts read
    obtain ⟨named, rfl⟩ := Vocabulary.readSide_eq_ok.mp read
    rw [Vocabulary.tally_zeros named, Vocabulary.occurrences_tokens]
    exact ⟨rfl, Vocabulary.unrecognized_of_named named⟩
  refused := by
    intro token refused
    rw [Vocabulary.find?_unrecognized]
    exact Vocabulary.readSide_eq_error.mp refused

/-- The reader of sides and the counting of tokens agree on every text. Texts with a comma between
them are read as the first of them that has a fault, or else as both counts, slot by slot. What is
read as a side is counted the same, with one report for each blank piece. Of what is refused the
names are counted, every other piece is reported, and the token that it was refused for is the first
of these that is not blank. -/
theorem sides_agree_with_counts (engine : Engine) (text more : String) (line : Option Int) :
    ∃ side other, engine.ReadsAs text line side ∧ engine.ReadsAs more line other ∧
      engine.ReadsAs (text ++ "," ++ more) line (Rule.joinSides side other) := by
  refine ⟨engine.vocabulary.readSide text, engine.vocabulary.readSide more,
    engine.readsAs text line, engine.readsAs more line, ?_⟩
  rw [← Vocabulary.readSide_append]
  exact engine.readsAs (text ++ "," ++ more) line

end Engine

end MultisetSubstitution
