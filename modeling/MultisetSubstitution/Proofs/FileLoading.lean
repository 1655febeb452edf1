import MultisetSubstitution.Files.Tree
import MultisetSubstitution.Proofs.Loading
import MultisetSubstitution.Tables

/-! Loading from files. The bytes of a text are read back to that text but for the characters that
end its lines, and these stay the ends of the same lines. So a file is loaded as its text is. -/

set_option autoImplicit false

namespace MultisetSubstitution

namespace Text

/-- To write all line ends in the same way moves none of them: a carriage return that is left alone
ends a line as a line feed does. -/
theorem lineChars_unifyLineEnds (cs : List Char) : lineChars (unifyLineEnds cs) = lineChars cs := by
  fun_induction unifyLineEnds cs with
  | case1 => rfl
  | case2 rest ih => exact congrArg ([] :: ·) ih
  | case3 c rest single ih =>
    have alone : ∀ others, c = '\r' → rest ≠ '\n' :: others := single
    rw [lineChars_cons alone]
    by_cases returns : c = '\r'
    · subst returns
      exact congrArg ([] :: ·) ih
    · rw [if_neg returns, lineChars_cons fun _ same => absurd same returns, ih]

theorem lines_unifyLineEnds (text : String) :
    lines (.ofList (unifyLineEnds text.toList)) = lines text := by
  rw [lines, String.toList_ofList, lineChars_unifyLineEnds, lines]

theorem Utf8.decode_toUTF8 (text : String) : Utf8.decode text.toUTF8 = .ok text := by
  have found : String.fromUTF8? text.toUTF8 = some text := by
    rw [String.fromUTF8?, dif_pos (show text.toUTF8.IsValidUTF8 from text.isValidUTF8)]
    rfl
  rw [Utf8.decode, found]

end Text

def FileReader.Holds (reader : FileReader) (path text : String) : Prop :=
  reader (Path.ofText path) = .ok text.toUTF8

instance (reader : FileReader) (path text : String) : Decidable (reader.Holds path text) :=
  inferInstanceAs (Decidable (reader (Path.ofText path) = .ok text.toUTF8))

theorem FileReader.Holds.text_eq {reader : FileReader} {path text : String}
    (holds : reader.Holds path text) :
    reader.text path = .ok (.ofList (Text.unifyLineEnds text.toList)) := by
  rw [FileReader.text, holds, Except.bind, Files.textOfBytes, Text.Utf8.decode_toUTF8]

section

variable {reader : FileReader} {path : String}

theorem load_of_text {text : String} (found : reader.text path = .ok text) :
    reader.load path = pure text := by
  unfold FileReader.load
  rw [found]
  rfl

theorem load_of_fault {fault : Files.Fault} (lost : reader.text path = .error fault) :
    reader.load path = throw (.unreadable fault) := by
  unfold FileReader.load
  rw [lost]
  rfl

theorem Vocabulary.ofFile_of_text {text : String} (found : reader.text path = .ok text) :
    Vocabulary.ofFile reader path = Reporting.mapFailure .obstacle (Vocabulary.ofText text) := by
  rw [Vocabulary.ofFile, load_of_text found, pure_bind]

theorem RuleSet.ofFile_of_text {text : String} (found : reader.text path = .ok text)
    (vocabulary : Vocabulary) :
    RuleSet.ofFile reader vocabulary path =
      Reporting.mapFailure .obstacle (RuleSet.ofText vocabulary text) := by
  rw [RuleSet.ofFile, load_of_text found, pure_bind]

theorem FileReader.Holds.vocabulary {text : String} (holds : reader.Holds path text) :
    Vocabulary.ofFile reader path = Reporting.mapFailure .obstacle (Vocabulary.ofText text) := by
  rw [Vocabulary.ofFile_of_text holds.text_eq, Vocabulary.ofText, Text.lines_unifyLineEnds,
    Vocabulary.ofText]

theorem FileReader.Holds.ruleSet {text : String} (holds : reader.Holds path text)
    (vocabulary : Vocabulary) :
    RuleSet.ofFile reader vocabulary path =
      Reporting.mapFailure .obstacle (RuleSet.ofText vocabulary text) := by
  rw [RuleSet.ofFile_of_text holds.text_eq, RuleSet.ofText, Text.lines_unifyLineEnds,
    RuleSet.ofText]

end

namespace Engine

def overTexts (names table : String) (verbose : Bool) (limit : Int) : Engine :=
  ⟨RuleSet.loaded (Vocabulary.loaded names) table, verbose, limit⟩

/-- What is reported of the two texts, of the names before the rules. -/
def textReports (names table : String) : List Record :=
  Vocabulary.empty.refusals (Text.lines names) ++
    RuleSet.rejectionsFrom (Vocabulary.loaded names) 1 (Text.lines table)

def headRecords (engine : Engine) : List Record := engine.tableHead.map (⟨.log, ·⟩)

def tableRecords (engine : Engine) : List Record :=
  engine.headRecords ++ engine.rules.descriptions.map fun text => ⟨.log, "  " ++ text⟩

theorem ofTables_eq_ite (rules : RuleSet) (verbose : Bool) (limit : Int) :
    ofTables rules.vocabulary rules verbose limit =
      if limit < 1 then .error (.limit limit) else .ok ⟨rules, verbose, limit⟩ := by
  rw [ofTables, if_neg (not_not.mpr rfl)]

theorem runWith_logAll {around : Surroundings} (accepting : around.sink.Accepting)
    (messages : List String) (output : Output) :
    (messages.forM Reporting.log).runWith around output =
      (.ok (), around.sink.deliverAll (messages.map (⟨.log, ·⟩)) output) := by
  have told : messages.map (fun message => Effect.tell ⟨.log, message⟩) =
      (messages.map (⟨.log, ·⟩)).map .tell := (List.map_map).symm
  rw [Reporting.logAll_eq_perform, told, Reporting.runWith_perform (Effect.clear_tells accepting _),
    Effect.records_map_tell]

theorem runWith_logTables (engine : Engine) {around : Surroundings}
    (accepting : around.sink.Accepting) (output : Output) :
    engine.logTables.runWith around output =
      if engine.rules.numbers.all (Text.fits around.digits) then
        (.ok (), around.sink.deliverAll engine.tableRecords output)
      else (.error .longNumber, around.sink.deliverAll engine.headRecords output) := by
  rw [logTables, Reporting.runWith_bind, runWith_logAll accepting]
  dsimp only
  rw [Reporting.runWith_bind, Reporting.runWith_write_eq]
  by_cases fits : engine.rules.numbers.all (Text.fits around.digits) = true
  · rw [if_pos fits, if_pos fits, tableRecords, Sink.deliverAll_append]
    dsimp only
    rw [runWith_logAll accepting, List.map_map]
    rfl
  · rw [if_neg fits, if_neg fits]
    rfl

/-- What comes of loading an engine: its tables may be logged, and it is there unless that is broken
off. -/
def loadedWith (engine : Engine) (dump : Bool) (digits : Option Nat) :
    Except LoadFault Engine × List Record :=
  if dump then
    if engine.rules.numbers.all (Text.fits digits) then (.ok engine, engine.tableRecords)
    else (.error (.obstacle .longNumber), engine.headRecords)
  else (.ok engine, [])

theorem loadedWith_fst (engine : Engine) (dump : Bool) (digits : Option Nat) :
    (engine.loadedWith dump digits).1 = .ok engine ∨
      (engine.loadedWith dump digits).1 = .error (.obstacle .longNumber) ∧ dump = true ∧
        ¬ engine.rules.numbers.all (Text.fits digits) = true := by
  unfold loadedWith
  split
  · rename_i dumped
    split
    · exact .inl rfl
    · rename_i long
      exact .inr ⟨rfl, dumped, long⟩
  · exact .inl rfl

theorem runWith_ofFiles {reader : FileReader} {attributes rules names table : String}
    (first : reader.text attributes = .ok names) (second : reader.text rules = .ok table)
    (dump verbose : Bool) (limit : Int) {around : Surroundings}
    (accepting : around.sink.Accepting) (output : Output) :
    (ofFiles reader attributes rules dump verbose limit).runWith around output =
      if limit < 1 then
        (.error (.engine (.limit limit)),
          around.sink.deliverAll (textReports names table) output)
      else
        let loaded := (overTexts names table verbose limit).loadedWith dump around.digits
        (loaded.1, around.sink.deliverAll (textReports names table ++ loaded.2) output) := by
  rw [ofFiles, Vocabulary.ofFile_of_text first, Reporting.runWith_bind,
    Reporting.runWith_mapFailure_ok _ (Vocabulary.runWith_ofText accepting names output)]
  dsimp only
  rw [RuleSet.ofFile_of_text second, Reporting.runWith_bind,
    Reporting.runWith_mapFailure_ok _ (RuleSet.runWith_ofText accepting _ table _)]
  dsimp only
  have made : ofTables (Vocabulary.loaded names) (RuleSet.loaded (Vocabulary.loaded names) table)
      verbose limit =
        if limit < 1 then .error (.limit limit) else .ok (overTexts names table verbose limit) :=
    ofTables_eq_ite (RuleSet.loaded (Vocabulary.loaded names) table) verbose limit
  have reported : around.sink.deliverAll
      (RuleSet.rejectionsFrom (Vocabulary.loaded names) 1 (Text.lines table))
        (around.sink.deliverAll (Vocabulary.empty.refusals (Text.lines names)) output) =
      around.sink.deliverAll (textReports names table) output :=
    (around.sink.deliverAll_append _ _ output).symm
  rw [made, reported]
  by_cases low : limit < 1
  · rw [if_pos low, if_pos low]
    rfl
  · rw [if_neg low, if_neg low]
    cases dump with
    | false =>
      simp only [loadedWith, Bool.false_eq_true, if_false, List.append_nil]
      rfl
    | true =>
      simp only [loadedWith, if_true]
      rw [Reporting.runWith_bind, Reporting.runWith_mapFailure, runWith_logTables _ accepting]
      by_cases fits :
          (overTexts names table verbose limit).rules.numbers.all (Text.fits around.digits) = true
      · simp only [if_pos fits]
        rw [Sink.deliverAll_append]
        rfl
      · simp only [if_neg fits]
        rw [Sink.deliverAll_append]
        rfl

theorem textReports_warn {names table : String} {record : Record}
    (member : record ∈ textReports names table) : record.level = .warn := by
  rcases List.mem_append.mp member with early | late
  · exact Vocabulary.refusals_warn early
  · exact RuleSet.rejectionsFrom_warn late

/-- A file is loaded as the text whose encoding it holds, to the same table with the same reports,
wherever these go. From two files comes the engine over the two tables, and what is reported of the
names is reported before what is reported of the rules. If the tables are logged, they are logged
after that, and a number in the rules that is too long to be written breaks it off. -/
theorem files_load_as_texts (reader : FileReader) :
    (∀ path text, reader.Holds path text →
      Vocabulary.ofFile reader path = Reporting.mapFailure .obstacle (Vocabulary.ofText text) ∧
      ∀ vocabulary, RuleSet.ofFile reader vocabulary path =
        Reporting.mapFailure .obstacle (RuleSet.ofText vocabulary text)) ∧
    ∀ attributes rules names table, reader.Holds attributes names → reader.Holds rules table →
      ∃ vocabulary set warnings others,
        (∀ record ∈ warnings ++ others, record.level = .warn) ∧
        ∀ around : Surroundings, around.sink.Accepting → ∀ output,
          (Vocabulary.ofText names).runWith around output =
            (.ok vocabulary, around.sink.deliverAll warnings output) ∧
          (RuleSet.ofText vocabulary table).runWith around output =
            (.ok set, around.sink.deliverAll others output) ∧
          ∀ dump verbose limit,
            (ofFiles reader attributes rules dump verbose limit).runWith around output =
              if limit < 1 then
                (.error (.engine (.limit limit)),
                  around.sink.deliverAll (warnings ++ others) output)
              else
                let loaded := loadedWith ⟨set, verbose, limit⟩ dump around.digits
                (loaded.1, around.sink.deliverAll (warnings ++ others ++ loaded.2) output) := by
  refine ⟨fun path text holds => ⟨holds.vocabulary, holds.ruleSet⟩, ?_⟩
  intro attributes rules names table first second
  refine ⟨Vocabulary.loaded names, RuleSet.loaded (Vocabulary.loaded names) table, _, _,
    fun record => textReports_warn, fun around accepting output =>
      ⟨Vocabulary.runWith_ofText accepting names output,
        RuleSet.runWith_ofText accepting _ table output, fun dump verbose limit => ?_⟩⟩
  have ran := runWith_ofFiles first.text_eq second.text_eq dump verbose limit accepting output
  simp only [overTexts, textReports, Vocabulary.loaded, RuleSet.loaded,
    Text.lines_unifyLineEnds] at ran
  exact ran

def twoFiles : FileReader := Files.Tree.bytes ⟨[
  (["names"], .file "\ufeffice\r\nwater\r\rwater".toUTF8),
  (["rules"], .file "\n\rice -> water\u2028\ufeffice -> water\r\n".toUTF8)]⟩

theorem files_load_as_texts_twoFiles :
    twoFiles.Holds "names" "\ufeffice\r\nwater\r\rwater" ∧
    twoFiles.Holds "rules" "\n\rice -> water\u2028\ufeffice -> water\r\n" ∧
    ∃ set output, (ofFiles twoFiles "names" "rules" false false 9).runWith ⟨.collecting, none⟩ {} =
        (.ok ⟨set, false, 9⟩, output) ∧
      set.vocabulary.names = ["\ufeffice", "water"] ∧ set.rules.map Rule.line = [some 4] ∧
      output.records = #[⟨.warn, "Duplicate entry `water`."⟩,
        ⟨.warn, "Unrecognized attribute `ice` on line 3."⟩] := by
  have first : twoFiles.Holds "names" "\ufeffice\r\nwater\r\rwater" := by decide +kernel
  have second : twoFiles.Holds "rules" "\n\rice -> water\u2028\ufeffice -> water\r\n" := by
    decide +kernel
  obtain ⟨vocabulary, set, warnings, others, -, loads⟩ :=
    (files_load_as_texts twoFiles).2 "names" "rules" _ _ first second
  have ran := ((loads ⟨.collecting, none⟩ Sink.accepting_collecting {}).2.2 false false 9).trans
    (if_neg (by decide))
  have known :
      ((ofFiles twoFiles "names" "rules" false false 9).runWith ⟨.collecting, none⟩ {}).1.map
        (fun engine => (engine.vocabulary.names, engine.rules.rules.map Rule.line)) =
          .ok (["\ufeffice", "water"], [some 4]) ∧
      ((ofFiles twoFiles "names" "rules" false false 9).runWith ⟨.collecting, none⟩ {}).2.records =
        #[⟨.warn, "Duplicate entry `water`."⟩,
          ⟨.warn, "Unrecognized attribute `ice` on line 3."⟩] := by
    decide +kernel
  rw [ran] at known
  obtain ⟨tables, reported⟩ := known
  obtain ⟨names, lines⟩ := Prod.mk.inj (Except.ok.inj tables)
  exact ⟨first, second, set, _, ran, names, lines, reported⟩

end Engine

end MultisetSubstitution
