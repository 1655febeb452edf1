import MultisetSubstitution.Proofs.FileLoading
import MultisetSubstitution.Proofs.Modes
import MultisetSubstitution.Proofs.Presentation
import MultisetSubstitution.Proofs.Requests

/-! The status that the program ends with. It is zero or one, and one just if a table cannot be read
or an input fails. Two things keep the program from a status: rules that have no path, which a
command line can ask for, and a number that is too long to be written. -/

set_option autoImplicit false

namespace MultisetSubstitution

/-- No path is refused for a NUL that is not in it. -/
def FileReader.Candid (reader : FileReader) : Prop :=
  ∀ path : String, '\x00' ∉ path.toList → reader (Path.ofText path) ≠ .error .nulInPath

theorem Path.mem_text_ofText {path : String} {c : Char} (member : c ∈ (ofText path).text.toList) :
    c = '.' ∨ c = '/' ∨ c ∈ path.toList := by
  rw [text] at member
  split at member
  · exact .inl (by simpa using member)
  · right
    rw [String.toList_append, String.toList_ofList, String.toList_intercalate,
      List.mem_append] at member
    rcases member with leading | later
    · exact .inl (List.eq_of_mem_replicate leading)
    · rcases Text.of_mem_intercalate later with slash | ⟨piece, inParts, inPiece⟩
      · exact .inl (by simpa using slash)
      · obtain ⟨part, kept, rfl⟩ := List.mem_map.mp inParts
        obtain ⟨chars, inSplit, rfl⟩ := List.mem_map.mp (List.mem_of_mem_filter kept)
        have within : chars <:+: ['/'].intercalate (path.toList.splitOn '/') :=
          Text.infix_intercalate inSplit
        rw [List.intercalate_splitOn] at within
        rw [String.toList_ofList] at inPiece
        exact .inr (within.subset inPiece)

theorem Files.Tree.follow_ne_nul (tree : Tree) {name : String} (clean : '\x00' ∉ name.toList)
    (parts : List String) : tree.follow name parts ≠ .error .nulInPath := by
  have silent : ¬ name.toList.contains '\x00' = true := by simpa using clean
  have walked : ∀ walk : Except WalkFault Place,
      walk.mapError (WalkFault.at name) ≠ .error .nulInPath := by
    rintro (fault | place) refused
    · have same : WalkFault.at name fault = .nulInPath := Except.error.inj refused
      cases fault <;> cases same
    · cases refused
  rw [follow, if_neg silent]
  split
  · simp
  · split
    · simp
    · exact walked _

theorem Files.Tree.candid (tree : Tree) : FileReader.Candid tree.bytes := by
  intro path clean
  have named : '\x00' ∉ (Path.ofText path).text.toList := by
    intro member
    rcases Path.mem_text_ofText member with dot | slash | inPath
    · exact absurd dot (by decide)
    · exact absurd slash (by decide)
    · exact clean inPath
  have found := tree.follow_ne_nul named (Name.parts (Path.ofText path).text)
  rw [bytes, find]
  cases follow : tree.follow (Path.ofText path).text (Name.parts (Path.ofText path).text) with
  | error fault =>
    rw [follow] at found
    intro refused
    have same : (.error fault : Except Fault ByteArray) = .error .nulInPath := refused
    exact found (congrArg Except.error (Except.error.inj same))
  | ok place =>
    change (pure place >>= _) ≠ _
    rw [pure_bind]
    split <;> simp [pure, Except.pure, throw, throwThe, MonadExceptOf.throw]

theorem FileReader.Candid.text_ne_nul {reader : FileReader} (candid : reader.Candid)
    {path : String} (clean : '\x00' ∉ path.toList) : reader.text path ≠ .error .nulInPath := by
  have found := candid path clean
  rw [text]
  cases read : reader (Path.ofText path) with
  | error fault =>
    rw [read] at found
    exact fun refused => found (congrArg Except.error (Except.error.inj refused))
  | ok bytes =>
    rw [Except.bind, Files.textOfBytes]
    cases Text.Utf8.decode bytes <;> simp

/-- The texts of the tables that a request names; there are none if the rules have no path. -/
def CommandLine.Request.texts (request : Request) (reader : FileReader) :
    Except Files.Fault (Option (String × String)) :=
  match request.attributes, request.rules with
  | some attributes, some rules => do
    let names ← reader.text attributes
    let table ← reader.text rules
    return some (names, table)
  | some attributes, none => do
    let _ ← reader.text attributes
    return none
  | none, _ => return none

namespace CommandLine.Request

variable {request : Request} {reader : FileReader}

theorem texts_eq_error {fault : Files.Fault} (lost : request.texts reader = .error fault) :
    ∃ attributes, request.attributes = some attributes ∧
      (reader.text attributes = .error fault ∨
        ∃ names rules, reader.text attributes = .ok names ∧ request.rules = some rules ∧
          reader.text rules = .error fault) := by
  unfold texts at lost
  split at lost
  · rename_i attributes rules first second
    refine ⟨attributes, first, ?_⟩
    cases readNames : reader.text attributes with
    | error other =>
      rw [readNames] at lost
      exact .inl (congrArg Except.error (Except.error.inj lost))
    | ok names =>
      refine .inr ⟨names, rules, rfl, second, ?_⟩
      cases readTable : reader.text rules with
      | error other =>
        rw [readNames, readTable] at lost
        exact congrArg Except.error (Except.error.inj lost)
      | ok table =>
        rw [readNames, readTable] at lost
        exact nomatch lost
  · rename_i attributes first _
    refine ⟨attributes, first, .inl ?_⟩
    cases readNames : reader.text attributes with
    | error other =>
      rw [readNames] at lost
      exact congrArg Except.error (Except.error.inj lost)
    | ok names =>
      rw [readNames] at lost
      exact nomatch lost
  · exact nomatch lost

theorem texts_eq_none (found : request.texts reader = .ok none) :
    request.attributes = none ∨ ∃ attributes names, request.attributes = some attributes ∧
      reader.text attributes = .ok names ∧ request.rules = none := by
  unfold texts at found
  split at found
  · rename_i attributes rules _ _
    cases readNames : reader.text attributes <;> cases readTable : reader.text rules <;>
      rw [readNames, readTable] at found <;> exact nomatch found
  · rename_i attributes first second
    cases readNames : reader.text attributes with
    | error other =>
      rw [readNames] at found
      exact nomatch found
    | ok names => exact .inr ⟨attributes, names, first, readNames, second⟩
  · exact .inl ‹_›

theorem texts_eq_some {names table : String}
    (found : request.texts reader = .ok (some (names, table))) :
    ∃ attributes rules, request.attributes = some attributes ∧ request.rules = some rules ∧
      reader.text attributes = .ok names ∧ reader.text rules = .ok table := by
  unfold texts at found
  split at found
  · rename_i attributes rules first second
    refine ⟨attributes, rules, first, second, ?_⟩
    cases readNames : reader.text attributes <;> cases readTable : reader.text rules <;>
      rw [readNames, readTable] at found
    case ok.ok =>
      obtain ⟨rfl, rfl⟩ := Prod.mk.inj (Option.some.inj (Except.ok.inj found))
      exact ⟨rfl, rfl⟩
    all_goals exact nomatch found
  · rename_i attributes _ _
    cases readNames : reader.text attributes <;> rw [readNames] at found <;> exact nomatch found
  · exact nomatch found

end CommandLine.Request

theorem FileReader.Candid.texts_ne_nul {reader : FileReader} (candid : reader.Candid)
    {request : CommandLine.Request}
    (clean : ∀ path, some path ∈ [request.attributes, request.rules] → '\x00' ∉ path.toList)
    {fault : Files.Fault} (lost : request.texts reader = .error fault) : fault ≠ .nulInPath := by
  rintro rfl
  obtain ⟨attributes, first, lostNames | ⟨_, rules, -, second, lostTable⟩⟩ :=
    CommandLine.Request.texts_eq_error lost
  · exact candid.text_ne_nul (clean attributes (by simp [first])) lostNames
  · exact candid.text_ne_nul (clean rules (by simp [second])) lostTable

theorem Sink.out_deliverAll {sink : Sink} {told : List Record}
    (warn : ∀ record ∈ told, record.level = .warn) (output : Output) :
    (sink.deliverAll told output).out = output.out := by
  induction told generalizing output with
  | nil => rfl
  | cons record rest ih =>
    obtain ⟨here, later⟩ := List.forall_mem_cons.mp warn
    refine (ih later (sink.deliver record output)).trans ?_
    cases sink <;> simp [deliver, here]

theorem Vocabulary.runWith_ofFile {reader : FileReader} {path text : String}
    (found : reader.text path = .ok text) {around : Surroundings}
    (accepting : around.sink.Accepting) (output : Output) :
    (ofFile reader path).runWith around output =
      (.ok (loaded text),
        around.sink.deliverAll (empty.refusals (Text.lines text)) output) := by
  rw [ofFile_of_text found]
  exact Reporting.runWith_mapFailure_ok _ (runWith_ofText accepting text output)

theorem Vocabulary.runWith_ofFile_fault {reader : FileReader} {path : String}
    {fault : Files.Fault} (lost : reader.text path = .error fault) (around : Surroundings)
    (output : Output) :
    (ofFile reader path).runWith around output = (.error (.unreadable fault), output) := by
  rw [ofFile, load_of_fault lost]
  rfl

/-- What is done if some multisets are run: it prints, is an effect of the run of one of them,
verbose or not, or shows the trace of one. In a conversation the rules may also be asked for. -/
inductive Deed.Of (engine : Engine) (items : List (List String)) (conversing : Bool) :
    Deed → Prop where
  | print (text : String) : Of engine items conversing (.print text)
  | cause (verbose : Bool) {tokens : List String} (run : tokens ∈ items) {effect : Effect}
      (caused : effect ∈ (engine.withVerbose verbose).effects tokens) :
      Of engine items conversing (.cause effect)
  | exhibit {tokens : List String} (run : tokens ∈ items) :
      Of engine items conversing (.exhibit (engine.traceOf tokens))
  | rules (asked : conversing = true) {numbers : List Int}
      (within : numbers ⊆ engine.rules.numbers) :
      Of engine items conversing (.cause (.spell numbers))

theorem Engine.of_mem_inputDeeds {engine : Engine} {items : List (List String)}
    {tokens : List String} (run : tokens ∈ items) {tracing conversing : Bool} {deed : Deed}
    (member : deed ∈ engine.inputDeeds tracing tokens) : deed.Of engine items conversing := by
  rcases mem_inputDeeds member with ⟨text, rfl⟩ | ⟨effect, caused, rfl⟩ | rfl
  · exact .print text
  · exact .cause engine.verbose run caused
  · exact .exhibit run

theorem Console.of_mem_conversationDeeds {console : Console} {lines : List String} {deed : Deed}
    (member : deed ∈ console.conversationDeeds lines) :
    deed.Of console.engine ((heeded lines).map Text.commaPieces) true := by
  rcases mem_conversationDeeds member with
    ⟨text, rfl⟩ | ⟨line, heeds, verbose, effect, caused, rfl⟩ | ⟨numbers, within, rfl⟩
  · exact .print text
  · exact .cause verbose (List.mem_map_of_mem heeds) caused
  · exact .rules rfl within

namespace Program

section

variable {reader : FileReader} {request : CommandLine.Request}
  {around : Surroundings} (accepting : around.sink.Accepting)
include accepting

theorem loadTables_of_unreadable {fault : Files.Fault}
    (lost : request.texts reader = .error fault) (limit : Int) (output : Output) :
    ∃ warnings : List Record, (∀ record ∈ warnings, record.level = .warn) ∧
      (loadTables reader request limit).runWith around output =
        (.error (.unreadable fault), around.sink.deliverAll warnings output) := by
  obtain ⟨attributes, first, lostNames | ⟨names, rules, readNames, second, lostTable⟩⟩ :=
    CommandLine.Request.texts_eq_error lost
  · refine ⟨[], by simp, ?_⟩
    unfold loadTables
    rw [first]
    cases request.rules with
    | some rules =>
      simp only [Engine.ofFiles, map_bind]
      rw [Reporting.runWith_bind, Vocabulary.runWith_ofFile_fault lostNames]
      rfl
    | none =>
      rw [Reporting.runWith_bind, Vocabulary.runWith_ofFile_fault lostNames]
      rfl
  · refine ⟨Vocabulary.empty.refusals (Text.lines names), fun _ => Vocabulary.refusals_warn, ?_⟩
    simp only [loadTables, first, second, Engine.ofFiles, map_bind]
    rw [Reporting.runWith_bind, Vocabulary.runWith_ofFile readNames accepting]
    simp only [RuleSet.ofFile, load_of_fault lostTable]
    rfl

theorem loadTables_of_pathless (found : request.texts reader = .ok none) (limit : Int)
    (output : Output) :
    ∃ after, (loadTables reader request limit).runWith around output = (.ok none, after) := by
  obtain first | ⟨attributes, names, first, readNames, second⟩ :=
    CommandLine.Request.texts_eq_none found
  · simp only [loadTables, first]
    exact ⟨output, rfl⟩
  · simp only [loadTables, first, second]
    rw [Reporting.runWith_bind, Vocabulary.runWith_ofFile readNames accepting]
    exact ⟨_, rfl⟩

theorem loadTables_of_texts {names table : String}
    (found : request.texts reader = .ok (some (names, table))) {limit : Int}
    (positive : 1 ≤ limit) (output : Output) :
    let engine := Engine.overTexts names table request.verbose limit
    ∃ after, (loadTables reader request limit).runWith around output =
      ((engine.loadedWith request.verbose around.digits).1.map some, after) := by
  obtain ⟨attributes, rules, first, second, readNames, readTable⟩ :=
    CommandLine.Request.texts_eq_some found
  simp only [loadTables, first, second]
  rw [map_eq_pure_bind, Reporting.runWith_bind,
    Engine.runWith_ofFiles readNames readTable _ _ _ accepting, if_neg (by omega)]
  dsimp only
  cases (Engine.loadedWith _ request.verbose around.digits).1 <;> exact ⟨_, rfl⟩

def lossText (fault : Files.Fault) : String := "Error loading tables: " ++ fault.message ++ "\n"

theorem load_of_unreadable {fault : Files.Fault} (lost : request.texts reader = .error fault)
    (ordinary : fault ≠ .nulInPath) (limit : Int) (output : Output) :
    ∃ warnings : List Record, (∀ record ∈ warnings, record.level = .warn) ∧
      let told := around.sink.deliverAll warnings output
      (load reader request limit).runWith around output =
        (.ok none, { told with err := told.err ++ lossText fault }) := by
  obtain ⟨warnings, warn, ran⟩ := loadTables_of_unreadable accepting lost limit output
  refine ⟨warnings, warn, ?_⟩
  rw [Reporting.runWith, load, ExceptT.mk, ran]
  cases fault with
  | nulInPath => exact absurd rfl ordinary
  | _ => rfl

theorem load_of_pathless (found : request.texts reader = .ok none) (limit : Int)
    (output : Output) :
    ∃ after, (load reader request limit).runWith around output = (.error .noRulesPath, after) := by
  obtain ⟨after, ran⟩ := loadTables_of_pathless accepting found limit output
  refine ⟨after, ?_⟩
  rw [Reporting.runWith, load, ExceptT.mk, ran]

theorem load_of_texts {names table : String}
    (found : request.texts reader = .ok (some (names, table))) {limit : Int}
    (positive : 1 ≤ limit) (output : Output) :
    let engine := Engine.overTexts names table request.verbose limit
    ∃ after, (load reader request limit).runWith around output = (.ok (some engine), after) ∨
      (load reader request limit).runWith around output =
          (.error (.obstacle .longNumber), after) ∧
        request.verbose = true ∧ ¬ engine.rules.numbers.all (Text.fits around.digits) = true := by
  intro engine
  obtain ⟨after, ran⟩ := loadTables_of_texts accepting found positive output
  refine ⟨after, (engine.loadedWith_fst request.verbose around.digits).imp ?_ ?_⟩
  · intro loaded
    rw [Reporting.runWith, load, ExceptT.mk, ran, loaded]
    rfl
  · rintro ⟨stopped, long⟩
    refine ⟨?_, long⟩
    rw [Reporting.runWith, load, ExceptT.mk, ran, stopped]
    rfl

end

def opening (terminal : Bool) (request : CommandLine.Request) (engine : Engine) :
    Reporting Escape Phase := do
  match request.input with
  | some tokens => return .finished (statusOf (← runAndPrint engine request.trace tokens))
  | none =>
    if request.interactive || terminal then
      Reporting.print (greeting engine ++ prompt)
      return .conversing { engine, tracing := request.trace }
    else return .filtering engine request.trace false

def proceed (events : List Event) (phase : Phase) : Reporting Escape Exit := do
  match phase with
  | .finished status => return ⟨status, false⟩
  | phase =>
    match ← feedAll phase events with
    | .finished status => return ⟨status, false⟩
    | _ => return ⟨1, false⟩

theorem run_eq {arguments : List String} {request : CommandLine.Request} {limit : Int}
    (parsed : CommandLine.parse arguments = .ok request)
    (limited : request.maxIterations = some limit) (reader : FileReader) (terminal : Bool)
    (events : List Event) :
    run reader terminal arguments events = (do
      match ← load reader request limit with
      | none => return ⟨1, false⟩
      | some engine => opening terminal request engine >>= proceed events) := by
  have started : start reader terminal request = (do
      match ← load reader request limit with
      | none => return .finished 1
      | some engine => opening terminal request engine) := by
    unfold start
    rw [limited]
    rfl
  have whole : run reader terminal arguments events =
      start reader terminal request >>= proceed events := by
    unfold run
    rw [parsed]
    rfl
  rw [whole, started, bind_assoc]
  refine bind_congr fun found => ?_
  cases found <;> rfl

def converses (request : CommandLine.Request) (terminal : Bool) : Bool :=
  request.input.isNone && (request.interactive || terminal)

/-- The multisets that a request gets to run: the one that it gives, or those in the lines of a
stream that a console or a filter comes to. -/
def executed (request : CommandLine.Request) (terminal : Bool) (stream : String) :
    List (List String) :=
  match request.input with
  | some tokens => [tokens.toList]
  | none =>
    (if request.interactive || terminal then
      Console.heeded ((Text.streamLines stream).map dropLineFeed)
    else inputs stream).map Text.commaPieces

def requestDeeds (terminal : Bool) (request : CommandLine.Request) (engine : Engine)
    (stream : String) : List Deed :=
  match request.input with
  | some tokens => engine.inputDeeds request.trace tokens.toList
  | none =>
    if request.interactive || terminal then
      .print (greeting engine ++ prompt) ::
        Console.conversationDeeds { engine, tracing := request.trace }
          ((Text.streamLines stream).map dropLineFeed)
    else (inputs stream).flatMap fun line => engine.inputDeeds request.trace (Text.commaPieces line)

theorem any_commaPieces (engine : Engine) (lines : List String) :
    (lines.map Text.commaPieces).any (!engine.settles ·) = lines.any engine.givesUp := by
  rw [List.any_map]
  rfl

theorem opening_eq_enact (terminal : Bool) (request : CommandLine.Request) (engine : Engine)
    (stream : String) :
    opening terminal request engine >>= proceed (arrivals stream) =
      enact ⟨statusOf ((executed request terminal stream).any (!engine.settles ·)), false⟩
        (requestDeeds terminal request engine stream) := by
  unfold opening executed requestDeeds
  cases request.input with
  | some tokens =>
    simp only [runAndPrint_eq_enact, bind_assoc, pure_bind]
    refine enact_bind_pure ?_
    simp [proceed]
  | none =>
    simp only []
    split
    · simp only [bind_assoc, pure_bind]
      refine print_bind ?_
      simp only [proceed]
      rw [arrivals, feedAll_conversing, Console.closing_failures rfl, countP_ne_zero,
        any_commaPieces]
      exact enact_bind_pure rfl
    · simp only [pure_bind, proceed]
      rw [feedAll_filtering_eq_enact, any_commaPieces]
      exact enact_bind_pure rfl

theorem of_mem_requestDeeds {terminal : Bool} {request : CommandLine.Request} {engine : Engine}
    {stream : String} {deed : Deed} :
    deed ∈ requestDeeds terminal request engine stream →
      deed.Of engine (executed request terminal stream) (converses request terminal) := by
  unfold requestDeeds executed converses
  cases request.input with
  | some tokens => exact Engine.of_mem_inputDeeds (List.mem_singleton.mpr rfl)
  | none =>
    simp only []
    split
    · rename_i interactive
      rw [interactive]
      intro member
      rcases List.mem_cons.mp member with rfl | later
      · exact .print _
      · exact Console.of_mem_conversationDeeds later
    · intro member
      obtain ⟨line, inStream, inDeeds⟩ := List.mem_flatMap.mp member
      exact Engine.of_mem_inputDeeds (List.mem_map_of_mem inStream) inDeeds

/-- The run of a multiset is a failure, if numbers of any length can be written. -/
def Fails (engine : Engine) (tokens : List String) : Prop :=
  ∃ fault, engine.outcomeIn tokens false ⟨.discarding, none⟩ {} = .ok (.failure fault)

theorem fails_iff {engine : Engine} {tokens : List String} :
    Fails engine tokens ↔ engine.settles tokens = false := by
  have free : engine.stoppedBy? none tokens = none :=
    engine.not_stopped_of_fits (Trace.fits_none _) (Outcome.fits_none _)
  rw [Fails, Engine.outcomeIn_of_accepting Sink.accepting_discarding, free]
  constructor
  · rintro ⟨fault, ended⟩
    exact (Engine.failure_eq_outcome.mp (Except.ok.inj ended).symm).1
  · intro stopped
    exact ⟨_, congrArg Except.ok (Engine.failure_eq_outcome.mpr ⟨stopped, rfl⟩).symm⟩

/-- A number that is too long and may have to be written: it is a count of a multiset that is run,
the limit that such a run is stopped by, or it stands in the rules and these are to be shown. -/
inductive Overlong (engine : Engine) (request : CommandLine.Request) (terminal : Bool)
    (stream : String) (digits : Option Nat) : Prop where
  | count {tokens : List String} (run : tokens ∈ executed request terminal stream)
      (long : ¬ (engine.traceOf tokens).Fits digits)
  | limit {tokens : List String} (run : tokens ∈ executed request terminal stream)
      (fails : Fails engine tokens) (long : Text.fits digits engine.maxIterations = false)
  | rule (shown : request.verbose = true ∨ converses request terminal = true)
      (long : ¬ engine.rules.numbers.all (Text.fits digits) = true)

theorem overlong_of_spelled {engine : Engine} {request : CommandLine.Request} {terminal : Bool}
    {stream : String} {tokens : List String} (run : tokens ∈ executed request terminal stream)
    {verbose : Bool} {numbers : List Int}
    (spelled : .spell numbers ∈ (engine.withVerbose verbose).effects tokens) {number : Int}
    (member : number ∈ numbers) {digits : Option Nat} (long : Text.fits digits number = false) :
    Overlong engine request terminal stream digits := by
  by_cases fits : (engine.traceOf tokens).Fits digits
  · by_contra short
    have limited : engine.settles tokens = false →
        Text.fits digits engine.maxIterations = true := fun stopped =>
      eq_true_of_ne_false fun tooLong => short (.limit run (fails_iff.mpr stopped) tooLong)
    have written := (engine.withVerbose verbose).spelled_fits tokens fits
      (engine.outcome_fits tokens fits limited true) spelled number member
    rw [long] at written
    exact nomatch written
  · exact .count run fits

/-- With its tables the program comes to a status, unless a number is too long to be written. -/
theorem runWith_opening {around : Surroundings} (accepting : around.sink.Accepting)
    (terminal : Bool) (request : CommandLine.Request) (engine : Engine) (stream : String)
    (output : Output) :
    let ended :=
      ((opening terminal request engine >>= proceed (arrivals stream)).runWith around output).1
    ended = .ok ⟨statusOf ((executed request terminal stream).any (!engine.settles ·)), false⟩ ∨
      (ended = .error (.obstacle .longNumber) ∨ ended = .error (.listing .longNumber)) ∧
        Overlong engine request terminal stream around.digits := by
  rw [opening_eq_enact]
  let deeds := requestDeeds terminal request engine stream
  let exit : Exit := ⟨statusOf ((executed request terminal stream).any (!engine.settles ·)), false⟩
  rcases runWith_enact around exit deeds (Eq.refl output.records) with
    ⟨like, -⟩ | ⟨trace, fault, shown, unwritten, stopped⟩
  · refine (Reporting.perform_returns_or_long accepting exit (Deed.effects deeds) output).imp ?_ ?_
    · intro returned
      rw [like, returned]
      rfl
    · rintro ⟨stopped, numbers, spelled, number, inNumbers, long⟩
      refine ⟨.inl (by rw [like, stopped]; rfl), ?_⟩
      obtain ⟨deed, inDeeds, causes⟩ := List.mem_filterMap.mp spelled
      cases of_mem_requestDeeds inDeeds with
      | print | exhibit => exact nomatch causes
      | cause verbose run caused =>
        obtain rfl := Option.some.inj causes
        exact overlong_of_spelled run caused inNumbers long
      | rules asked within =>
        obtain ⟨rfl⟩ := Effect.spell.inj (Option.some.inj causes)
        refine .rule (.inr asked) fun short => ?_
        rw [List.all_eq_true.mp short number (within inNumbers)] at long
        exact nomatch long
  · right
    cases of_mem_requestDeeds shown with
    | @exhibit tokens run =>
      rcases engine.trace_written tokens around.digits with ⟨text, written⟩ | ⟨long, unfit⟩
      · rw [written] at unwritten
        exact nomatch unwritten
      · obtain rfl : fault = .longNumber := Except.error.inj (unwritten.symm.trans long)
        exact ⟨.inr stopped, .count run unfit⟩

theorem statusOf_any {engine : Engine} {items : List (List String)} :
    statusOf (items.any (!engine.settles ·)) = 1 ↔ ∃ tokens ∈ items, Fails engine tokens := by
  simp [statusOf, fails_iff]

/-- How the program ends on a request with a limit on passes. -/
structure Ending (reader : FileReader) (terminal : Bool) (arguments : List String)
    (request : CommandLine.Request) (limit : Int) (around : Surroundings) (stream : String)
    (output : Output) : Prop where
  named : request.attributes.isSome = true
  -- Nothing is run or printed if a table cannot be read, whatever comes in.
  unreadable : ∀ fault, request.texts reader = .error fault →
    ∃ warnings : List Record, (∀ record ∈ warnings, record.level = .warn) ∧
      let told := around.sink.deliverAll warnings output
      told.out = output.out ∧
      ∀ events, (run reader terminal arguments events).runWith around output =
        (.ok ⟨1, false⟩, { told with err := told.err ++ lossText fault })
  pathless : request.texts reader = .ok none → request.rules = none ∧
    ∀ events, ((run reader terminal arguments events).runWith around output).1 =
      .error .noRulesPath
  -- The status tells of a failure among the inputs that are run.
  loaded : ∀ names table, request.texts reader = .ok (some (names, table)) →
    let engine := Engine.overTexts names table request.verbose limit
    let ended := ((run reader terminal arguments (arrivals stream)).runWith around output).1
    (∃ status, ended = .ok ⟨status, false⟩ ∧ (status = 0 ∨ status = 1) ∧
      (status = 1 ↔ ∃ tokens ∈ executed request terminal stream, Fails engine tokens)) ∨
    ((ended = .error (.obstacle .longNumber) ∨ ended = .error (.listing .longNumber)) ∧
      Overlong engine request terminal stream around.digits)

/-- Every command line that asks for a run with a limit on passes ends as `Ending` says: with a
status if both tables have a path, unless a number is too long to be written. -/
theorem run_status {reader : FileReader} (candid : reader.Candid) {arguments : List String}
    {request : CommandLine.Request} (parsed : CommandLine.parse arguments = .ok request)
    {limit : Int} (limited : request.maxIterations = some limit)
    (clean : ∀ path, some path ∈ [request.attributes, request.rules] → '\x00' ∉ path.toList)
    (terminal : Bool) {around : Surroundings} (accepting : around.sink.Accepting)
    (stream : String) (output : Output) :
    Ending reader terminal arguments request limit around stream output where
  named := (CommandLine.parse_eq_ok parsed).1
  unreadable fault lost := by
    obtain ⟨warnings, warn, ran⟩ := load_of_unreadable accepting lost
      (candid.texts_ne_nul clean lost) limit output
    refine ⟨warnings, warn, Sink.out_deliverAll warn output, fun events => ?_⟩
    rw [run_eq parsed limited, Reporting.runWith_bind, ran]
    rfl
  pathless found := by
    refine ⟨?_, fun events => ?_⟩
    · obtain unnamed | ⟨_, _, -, -, second⟩ := CommandLine.Request.texts_eq_none found
      · exact absurd (CommandLine.parse_eq_ok parsed).1 (by simp [unnamed])
      · exact second
    · obtain ⟨after, ran⟩ := load_of_pathless accepting found limit output
      rw [run_eq parsed limited, Reporting.runWith_bind, ran]
  loaded names table found := by
    have positive := (CommandLine.parse_eq_ok parsed).2 limit limited
    rw [run_eq parsed limited, Reporting.runWith_bind]
    obtain ⟨after, ran | ⟨ran, verbose, long⟩⟩ := load_of_texts accepting found positive output
    · rw [ran]
      refine (runWith_opening accepting terminal request _ stream after).imp_left fun ended => ?_
      exact ⟨_, ended, by unfold statusOf; split <;> simp, statusOf_any⟩
    · rw [ran]
      exact .inr ⟨.inl rfl, .rule (.inl verbose) long⟩

def seasons : Files.Tree := ⟨[
  (["names"], .file "old\nyoung\n".toUTF8),
  (["rules"], .file "young -> old\nold -> young\n".toUTF8)]⟩

theorem run_status_seasons :
    let arguments := ["names", "rules", "--max-iterations", "2"]
    let request : CommandLine.Request :=
      ⟨some "names", some "rules", none, false, false, some 2, false⟩
    FileReader.Candid seasons.bytes ∧ CommandLine.parse arguments = .ok request ∧
    (∀ path, some path ∈ [request.attributes, request.rules] → '\x00' ∉ path.toList) ∧
    Sink.collecting.Accepting ∧
    Ending seasons.bytes false arguments request 2 ⟨.collecting, none⟩ "young\n# old\nlava\n" {} ∧
    ((run seasons.bytes false arguments (arrivals "young\n# old\nlava\n")).runWith
      ⟨.collecting, none⟩ {}).1 = .ok ⟨1, false⟩ := by
  intro arguments request
  have parsed : CommandLine.parse arguments = .ok request := by decide +kernel
  have clean : ∀ path, some path ∈ [request.attributes, request.rules] → '\x00' ∉ path.toList := by
    simp [request]
  have ending : Ending seasons.bytes false arguments request 2 ⟨.collecting, none⟩
      "young\n# old\nlava\n" {} :=
    run_status seasons.candid parsed rfl clean false Sink.accepting_collecting _ _
  refine ⟨seasons.candid, parsed, clean, Sink.accepting_collecting, ending, ?_⟩
  have texts : request.texts seasons.bytes =
      .ok (some ("old\nyoung\n", "young -> old\nold -> young\n")) := by decide +kernel
  rcases ending.loaded _ _ texts with ⟨status, ended, -, failed⟩ | ⟨-, overlong⟩
  · have fails : status = 1 := failed.mpr
      ⟨["young"], by decide +kernel, fails_iff.mpr (by decide +kernel)⟩
    rw [ended, fails]
  · cases overlong with
    | count _ unfit => exact absurd (Trace.fits_none _) unfit
    | limit _ _ long => exact nomatch long
    | rule shown => exact absurd shown (by decide)

/-- A double dash after the one that is taken out leaves the rules without a path, although there is
a file of that name. -/
theorem doubled_dash_pathless :
    let reader : FileReader := Files.Tree.bytes ⟨[
      (["a"], .file "water\nfire\nsteam\n".toUTF8),
      (["--"], .file "water, fire -> steam\n".toUTF8)]⟩
    CommandLine.parse ["a", "--", "--"] =
      .ok ⟨some "a", none, none, false, false, some 10000, false⟩ ∧
    (reader.text "a").isOk = true ∧ (reader.text "--").isOk = true ∧
    ((run reader false ["a", "--", "--"] []).runWith ⟨.collecting, some Text.digitLimit⟩ {}).1 =
      .error .noRulesPath := by
  decide +kernel

end Program

end MultisetSubstitution
