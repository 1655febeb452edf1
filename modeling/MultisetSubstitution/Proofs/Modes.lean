import MultisetSubstitution.Proofs.Conversation
import MultisetSubstitution.Proofs.Deeds

/-! The modes of the program: one multiset, a filter, a conversation. A filter does for its lines
what is done for each of them alone. A console that is given no commands says what the filter
prints, reports the same, and comes to the same status. -/

set_option autoImplicit false

namespace MultisetSubstitution

namespace Engine

variable {engine : Engine} {tokens : List String}

def shown (engine : Engine) (tokens : List String) : String := (engine.outcome tokens false).text

theorem text_outcome (engine : Engine) (tokens : List String) (traced : Bool) :
    (engine.outcome tokens traced).text = engine.shown tokens := by
  rw [shown, outcome, outcome]
  split <;> rfl

def exhibits (engine : Engine) (tracing : Bool) (tokens : List String) : List Deed :=
  if tracing && (engine.traceOf tokens).nonempty then [.exhibit (engine.traceOf tokens)] else []

def inputDeeds (engine : Engine) (tracing : Bool) (tokens : List String) : List Deed :=
  (engine.effects tokens).map .cause ++ .print ("\n" ++ engine.shown tokens ++ "\n") ::
    (engine.exhibits tracing tokens ++ [.print "\n"])

theorem mem_inputDeeds {tracing : Bool} {deed : Deed}
    (member : deed ∈ engine.inputDeeds tracing tokens) :
    (∃ text, deed = .print text) ∨ (∃ effect ∈ engine.effects tokens, deed = .cause effect) ∨
      deed = .exhibit (engine.traceOf tokens) := by
  rw [inputDeeds, List.mem_append, List.mem_cons, List.mem_append] at member
  rcases member with caused | rfl | shown | ended
  · obtain ⟨effect, inEffects, rfl⟩ := List.mem_map.mp caused
    exact .inr (.inl ⟨effect, inEffects, rfl⟩)
  · exact .inl ⟨_, rfl⟩
  · unfold exhibits at shown
    split at shown
    · exact .inr (.inr (List.mem_singleton.mp shown))
    · exact nomatch shown
  · exact .inl ⟨_, List.mem_singleton.mp ended⟩

theorem exhibit_notMem_inputDeeds (engine : Engine) (tokens : List String) (trace : Trace) :
    .exhibit trace ∉ engine.inputDeeds false tokens := by
  simp [inputDeeds, exhibits]

theorem effects_inputDeeds (engine : Engine) (tracing : Bool) (tokens : List String) :
    Deed.effects (engine.inputDeeds tracing tokens) = engine.effects tokens := by
  have silent : Deed.effects (engine.exhibits tracing tokens) = [] := by
    unfold exhibits
    split <;> rfl
  simp [inputDeeds, silent]

end Engine

namespace Program

theorem runAndPrint_eq_enact (engine : Engine) (tracing : Bool) (tokens : Tokens) :
    runAndPrint engine tracing tokens =
      enact (!engine.settles tokens.toList) (engine.inputDeeds tracing tokens.toList) := by
  rw [runAndPrint, Engine.execute_eq_perform, reporting_perform]
  refine enact_bind ?_
  rw [Engine.text_outcome]
  refine print_bind ?_
  rw [Engine.outcome_trace?, Engine.settled_outcome, Engine.exhibits]
  cases tracing with
  | false => exact print_bind rfl
  | true =>
    simp only [if_true, Bool.true_and]
    split
    · rw [List.singleton_append, enact, Deed.happen, bind_assoc]
      refine bind_congr fun around => ?_
      cases (engine.traceOf tokens.toList).text around.digits .verbose <;> rfl
    · exact print_bind rfl

theorem toList_dropLineFeed (line : String) :
    line.toList = (dropLineFeed line).toList ∨
      line.toList = (dropLineFeed line).toList ++ ['\n'] := by
  unfold dropLineFeed
  split
  · rename_i rest ends
    right
    rw [String.toList_ofList, ← List.reverse_cons, ← ends, List.reverse_reverse]
  · exact .inl rfl

theorem trim_dropLineFeed (line : String) : Text.trim (dropLineFeed line) = Text.trim line := by
  have blank : ∀ c ∈ ['\n'], Text.isBlank c = true := List.forall_mem_singleton.mpr (by decide)
  rw [Text.trim, Text.trim]
  obtain same | feeds := toList_dropLineFeed line
  · rw [same]
  · rw [feeds, Text.trimChars_append blank]

theorem isSkipped_dropLineFeed (line : String) :
    Text.isSkipped (dropLineFeed line) = Text.isSkipped line := by
  rw [← Text.isSkipped_trim, trim_dropLineFeed, Text.isSkipped_trim]

theorem isCommand_dropLineFeed (line : String) :
    Console.isCommand (dropLineFeed line) = Console.isCommand line := by
  rw [Console.isCommand, trim_dropLineFeed, Console.isCommand]

theorem dropLineFeeds_of_mem {stream line : String} (member : line ∈ Text.streamLines stream) :
    Text.dropLineFeeds line = dropLineFeed line := by
  obtain ⟨chars, inChars, rfl⟩ := List.mem_map.mp member
  obtain ⟨body, clean, same⟩ := Text.mem_streamLineChars inChars
  have stays : body.reverse.dropWhile (· == '\n') = body.reverse := by
    rw [List.dropWhile_eq_self_iff]
    intro inside feed
    exact clean (List.mem_reverse.mp (beq_iff_eq.mp feed ▸ List.getElem_mem inside))
  rcases same with rfl | rfl
  · have ends : ∀ rest, chars.reverse ≠ '\n' :: rest := by
      intro rest feeds
      exact clean (List.mem_reverse.mp (feeds ▸ List.mem_cons_self))
    rw [Text.dropLineFeeds, dropLineFeed, String.toList_ofList, stays, List.reverse_reverse]
    split
    · exact absurd ‹_› (ends _)
    · rfl
  · simp [Text.dropLineFeeds, dropLineFeed, stays]

theorem feedAll_filtering (engine : Engine) (tracing failed : Bool) {lines : List String}
    (fed : ∀ line ∈ lines, Text.dropLineFeeds line = dropLineFeed line) :
    feedAll (.filtering engine tracing failed) (lines.map .line) = do
      let failures ← ((lines.filter (!Text.isSkipped ·)).map dropLineFeed).mapM
        fun line => runAndPrint engine tracing (.joined line)
      return .finished (statusOf (failed || failures.any id)) := by
  induction lines generalizing failed with
  | nil => simp [feedAll, feed]
  | cons line rest ih =>
    obtain ⟨here, later⟩ := List.forall_mem_cons.mp fed
    rw [List.map_cons, feedAll, feed]
    cases skipped : Text.isSkipped line with
    | true =>
      rw [if_pos rfl, pure_bind]
      simp only []
      rw [ih failed later, List.filter_cons_of_neg (by simp [skipped])]
    | false =>
      rw [if_neg Bool.false_ne_true, bind_assoc, List.filter_cons_of_pos (by simp [skipped]),
        List.map_cons, List.mapM_cons, bind_assoc, here]
      refine bind_congr fun failure => ?_
      rw [pure_bind, bind_assoc]
      simp only [ih _ later, pure_bind, List.any_cons, id, Bool.or_assoc]

end Program

namespace Console

theorem isInput_of_plain {line : String} (plain : isCommand line = false) :
    isInput line = !Text.isSkipped line := by
  simp [isInput, plain]

theorem not_input_of_quits {line : String} (quitting : quits line = true) :
    isInput line = false := by
  cases command : isCommand line with
  | true => simp [isInput, command]
  | false =>
    rw [(unchanged_of_not_command command).2] at quitting
    exact absurd quitting Bool.false_ne_true

theorem reply_plain (console : Console) {line : String} (plain : isCommand line = false) :
    (console.reply line).2 =
      { console with
        failures := console.failures + (isInput line && console.engine.givesUp line).toNat } := by
  obtain ⟨same, goesOn⟩ := unchanged_of_not_command plain
  simp [reply_console, same, goesOn]

/-- The inputs among lines that a console comes to before it is told to stop. -/
def heeded (lines : List String) : List String := (lines.takeWhile (!quits ·)).filter isInput

theorem heeded_cons_of_quits {line : String} (quitting : quits line = true)
    (rest : List String) : heeded (line :: rest) = [] := by
  simp [heeded, quitting]

theorem heeded_cons {line : String} (goesOn : quits line = false) (rest : List String) :
    heeded (line :: rest) = if isInput line then line :: heeded rest else heeded rest := by
  simp [heeded, goesOn, List.filter_cons]

theorem heeded_of_plain {lines : List String} (plain : ∀ line ∈ lines, isCommand line = false) :
    heeded lines = lines.filter isInput := by
  have goesOn : ∀ line ∈ lines, (!quits line) = true := by
    intro line member
    rw [(unchanged_of_not_command (plain line member)).2]
    rfl
  rw [heeded, List.takeWhile_eq_self_iff.mpr goesOn]

def closing (console : Console) : List String → Console
  | [] => console
  | line :: rest =>
    let next := (console.reply line).2
    if next.running then next.closing rest else next

theorem closing_failures {console : Console} (running : console.running = true)
    (lines : List String) :
    (console.closing lines).failures =
      console.failures + (heeded lines).countP console.engine.givesUp := by
  induction lines generalizing console with
  | nil => simp [closing, heeded]
  | cons line rest ih =>
    cases quitting : quits line with
    | true =>
      rw [heeded_cons_of_quits quitting]
      simp [closing, reply_console, quitting, not_input_of_quits quitting]
    | false =>
      have goesOn : (console.reply line).2.running = true := by
        simp [reply_console, running, quitting]
      have same : (console.reply line).2.engine.givesUp = console.engine.givesUp := by
        rw [reply_console, Engine.givesUp_withVerbose]
      rw [closing, if_pos goesOn, ih goesOn, same, heeded_cons quitting, reply_console]
      cases input : isInput line with
      | false => simp
      | true =>
        rw [if_pos rfl, List.countP_cons]
        cases console.engine.givesUp line <;> simp
        omega

def answerDeeds : Option String → List Deed
  | some text => if text != "" then [.print (text ++ "\n")] else []
  | none => []

def phase (console : Console) : Phase :=
  if console.running then .conversing console
  else .finished (Program.statusOf (console.failures != 0))

def asking (console : Console) : List Deed :=
  if console.running then [.print Program.prompt] else []

def lineDeeds (console : Console) (line : String) : List Deed :=
  (console.effectsOf line).map .cause ++
    (answerDeeds (console.reply line).1 ++ (console.reply line).2.asking)

def conversationDeeds (console : Console) : List String → List Deed
  | [] => [.print "\n"]
  | line :: rest =>
    let next := (console.reply line).2
    console.lineDeeds line ++ if next.running then next.conversationDeeds rest else []

end Console

namespace Program

theorem asking_eq_enact (console : Console) :
    (if console.running then do
      Reporting.print prompt
      return .conversing console
    else return .finished (statusOf (console.failures != 0)) : Reporting Escape Phase) =
      enact console.phase console.asking := by
  unfold Console.phase Console.asking
  split <;> rfl

theorem converse_eq_enact (console : Console) (line : String) :
    converse console line = enact (console.reply line).2.phase (console.lineDeeds line) := by
  rw [converse, Console.answer_eq_perform, reporting_perform, Console.lineDeeds]
  refine enact_bind ?_
  obtain ⟨answer, next⟩ := console.reply line
  have asks := asking_eq_enact next
  cases answer with
  | none => exact asks
  | some text =>
    by_cases empty : text = ""
    · subst empty
      exact asks
    · simp only [Console.answerDeeds, bne_iff_ne.mpr empty, if_true]
      exact print_bind asks

theorem feedAll_conversing (console : Console) (lines : List String) :
    feedAll (.conversing console) (lines.map .line) =
      enact (.finished (statusOf ((console.closing (lines.map dropLineFeed)).failures != 0)))
        (console.conversationDeeds (lines.map dropLineFeed)) := by
  induction lines generalizing console with
  | nil => exact print_bind rfl
  | cons line rest ih =>
    rw [List.map_cons, List.map_cons, feedAll, feed, converse_eq_enact, Console.closing,
      Console.conversationDeeds]
    by_cases running : (console.reply (dropLineFeed line)).2.running = true
    · simp only [if_pos running, Console.phase]
      exact enact_bind (ih _)
    · simp only [if_neg running, Console.phase, List.append_nil]
      exact enact_bind_pure rfl

end Program

namespace Console

theorem effects_lineDeeds (console : Console) (line : String) :
    Deed.effects (console.lineDeeds line) = console.effectsOf line := by
  have answered : Deed.effects (answerDeeds (console.reply line).1) = [] := by
    unfold answerDeeds
    split
    · split <;> rfl
    · rfl
  have asked : Deed.effects (console.reply line).2.asking = [] := by
    unfold asking
    split <;> rfl
  simp [lineDeeds, answered, asked]

theorem numbers_subset (console : Console) (command : Command) :
    console.numbers command ⊆ console.engine.rules.numbers := by
  cases command <;> simp [numbers]

theorem mem_conversationDeeds {console : Console} {lines : List String} {deed : Deed}
    (member : deed ∈ console.conversationDeeds lines) :
    (∃ text, deed = .print text) ∨
      (∃ line ∈ heeded lines, ∃ verbose,
        ∃ effect ∈ (console.engine.withVerbose verbose).effects (Text.commaPieces line),
          deed = .cause effect) ∨
      ∃ numbers, numbers ⊆ console.engine.rules.numbers ∧ deed = .cause (.spell numbers) := by
  induction lines generalizing console with
  | nil => exact .inl ⟨_, List.mem_singleton.mp member⟩
  | cons line rest ih =>
    rw [conversationDeeds, lineDeeds, List.mem_append, List.mem_append, List.mem_append] at member
    rcases member with (caused | answered | asked) | later
    · obtain ⟨effect, inEffects, rfl⟩ := List.mem_map.mp caused
      rw [effectsOf] at inEffects
      split at inEffects
      · rename_i input
        have goesOn : quits line = false := by
          cases quitting : quits line with
          | false => rfl
          | true => exact absurd (not_input_of_quits quitting) (by simp [input])
        exact .inr (.inl ⟨line, by simp [heeded_cons goesOn, input], console.engine.verbose, effect,
          inEffects, rfl⟩)
      · split at inEffects
        · rw [List.mem_singleton.mp inEffects]
          exact .inr (.inr ⟨_, console.numbers_subset _, rfl⟩)
        · exact absurd inEffects List.not_mem_nil
    · unfold answerDeeds at answered
      split at answered
      · split at answered
        · exact .inl ⟨_, List.mem_singleton.mp answered⟩
        · exact absurd answered List.not_mem_nil
      · exact absurd answered List.not_mem_nil
    · unfold asking at asked
      split at asked
      · exact .inl ⟨_, List.mem_singleton.mp asked⟩
      · exact absurd asked List.not_mem_nil
    · split at later
      · rename_i goesOn
        rw [reply_console, Bool.and_eq_true, Bool.not_eq_true'] at goesOn
        have others := ih later
        rw [reply_console] at others
        refine others.imp_right (Or.imp_left ?_)
        rintro ⟨input, inRest, verbose, effect, inEffects, same⟩
        rw [Engine.withVerbose_withVerbose] at inEffects
        refine ⟨input, ?_, verbose, effect, inEffects, same⟩
        rw [heeded_cons goesOn.2]
        split
        · exact List.mem_cons_of_mem line inRest
        · exact inRest
      · exact absurd later List.not_mem_nil

theorem flatMap_effects_cons (console : Console) {line : String} (plain : isCommand line = false)
    (rest : List String) :
    (((line :: rest).filter isInput).flatMap fun line =>
        console.engine.effects (Text.commaPieces line)) =
      console.effectsOf line ++ (rest.filter isInput).flatMap fun line =>
        console.engine.effects (Text.commaPieces line) := by
  rw [List.filter_cons, effectsOf, plain]
  split <;> rfl

theorem effects_conversationDeeds {lines : List String}
    (plain : ∀ line ∈ lines, isCommand line = false) {console : Console}
    (running : console.running = true) :
    Deed.effects (console.conversationDeeds lines) =
      (lines.filter isInput).flatMap fun line =>
        console.engine.effects (Text.commaPieces line) := by
  induction lines generalizing console with
  | nil => rfl
  | cons line rest ih =>
    obtain ⟨here, later⟩ := List.forall_mem_cons.mp plain
    have goesOn : (console.reply line).2.running = true := by
      rw [reply_plain console here]
      exact running
    rw [conversationDeeds, Deed.effects_append, effects_lineDeeds, if_pos goesOn, ih later goesOn,
      reply_plain console here, flatMap_effects_cons console here]

def answers (console : Console) : List String →
    Reporting Obstacle (List (Option String) × Console)
  | [] => pure ([], console)
  | line :: rest => do
    let (answer, next) ← console.answer line
    let (others, last) ← next.answers rest
    return (answer :: others, last)

theorem outcomeText_untraced (engine : Engine) (tokens : List String) :
    outcomeText (engine.outcome tokens false) = engine.shown tokens := by
  rw [outcomeText, Engine.outcome_trace?]
  rfl

theorem answer_plain {console : Console} (untraced : console.tracing = false) {line : String}
    (plain : isCommand line = false) :
    (console.reply line).1 =
      if Text.isSkipped line then none
      else some (console.engine.shown (Text.commaPieces line)) := by
  rw [reply, isInput_of_plain plain]
  cases Text.isSkipped line <;> simp [plain, untraced, outcomeText_untraced]

theorem answers_eq_perform {lines : List String} (plain : ∀ line ∈ lines, isCommand line = false)
    {console : Console} (untraced : console.tracing = false) :
    ∃ last, console.answers lines =
      Reporting.perform
        (lines.map fun line =>
          if Text.isSkipped line then none
          else some (console.engine.shown (Text.commaPieces line)), last)
        ((lines.filter isInput).flatMap fun line =>
          console.engine.effects (Text.commaPieces line)) := by
  induction lines generalizing console with
  | nil => exact ⟨console, rfl⟩
  | cons line rest ih =>
    obtain ⟨here, later⟩ := List.forall_mem_cons.mp plain
    have silent : (console.reply line).2.tracing = false := by
      rw [reply_plain console here]
      exact untraced
    have same : (console.reply line).2.engine = console.engine := by rw [reply_plain console here]
    obtain ⟨last, others⟩ := ih later silent
    rw [same] at others
    refine ⟨last, ?_⟩
    rw [answers, answer_eq_perform, flatMap_effects_cons console here, List.map_cons,
      ← answer_plain untraced here]
    refine Reporting.perform_bind ?_
    change (console.reply line).2.answers rest >>= (fun found =>
      pure ((console.reply line).1 :: found.1, found.2)) = _
    rw [others]
    exact Reporting.perform_bind_pure rfl

end Console

namespace Program

def inputs (stream : String) : List String :=
  ((Text.streamLines stream).filter (!Text.isSkipped ·)).map dropLineFeed

def arrivals (stream : String) : List Event := (Text.streamLines stream).map .line

theorem countP_ne_zero {α : Type} (failed : α → Bool) (items : List α) :
    (0 + items.countP failed != 0) = items.any failed := by
  rw [Bool.eq_iff_iff]
  simp [List.countP_eq_zero]

theorem feedAll_filtering_eq_enact (engine : Engine) (tracing : Bool) (stream : String) :
    feedAll (.filtering engine tracing false) (arrivals stream) =
      enact (.finished (statusOf ((inputs stream).any engine.givesUp)))
        ((inputs stream).flatMap fun line =>
          engine.inputDeeds tracing (Text.commaPieces line)) := by
  rw [arrivals, feedAll_filtering engine tracing false fun _ => dropLineFeeds_of_mem, ← inputs,
    mapM_eq_enact fun line _ => runAndPrint_eq_enact engine tracing (.joined line)]
  refine enact_bind_pure ?_
  rw [Bool.false_or, List.any_map]
  rfl

section

variable {stream : String}
  (plain : ∀ line ∈ Text.streamLines stream, Console.isCommand line = false)
include plain

theorem plain_arrivals :
    ∀ line ∈ (Text.streamLines stream).map dropLineFeed, Console.isCommand line = false := by
  intro line member
  obtain ⟨whole, inStream, rfl⟩ := List.mem_map.mp member
  rw [isCommand_dropLineFeed, plain whole inStream]

theorem filter_isInput_arrivals :
    ((Text.streamLines stream).map dropLineFeed).filter Console.isInput = inputs stream := by
  rw [List.filter_map, inputs]
  congr 1
  refine List.filter_congr fun line member => ?_
  rw [Function.comp_apply, Console.isInput_of_plain, isSkipped_dropLineFeed]
  rw [isCommand_dropLineFeed, plain line member]

theorem feedAll_conversing_eq_enact (engine : Engine) :
    feedAll (.conversing { engine }) (arrivals stream) =
      enact (.finished (statusOf ((inputs stream).any engine.givesUp)))
        (Console.conversationDeeds { engine } ((Text.streamLines stream).map dropLineFeed)) := by
  rw [arrivals, feedAll_conversing, Console.closing_failures rfl, countP_ne_zero,
    Console.heeded_of_plain (plain_arrivals plain), filter_isInput_arrivals plain]

end

/-- How a filter, and a console without tracing, go through the same lines with the same engine. -/
structure Concord (engine : Engine) (stream : String) : Prop where
  -- The filter does for its lines what is done for each input alone.
  filter : ∀ tracing, feedAll (.filtering engine tracing false) (arrivals stream) = do
    let failures ← (inputs stream).mapM fun line => runAndPrint engine tracing (.joined line)
    return .finished (statusOf (failures.any id))
  -- For each input the effects of its run come first, and then its outcome is printed.
  prints : ∀ tracing, ∀ line ∈ inputs stream, runAndPrint engine tracing (.joined line) =
    enact (engine.givesUp line)
      ((engine.effects (Text.commaPieces line)).map .cause ++
        .print ("\n" ++ engine.shown (Text.commaPieces line) ++ "\n") ::
          (engine.exhibits tracing (Text.commaPieces line) ++ [.print "\n"]))
  -- The console answers with what is printed, and nothing to lines that are skipped.
  answers : ∃ last, Console.answers { engine } ((Text.streamLines stream).map dropLineFeed) =
    Reporting.perform
      ((Text.streamLines stream).map fun line =>
        if Text.isSkipped line then none
        else some (engine.shown (Text.commaPieces (dropLineFeed line))), last)
      ((inputs stream).flatMap fun line => engine.effects (Text.commaPieces line))
  -- Both have the effects of all runs in order, and come to the same status.
  finish : ∀ phase,
    (phase = .conversing { engine } ∨ ∃ tracing, phase = .filtering engine tracing false) →
    ∃ deeds, feedAll phase (arrivals stream) =
        enact (.finished (statusOf ((inputs stream).any engine.givesUp))) deeds ∧
      Deed.effects deeds =
        (inputs stream).flatMap fun line => engine.effects (Text.commaPieces line)
  -- Only a filter that shows traces can break off where the console goes on.
  same : ∀ tracing around output,
    let filtered :=
      (feedAll (.filtering engine tracing false) (arrivals stream)).runWith around output
    let conversed := (feedAll (.conversing { engine }) (arrivals stream)).runWith around output
    (filtered.1 = conversed.1 ∧ filtered.2.records = conversed.2.records) ∨
      tracing = true ∧ ∃ fault, filtered.1 = .error (.listing fault)

/-- Without commands among its lines, a stream makes no difference between a filter and a console.
-/
theorem modes_agree (engine : Engine) (stream : String)
    (plain : ∀ line ∈ Text.streamLines stream, Console.isCommand line = false) :
    Concord engine stream where
  filter tracing := by
    rw [arrivals, feedAll_filtering engine tracing false fun _ => dropLineFeeds_of_mem, ← inputs]
    simp only [Bool.false_or]
  prints tracing line _ := runAndPrint_eq_enact engine tracing (.joined line)
  answers := by
    obtain ⟨last, answered⟩ := Console.answers_eq_perform (plain_arrivals plain)
      (show ({ engine } : Console).tracing = false from rfl)
    refine ⟨last, ?_⟩
    rw [answered, filter_isInput_arrivals plain, List.map_map]
    simp only [Function.comp_def, isSkipped_dropLineFeed]
  finish := by
    rintro phase (rfl | ⟨tracing, rfl⟩)
    · refine ⟨_, feedAll_conversing_eq_enact plain engine, ?_⟩
      rw [Console.effects_conversationDeeds (plain_arrivals plain) rfl,
        filter_isInput_arrivals plain]
    · refine ⟨_, feedAll_filtering_eq_enact engine tracing stream, ?_⟩
      simp only [Deed.effects_flatMap, Engine.effects_inputDeeds]
  same tracing around output := by
    let phase := Phase.finished (statusOf ((inputs stream).any engine.givesUp))
    have conversing := runWith_enact around phase
      (Console.conversationDeeds { engine } ((Text.streamLines stream).map dropLineFeed))
      (Eq.refl output.records)
    have filtering := runWith_enact around phase
      ((inputs stream).flatMap fun line => engine.inputDeeds tracing (Text.commaPieces line))
      (Eq.refl output.records)
    rw [← feedAll_conversing_eq_enact plain,
      Console.effects_conversationDeeds (plain_arrivals plain) rfl,
      filter_isInput_arrivals plain] at conversing
    rw [← feedAll_filtering_eq_enact, Deed.effects_flatMap] at filtering
    simp only [Engine.effects_inputDeeds] at filtering
    rcases conversing with ⟨result, records⟩ | ⟨trace, _, shown, _⟩
    · rcases filtering with ⟨sameResult, sameRecords⟩ | ⟨trace, fault, shown, -, stopped⟩
      · exact .inl ⟨sameResult.trans result.symm, sameRecords.trans records.symm⟩
      · obtain ⟨line, -, shownHere⟩ := List.mem_flatMap.mp shown
        cases tracing with
        | true => exact .inr ⟨rfl, fault, stopped⟩
        | false => exact absurd shownHere (engine.exhibit_notMem_inputDeeds _ trace)
    · rcases Console.mem_conversationDeeds shown with
        ⟨_, same⟩ | ⟨_, _, _, _, _, same⟩ | ⟨_, _, same⟩ <;> exact nomatch same

def murmur : String := " old,old\n\n  # young\n\tyoung , lava"

theorem modes_agree_murmur :
    (∀ line ∈ Text.streamLines murmur, Console.isCommand line = false) ∧
    inputs murmur = [" old,old", "\tyoung , lava"] ∧
    (inputs murmur).any Console.impatient.engine.givesUp = true ∧
    Concord Console.impatient.engine murmur := by
  have plain : ∀ line ∈ Text.streamLines murmur, Console.isCommand line = false := by
    decide +kernel
  exact ⟨plain, by decide +kernel, by decide +kernel, modes_agree _ _ plain⟩

end Program

end MultisetSubstitution
