import MultisetSubstitution.CommandLine

/-! What every request has that a command line is read to: a path of the attributes, and a limit
that allows a pass, if it is a number. -/

set_option autoImplicit false

namespace MultisetSubstitution.CommandLine

/-- No double dash is a value before the one that makes values of all that follow it. -/
def Dashed : List Argument → Prop
  | [] => True
  | ⟨_, .doubleDash⟩ :: rest => ∀ argument ∈ rest, argument.role = .value
  | ⟨text, .value⟩ :: rest => text ≠ "--" ∧ Dashed rest
  | ⟨_, .mention _⟩ :: rest | ⟨_, .unknown⟩ :: rest => Dashed rest

theorem roleOf_ne_doubleDash (text : String) : roleOf text ≠ .ok .doubleDash := by
  unfold roleOf
  grind

theorem classify_dashed {texts : List String} {arguments : List Argument}
    (classified : classify texts = .ok arguments) : Dashed arguments := by
  induction texts generalizing arguments with
  | nil =>
    cases classified
    trivial
  | cons text rest ih =>
    rw [classify] at classified
    split at classified
    · cases classified
      intro argument member
      obtain ⟨_, _, rfl⟩ := List.mem_map.mp member
      rfl
    · rename_i other
      cases found : roleOf text with
      | error fault => simp [found, bind, Except.bind] at classified
      | ok role =>
        cases later : classify rest with
        | error fault => simp [found, later, bind, Except.bind] at classified
        | ok others =>
          simp only [found, later, bind, Except.bind, pure, Except.pure] at classified
          cases classified
          have dashed := ih later
          cases role with
          | value => exact ⟨other, dashed⟩
          | doubleDash => exact absurd found (roleOf_ne_doubleDash text)
          | mention mention => exact dashed
          | unknown => exact dashed

namespace Reading

variable {reading next : Reading}

theorem files_set {flag : Flag} {value : String} (done : reading.set flag value = .ok next) :
    next.files = reading.files := by
  unfold set at done
  grind

theorem files_setAll {flags : List (Flag × String)} (done : reading.setAll flags = .ok next) :
    next.files = reading.files := by
  induction flags generalizing reading with
  | nil =>
    cases done
    rfl
  | cons entry rest ih =>
    rw [setAll, List.foldlM_cons] at done
    cases first : reading.set entry.1 entry.2 with
    | error reason => simp [first, bind, Except.bind] at done
    | ok middle =>
      simp only [first, bind, Except.bind] at done
      exact (ih done).trans (files_set first)

def Named (reading : Reading) (arguments : List Argument) : Prop :=
  match reading.files with
  | [] => Dashed arguments
  | file :: _ => file.isSome = true

theorem named_addFile {file : Option String} (path : reading.files = [] → file.isSome = true)
    {before after : List Argument} (named : reading.Named before) :
    (reading.addFile file).Named after := by
  unfold Named addFile
  unfold Named at named
  cases files : reading.files with
  | nil => exact path files
  | cons first others =>
    rw [files] at named
    exact named

theorem Named.mono {before after : List Argument} (named : reading.Named before)
    (files : next.files = reading.files) (goesOn : Dashed before → Dashed after) :
    next.Named after := by
  unfold Named at named ⊢
  rw [files]
  cases same : reading.files with
  | nil =>
    rw [same] at named
    exact goesOn named
  | cons first others =>
    rw [same] at named
    exact named

theorem Named.of_full {before after : List Argument} (named : reading.Named before)
    (full : ¬ reading.wantsFile = true) : reading.Named after := by
  unfold Named at named ⊢
  cases files : reading.files with
  | nil => exact absurd (by simp [wantsFile, files, fileNames]) full
  | cons first others =>
    rw [files] at named
    exact named

theorem Named.isSome_valueOf? {text : String} {rest : List Argument}
    (named : reading.Named (⟨text, .value⟩ :: rest)) (first : reading.files = []) :
    (valueOf? text).isSome = true := by
  unfold Named at named
  rw [first] at named
  simp [valueOf?, named.1]

theorem Named.take {arguments : List Argument} {last : Reading}
    (named : reading.Named arguments) (taken : reading.take arguments = .ok last) :
    last.Named [] := by
  fun_induction Reading.take reading arguments with
  | case1 reading =>
    cases taken
    exact named
  | case2 reading text wanted added dashes rest ih =>
    exact ih (named_addFile named.isSome_valueOf? named) taken
  | case3 reading text wanted added rest _ ih =>
    exact ih (named_addFile named.isSome_valueOf? named) taken
  | case4 reading text rest _ ih => exact ih (named.mono rfl And.right) taken
  | case5 reading dashes text rest wanted ih =>
    exact ih (named_addFile (fun _ => rfl) named) taken
  | case6 reading dashes text rest full ih => exact ih ((named.of_full full).mono rfl id) taken
  | case7 reading text rest alone ih =>
    refine ih (named.mono rfl fun values => ?_) taken
    cases rest with
    | nil => trivial
    | cons argument rest =>
      obtain ⟨value, role⟩ := argument
      obtain rfl : role = .value := values _ List.mem_cons_self
      exact absurd rfl (alone value rest)
  | case8 reading text rest ih => exact ih (named.mono rfl id) taken
  | case9 => exact nomatch taken
  | case10 reading text mention rest flags complete ih =>
    cases done : reading.setAll flags with
    | error reason => simp [done, bind, Except.bind] at taken
    | ok next =>
      simp only [done, bind, Except.bind] at taken
      exact ih next (named.mono (files_setAll done) id) taken
  | case11 reading text mention flags flag wants value rest ih =>
    cases done : reading.setAll (flags ++ [(flag, value)]) with
    | error reason => simp [done, bind, Except.bind] at taken
    | ok next =>
      simp only [done, bind, Except.bind] at taken
      exact ih next (named.mono (files_setAll done) And.right) taken
  | case12 => exact nomatch taken

theorem request_eq_ok {request : Request} (checked : reading.request = .ok request) :
    reading.files.head? = some request.attributes ∧
      request.maxIterations = reading.maxIterations ∧
      reading.maxIterations.filter (· < 1) = none := by
  unfold Reading.request at checked
  split at checked
  · rename_i attributes rules others files
    split at checked
    · exact nomatch checked
    · split at checked
      · exact nomatch checked
      · rename_i enough
        cases checked
        exact ⟨by rw [files, List.head?_cons], rfl, enough⟩
  · exact nomatch checked

end Reading

theorem parse_eq_ok {texts : List String} {request : Request}
    (parsed : parse texts = .ok request) :
    request.attributes.isSome = true ∧
      ∀ limit, request.maxIterations = some limit → 1 ≤ limit := by
  rw [parse] at parsed
  cases classified : classify texts with
  | error fault =>
    rw [classified] at parsed
    cases parsed
  | ok arguments =>
    rw [classified] at parsed
    change (Reading.take {} arguments >>= fun reading => reading.request.mapError Leave.usage) =
      .ok request at parsed
    cases taken : Reading.take {} arguments with
    | error reason =>
      rw [taken] at parsed
      cases parsed
    | ok reading =>
      rw [taken] at parsed
      change reading.request.mapError Leave.usage = .ok request at parsed
      have named : reading.Named [] := Reading.Named.take
        (show Reading.Named {} arguments from classify_dashed classified) taken
      cases checked : reading.request with
      | error fault =>
        rw [checked] at parsed
        cases parsed
      | ok made =>
        rw [checked] at parsed
        cases parsed
        obtain ⟨first, limit, enough⟩ := Reading.request_eq_ok checked
        constructor
        · unfold Reading.Named at named
          cases files : reading.files with
          | nil => simp [files] at first
          | cons file others =>
            rw [files] at named first
            exact Option.some.inj first ▸ named
        · intro most given
          rw [← limit, given] at enough
          simpa [Option.filter] using enough

end MultisetSubstitution.CommandLine
