import LineShell.Proofs.Session.Conclusion
import LineShell.Proofs.Startup.Sourcing

/-! Whole sessions.  The first happening that ends a session settles what comes of it, and what
would have happened later leaves no trace. -/
namespace LineShell.Session
variable {ω ε σ : Type} [Sink ω] [Sink ε] [Host σ]

abbrev happenings (file? : Option StartupFile) (readings : List Reading) (s : Shell ω ε σ) :
    Nat → Happening :=
  Happening.nth (StartupFile.commands s.host file?) readings

def after (quiet : Bool) (file? : Option StartupFile) (readings : List Reading)
    (s : Shell ω ε σ) (i : Interrupt) : Nat → Shell ω ε σ × Interrupt :=
  course quiet (happenings file? readings s) (opened quiet file? s, i)

/-- A session is over with its `n`-th happening, which ends it in the way that `ending` says. -/
structure Concludes (quiet : Bool) (file? : Option StartupFile) (readings : List Reading)
    (s : Shell ω ε σ) (i : Interrupt) (n : Nat) (ending : Ending) : Prop where
  within : n ≤ (StartupFile.commands s.host file?).length + readings.length
  first : EndsAt quiet (happenings file? readings s) (opened quiet file? s, i) n ending
  /-- If the shell runs at first, the words of the lines tell which happening this is. -/
  told : s.running = true →
    (happenings file? readings s n).ending? = some ending ∧
      ∀ m < n, (happenings file? readings s m).ending? = none
  result : (run quiet file? readings s i).result = ending.result
  state : (run quiet file? readings s i).shell.toState =
    (after quiet file? readings s i (n + 1)).1.toState
  transcript : (run quiet file? readings s i).shell.transcript =
    (after quiet file? readings s i (n + 1)).1.transcript ++ ending.farewell
  /-- A line is asked for once for each reading, up to this happening. -/
  prompts : (run quiet file? readings s i).shell.prompts = s.prompts ++
    (List.range' (StartupFile.commands s.host file?).length
      (n + 1 - (StartupFile.commands s.host file?).length)).map
        fun m => (after quiet file? readings s i m).1.prompt
  reads : (run quiet file? readings s i).shell.prompts.length ≤
    s.prompts.length + (readings.length + 1)
  unread : n < (StartupFile.commands s.host file?).length →
    (run quiet file? readings s i).shell.prompts = s.prompts
  /-- Whatever would have come later makes no difference. -/
  whatever (others : List Reading) :
    (∀ m ≤ n, happenings file? others s m = happenings file? readings s m) →
    run quiet file? others s i = run quiet file? readings s i
  stopped {m k : Nat} : m ≤ k → (after quiet file? readings s i m).1.running = false →
    (after quiet file? readings s i k).1.running = false

/-- What ends no session: a program, found or not, a command that fails, an interrupted line, and
a startup file with which something is wrong. -/
structure Harmless (ω ε σ : Type) [Sink ω] [Sink ε] [Host σ] (quiet : Bool) : Prop where
  program {s : Shell ω ε σ} {name : String} {args : List String} : s.running = true →
    Builtin.ofName? name = none → Ending.ofCommand (s.perform (name :: args)) = none
  failure {s t : Shell ω ε σ} {b : Builtin} {name : String} {args : List String}
    {error : CommandError} : s.running = true → Builtin.ofName? name = some b →
    b.run s (name :: args) = (.error error, t) →
    Ending.ofCommand (s.perform (name :: args)) = none
  interrupt (c : Shell ω ε σ × Interrupt) (raises : Bool) :
    endingOf c (.read { reply := .interrupted, raises }) = none
  trouble {s t : Shell ω ε σ} {file : StartupFile} {error : StartupError} :
    s.load file = (.error error, t) → StartupFile.commands s.host file = [] ∧
      ∃ u, startUp quiet s file = (.proceed, u) ∧ u.toState = s.toState

theorem harmless (quiet : Bool) : Harmless ω ε σ quiet where
  program := by
    intro s name args hrun hname
    obtain ⟨t, hperform, ht⟩ := Shell.perform_of_program hname s args
    have hrunning : t.running = true := (congrArg State.running ht).trans hrun
    rw [hperform, Ending.ofCommand, if_pos hrunning]
  failure := by
    intro s t b name args error hrun hname herror
    obtain ⟨hperform, hstate⟩ := Shell.perform_of_error hname herror
    have ht : t.running = true := by rwa [hstate]
    rw [hperform, Ending.ofCommand]
    exact if_pos ht
  interrupt := by
    intro c raises
    rfl
  trouble := by
    intro s t file error hload
    have hread := Shell.load_eq_read s file
    cases hfile : file.read s.host with
    | ok lines =>
      rw [hload, hfile] at hread
      cases hread
    | error other =>
      rw [hload, hfile] at hread
      cases hread
      refine ⟨by simp [StartupFile.commands, hfile], ?_⟩
      rw [startUp, hload]
      cases quiet with
      | false => exact ⟨_, rfl, rfl⟩
      | true => exact ⟨_, rfl, rfl⟩

section After
variable {quiet : Bool} {file? : Option StartupFile} {readings : List Reading} {s : Shell ω ε σ}
  {i : Interrupt} {n : Nat} {ending : Ending}

theorem reliable_opened (hout : Sink.Reliable s.out) :
    Sink.Reliable (opened quiet file? s).out :=
  (changes_opened quiet file? s).reliable hout

theorem running_opened (hrun : s.running = true) : (opened quiet file? s).running = true := by
  have hstate := toState_opened quiet file? s
  rwa [hstate]

theorem reliable_after (hout : Sink.Reliable s.out) (n : Nat) :
    Sink.Reliable (after quiet file? readings s i n).1.out :=
  reliable_course (c := (opened quiet file? s, i)) (reliable_opened hout) n

/-- Up to the first happening that ends a session, the shell runs if it ran at first. -/
theorem running_after (hout : Sink.Reliable s.out) (hrun : s.running = true)
    (hbefore : ∀ m < n,
      endingOf (after quiet file? readings s i m) (happenings file? readings s m) = none) :
    (after quiet file? readings s i n).1.running = true := by
  induction n with
  | zero => exact running_opened hrun
  | succ n ih =>
    have hn := ih fun m hm => hbefore m (by omega)
    exact running_advance (reliable_after hout n) hn (hbefore n (by omega))

theorem prompts_after (hout : Sink.Reliable s.out) (n : Nat) :
    (after quiet file? readings s i n).1.prompts = s.prompts ++
      (List.range' (StartupFile.commands s.host file?).length
        (n - (StartupFile.commands s.host file?).length)).map
          fun m => (after quiet file? readings s i m).1.prompt := by
  rw [← (changes_opened quiet file? s).prompts]
  exact prompts_course (c := (opened quiet file? s, i)) (reliable_opened hout) n

theorem run_concluded (hout : Sink.Reliable s.out)
    (hbegins : s.running = true ∨ StartupFile.commands s.host file? ≠ [])
    (h : EndsAt quiet (happenings file? readings s) (opened quiet file? s, i) n ending) :
    run quiet file? readings s i =
      concluded (after quiet file? readings s i n) (happenings file? readings s n) := by
  rw [run_eq_resume hout]
  refine resume_concluded (c := (opened quiet file? s, i)) (reliable_opened hout) ?_
    (fun _ => StartupFile.isCommand_of_mem_commands) h
  exact hbegins.imp_left running_opened

theorem concludes (hout : Sink.Reliable s.out)
    (hbegins : s.running = true ∨ StartupFile.commands s.host file? ≠ [])
    (hwithin : n ≤ (StartupFile.commands s.host file?).length + readings.length)
    (h : EndsAt quiet (happenings file? readings s) (opened quiet file? s, i) n ending) :
    Concludes quiet file? readings s i n ending := by
  have hrun := run_concluded hout hbegins h
  obtain ⟨hresult, hstate, htranscript⟩ := concluded_spec (reliable_after hout n) quiet h.now
  have hprompts : (run quiet file? readings s i).shell.prompts = s.prompts ++
      (List.range' (StartupFile.commands s.host file?).length
        (n + 1 - (StartupFile.commands s.host file?).length)).map
          fun m => (after quiet file? readings s i m).1.prompt := by
    have hfarewell : ending.farewell.filterMap Event.prompt? = [] := by cases ending <;> rfl
    rw [← prompts_after hout, hrun, Shell.prompts, htranscript, List.filterMap_append, hfarewell,
      List.append_nil]
    rfl
  refine {
    within := hwithin
    first := h
    told := ?told
    result := ?result
    state := ?state
    transcript := ?transcript
    prompts := hprompts
    reads := ?reads
    unread := ?unread
    whatever := ?whatever
    stopped := ?halted }
  case told =>
    intro hrunning
    have hending (m : Nat) (hm : m ≤ n) := endingOf_eq (reliable_after hout m)
      (running_after hout hrunning fun k hk => h.before (show k < n by omega))
      (happenings file? readings s m)
    refine ⟨(hending n (Nat.le_refl n)).symm.trans h.now, ?_⟩
    intro m hm
    exact (hending m (by omega)).symm.trans (h.before hm)
  case result => rw [hrun, hresult]
  case state =>
    rw [hrun]
    exact hstate
  case transcript =>
    rw [hrun]
    exact htranscript
  case reads =>
    rw [hprompts, List.length_append, List.length_map, List.length_range']
    omega
  case unread =>
    intro hunread
    have hnone : n + 1 - (StartupFile.commands s.host file?).length = 0 := by omega
    rw [hprompts, hnone]
    simp
  case whatever =>
    intro others hothers
    have hafter : after quiet file? others s i n = after quiet file? readings s i n :=
      course_congr fun m hm => hothers m (by omega)
    rw [run_concluded hout hbegins (h.congr hothers), hrun, hafter, hothers n (Nat.le_refl n)]
  case halted =>
    intro m k hmk hstopped
    by_contra hk
    have hm := running_of_course (c := (opened quiet file? s, i)) (reliable_opened hout) hmk
      (eq_true_of_ne_false hk)
    rw [after, hm] at hstopped
    cases hstopped

end After

/-- A session whose shell runs, or whose startup file holds a command, is over with the first
happening that ends it, and one always comes.  Any other session is over at once. -/
theorem run_concludes (quiet : Bool) (file? : Option StartupFile) (readings : List Reading)
    (s : Shell ω ε σ) (i : Interrupt) (hout : Sink.Reliable s.out) :
    (s.running = true ∨ StartupFile.commands s.host file? ≠ [] →
      ∃ n ending, Concludes quiet file? readings s i n ending) ∧
    (s.running = false → StartupFile.commands s.host file? = [] →
      (run quiet file? readings s i).result = .ok 0 ∧
      (run quiet file? readings s i).shell.toState = s.toState ∧
      (run quiet file? readings s i).shell.prompts = s.prompts ∧
      ∀ others, run quiet file? others s i = run quiet file? readings s i) ∧
    Harmless ω ε σ quiet := by
  refine ⟨?_, ?_, harmless quiet⟩
  · intro hbegins
    obtain ⟨n, ending, hwithin, h⟩ := exists_endsAt quiet (StartupFile.commands s.host file?)
      readings (opened quiet file? s, i)
    exact ⟨n, ending, concludes hout hbegins hwithin h⟩
  · intro hrunning hnone
    have hstate := toState_opened quiet file? s
    have hstopped : (heed (opened quiet file? s) i).1.running = false := by
      show (opened quiet file? s).running = false
      rwa [hstate]
    have hrun (others : List Reading) : run quiet file? others s i =
        leave (heed (opened quiet file? s) i).1 (heed (opened quiet file? s) i).2 0 := by
      rw [run_eq_resume hout, hnone]
      exact talk_of_stopped hstopped quiet others _
    obtain ⟨hresult, hleft, htranscript⟩ := leave_spec (s := (heed (opened quiet file? s) i).1)
      (reliable_opened hout) (heed (opened quiet file? s) i).2 0
    rw [← hrun readings] at hresult hleft htranscript
    refine ⟨hresult, hleft.trans hstate, ?_, ?_⟩
    · rw [Shell.prompts, htranscript]
      exact (changes_opened quiet file? s).prompts
    · intro others
      rw [hrun others, hrun readings]

def trial : Shell Limited Limited Sandbox where
  dir := "/"
  host := { tree := { nodes := #[.directory 0 [("rc", 1)],
    .file (utf8 "# nothing works\nunset\nnowhere\n") 0o644] } }
  out := {}
  err := {}

/-- An interrupted line, a command that fails, one that leaves the shell, and one too late. -/
def trialReadings : List Reading :=
  [{ reply := .interrupted, raises := true }, { reply := .line "cd /missing" },
    { reply := .line "exit 7" }, { reply := .line "exit 8" }]

theorem run_concludes_trial : Sink.Reliable trial.out ∧ trial.running = true ∧
    Concludes false (some { path := "/rc", named := true }) trialReadings trial {} 4 (.left 7) := by
  have hout : Sink.Reliable trial.out := Limited.reliable rfl
  have hcommands : StartupFile.commands trial.host (some { path := "/rc", named := true }) =
      ["unset", "nowhere"] := by cbv
  have hmeets : happenings (some { path := "/rc", named := true }) trialReadings trial =
      Happening.nth ["unset", "nowhere"] trialReadings := by rw [happenings, hcommands]
  obtain ⟨n, ending, h⟩ := (run_concludes false (some { path := "/rc", named := true })
    trialReadings trial {} hout).1 (.inl rfl)
  obtain ⟨hnow, hbefore⟩ := h.told rfl
  rw [hmeets] at hnow hbefore
  have hle : n ≤ 4 := by
    by_contra hn
    exact absurd (hbefore 4 (by omega)) (by decide +kernel)
  have hn : n = 4 := by
    by_contra hn
    have hall : ∀ m < 4, (Happening.nth ["unset", "nowhere"] trialReadings m).ending? = none := by
      decide +kernel
    rw [hall n (by omega)] at hnow
    cases hnow
  have hending : (Happening.nth ["unset", "nowhere"] trialReadings 4).ending? =
      some (.left 7) := by decide +kernel
  subst hn
  rw [hending] at hnow
  cases hnow
  exact ⟨hout, rfl, h⟩

end LineShell.Session
