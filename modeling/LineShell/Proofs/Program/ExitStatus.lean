import LineShell.Proofs.Program.Alive
import LineShell.Sandbox

/-! The exit status.  A session that `exit` ends comes to the status that was asked for, by whichever way
the line came to the shell, and the program hands on the last eight bits of it. -/
namespace LineShell

namespace Session
variable (ω ε σ : Type) [Sink ω] [Sink ε] [Host σ]

/-- A line by which a session is left with a status. -/
structure LeftBy (line : String) (code : Int32) : Prop where
  flow (s : Shell ω ε σ) : s.takesGoodbye = true →
    s.perform (words line) = (.leave code, (s.print "Goodbye!\n").2)
  /-- When it is typed, no line is asked for after it, and whatever else there is to be read plays no
  role. -/
  typed {quiet : Bool} {file? : Option StartupFile} {before : List Reading}
    {s t u : Shell ω ε σ} {i j k : Interrupt} : upTo quiet file? before s i = .ready t j →
    t.running = true → ask t j = (none, u, k) → u.handsOnGoodbye = true →
    ∀ (raises : Bool) (rest : List Reading),
      let ended := run quiet file? (before ++ { reply := .line line, raises } :: rest) s i
      ended.result = .ok code ∧ ended.shell.prompts = u.prompts ∧
        ended = run quiet file? (before ++ [{ reply := .line line, raises }]) s i
  /-- When it stands in the startup file, no line is asked for at all. -/
  sourced {quiet : Bool} {file : StartupFile} {text : String} {before after : List String}
    {s g t : Shell ω ε σ} {i : Interrupt} : say quiet (banner ++ "\n") s i = .ready g i →
    Host.readFile g.host file.path = .ok (utf8 text) → textLines text = before ++ line :: after →
    g.source before = (.proceed, t) → t.running = true → t.takesGoodbye = true →
    ∀ readings : List Reading,
      let ended := run quiet (some file) readings s i
      ended.result = .ok code ∧ ended.shell.prompts = s.prompts

variable {ω ε σ} {s t g : Shell ω ε σ} {i j : Interrupt}

omit [Sink ε] [Host σ] in
theorem prompts_of_say {quiet : Bool} {text : String} (h : say quiet text s i = .ready t j) :
    t.prompts = s.prompts := by
  have hshell : (say quiet text s i).shell.prompts = s.prompts := by
    rw [say, shell_onward]
    split
    · rfl
    · exact Shell.prompts_print s text
  rwa [h] at hshell

theorem start_of_exit_status {quiet : Bool} {file : StartupFile} {text line status : String}
    {before after more : List String} (hgreeted : say quiet (banner ++ "\n") s i = .ready g i)
    (hfile : Host.readFile g.host file.path = .ok (utf8 text))
    (hlines : textLines text = before ++ line :: after) (hbefore : g.source before = (.proceed, t))
    (hrun : t.running = true) (htakes : t.takesGoodbye = true)
    (hwords : words line = Builtin.exit.name :: status :: more) :
    start quiet (some file) s i = .finished ⟨(heed (t.print "Goodbye!\n").2 i).1,
      (heed (t.print "Goodbye!\n").2 i).2, .ok (exitCode status)⟩ := by
  rw [start_of_text hgreeted hfile, hlines,
    Shell.source_exit_status hbefore hrun htakes hwords]

theorem run_of_exit_status {quiet : Bool} {file? : Option StartupFile} {before : List Reading}
    {u : Shell ω ε σ} {k : Interrupt} {line status : String} {more : List String}
    (hupTo : upTo quiet file? before s i = .ready t j) (hrun : t.running = true)
    (hask : ask t j = (none, u, k)) (hhands : u.handsOnGoodbye = true)
    (hwords : words line = Builtin.exit.name :: status :: more) (raises : Bool)
    (rest : List Reading) :
    run quiet file? (before ++ { reply := .line line, raises } :: rest) s i =
      ⟨((u.remember line).print "Goodbye!\n").2.flush.2, k.raiseIf raises,
        .ok (exitCode status)⟩ := by
  obtain ⟨htakes, hlets⟩ : u.takesGoodbye = true ∧
      (u.print "Goodbye!\n").2.flush.1.isNone = true := by
    rwa [Shell.handsOnGoodbye, Bool.and_eq_true] at hhands
  have hflush : ((u.remember line).print "Goodbye!\n").2.flush.1 = none :=
    Option.isNone_iff_eq_none.mp hlets
  rw [run_of_upTo hupTo, talk_of_exit_status hrun hask hwords htakes, leave_of_flushed hflush]

theorem leftBy_exit_status {line status : String} {more : List String}
    (hwords : words line = Builtin.exit.name :: status :: more) :
    LeftBy ω ε σ line (exitCode status) where
  flow s htakes := by rw [hwords, Shell.perform_exit_status htakes]
  typed {quiet file? before s t u i j k} hupTo hrun hask hhands raises rest := by
    have hended := run_of_exit_status hupTo hrun hask hhands hwords raises
    refine ⟨?_, ?_, ?_⟩
    · rw [hended]
    · rw [hended]
      exact Shell.prompts_print (u.remember line) "Goodbye!\n"
    · rw [hended, hended]
  sourced {quiet file text before after s g t i} hgreeted hfile hlines hbefore hrun htakes
      readings := by
    have hstart := start_of_exit_status hgreeted hfile hlines hbefore hrun htakes hwords
    have hprompts : t.prompts = s.prompts := by
      have hsource := (Shell.changes_source g before).prompts
      rw [hbefore] at hsource
      exact hsource.trans (prompts_of_say hgreeted)
    have hended : run quiet (some file) readings s i = ⟨(heed (t.print "Goodbye!\n").2 i).1,
        (heed (t.print "Goodbye!\n").2 i).2, .ok (exitCode status)⟩ := by rw [run, hstart]
    refine ⟨?_, ?_⟩
    · rw [hended]
    · rw [hended, ← hprompts, ← Shell.prompts_print t "Goodbye!\n"]
      rfl

end Session

namespace Program
open Session
variable {σ : Type} [Host σ]

theorem outcome_runBy {course : Course σ} {args : List String} {o : Options} {p : Setting σ}
    {i : Interrupt} {code : Int32} (hargs : Options.ofArgs args = .ok o) (hhelp : o.help = false)
    (hversion : o.version = false) (hhooked : hooked p = .ok i)
    (hresult : (endOf course o p i).result = .ok code) (halive : Alive (endOf course o p i).shell) :
    (runBy course args p).outcome = .exited (code.toInt % 256).toNat := by
  have hreport : (runBy course args p).outcome =
      (reportOf p.shows (endOf course o p i)).outcome := by
    simp only [runBy, hargs, hhelp, hversion, Bool.false_eq_true, if_false, session, hhooked]
  rw [hreport, outcome_reportOf halive hresult]

theorem endOf_talk (readings : List Reading) (o : Options) (p : Setting σ) (i : Interrupt) :
    endOf (fun quiet => talk quiet readings) o p i =
      Session.run o.quiet (startupOf o p) readings (opening p) i := by
  rw [endOf, Session.run]
  cases Session.start o.quiet (startupOf o p) (opening p) i <;> rfl

variable (σ) in
/-- A line that ends the program with the last eight bits of a status. -/
structure EndedBy (line : String) (code : Int32) : Prop where
  /-- When it is typed, whatever is read before it and whatever else there is to be read. -/
  typed {args : List String} {o : Options} {p : Setting σ} {before : List Reading}
    {t : Shell Limited Limited σ} {i j : Interrupt} :
    Options.ofArgs args = .ok o → o.help = false → o.version = false → hooked p = .ok i →
    upTo o.quiet (startupOf o p) before (opening p) i = .ready t j →
    t.running = true → Alive t →
    ∀ (raises : Bool) (rest : List Reading),
      (run (before ++ { reply := .line line, raises } :: rest) args p).outcome =
        .exited (code.toInt % 256).toNat
  /-- When it stands in the startup file, whichever way a session would go on. -/
  sourced {args : List String} {o : Options} {p : Setting σ} {file : StartupFile}
    {text : String} {before after : List String} {g t : Shell Limited Limited σ} {i : Interrupt} :
    Options.ofArgs args = .ok o → o.help = false → o.version = false → hooked p = .ok i →
    startupOf o p = some file → say o.quiet (banner ++ "\n") (opening p) i = .ready g i →
    Host.readFile g.host file.path = .ok (utf8 text) → textLines text = before ++ line :: after →
    g.source before = (.proceed, t) → t.running = true → Alive t →
    ∀ course : Course σ, (runBy course args p).outcome = .exited (code.toInt % 256).toNat

theorem endedBy_exit_status {line status : String} {more : List String}
    (hwords : words line = Builtin.exit.name :: status :: more) :
    EndedBy σ line (exitCode status) where
  typed {args o p before t i j} hargs hhelp hversion hhooked hupTo hrun halive raises rest := by
    have hout : Sink.Reliable t.out :=
      reliable_of_ready (turns_upTo o.quiet _ before _ _) hupTo (Limited.reliable rfl)
    obtain ⟨u, hasking, hshows⟩ := shows_asking hout j
    have hasked : Alive u := halive.of_shows hshows (by cases j.pending <;> rfl)
    have hremembered : Alive (u.remember line) := hasked
    have hhands := Shell.handsOnGoodbye_of_reliable hshows.out
    have hended :=
      run_of_exit_status hupTo hrun (ask_of_asking hasking) hhands hwords raises rest
    rw [← endOf_talk] at hended
    apply outcome_runBy hargs hhelp hversion hhooked
    · rw [hended]
    · rw [hended]
      exact hremembered.print "Goodbye!\n"
  sourced {args o p file text before after g t i} hargs hhelp hversion hhooked hfile hgreeted hread
      hlines hbefore hrun halive course := by
    have hout : Sink.Reliable t.out := by
      obtain ⟨g', hgreeted', hshows⟩ := shows_say (s := opening p) (Limited.reliable rfl) o.quiet
        (banner ++ "\n") i
      rw [hgreeted] at hgreeted'
      cases hgreeted'
      have hsource := (Shell.changes_source g before).reliable hshows.out
      rwa [hbefore] at hsource
    have hended : endOf course o p i = ⟨(heed (t.print "Goodbye!\n").2 i).1,
        (heed (t.print "Goodbye!\n").2 i).2, .ok (exitCode status)⟩ := by
      rw [endOf, hfile, start_of_exit_status hgreeted hread hlines hbefore hrun
        (Shell.takesGoodbye_of_reliable hout) hwords]
    apply outcome_runBy hargs hhelp hversion hhooked
    · rw [hended]
    · rw [hended]
      exact halive.print "Goodbye!\n"

end Program

/-- Whatever `exit` is given first is the status, cut down to 32 bits once and to eight by the system. -/
theorem exit_status_comes_out {line status : String} {more : List String}
    (hwords : words line = Builtin.exit.name :: status :: more) (ω ε σ : Type) [Sink ω] [Sink ε]
    [Host σ] :
    ComesOutAs status (exitCode status) ∧
      Session.LeftBy ω ε σ line (exitCode status) ∧
      (∀ (s : Shell ω ε σ) (others : List String),
        s.perform (Builtin.exit.name :: status :: others) = s.perform (words line)) ∧
      Program.EndedBy σ line (exitCode status) := by
  refine ⟨comesOutAs_exitCode status, Session.leftBy_exit_status hwords, ?_,
    Program.endedBy_exit_status hwords⟩
  intro s others
  rw [hwords, Shell.perform_exit_later s status others more]

section Resigning
open Session Program

def resigning : Setting Sandbox where
  env := {}
  host := { tree := { nodes := #[.directory 0 [("rc", 1)],
    .file (utf8 "# leave\nexit -0300x 3\n") 0o644] } }

/-- The status is below zero, and the zero before it and the letter behind it are not part of it. -/
theorem exit_status_comes_out_resigning :
    words "exit -0300x 3" = [Builtin.exit.name, "-0300x", "3"] ∧
      (exitCode "-0300x").toInt = -300 ∧
      (Session.run true none [{ reply := .line "exit -0300x 3" }, { reply := .line "exit" }]
        (opening resigning) {}).shell.prompts = ["[shell:/]$ "] ∧
      (Program.run [{ reply := .line "exit -0300x 3" }, { reply := .line "exit" }] ["-q", "-n"]
        resigning).outcome = .exited 212 ∧
      (Program.run [{ reply := .line "exit" }] ["-q", "-c", "/rc"] resigning).outcome =
        .exited 212 := by
  have hwords : words "exit -0300x 3" = [Builtin.exit.name, "-0300x", "3"] := by decide
  have hwrites : IntText.Writes ⟨[], ['-'], ['0', '3', '0', '0'], ['x']⟩ (-300) :=
    ⟨by simp, .inl ⟨rfl, by decide⟩, ⟨1, by decide⟩, by simp⟩
  obtain ⟨hcomes, hleft, -, hends⟩ := exit_status_comes_out hwords Limited Limited Sandbox
  have hcode : (exitCode "-0300x").toInt = -300 :=
    hcomes.written hwrites (by decide) (by decide) (by decide)
  have hready {i : Interrupt} :
      upTo true none [] (opening resigning) i = .ready (opening resigning) i := rfl
  have hargs : Options.ofArgs ["-q", "-n"] = .ok { quiet := true, noStartup := true } := by decide
  have htyped := hends.typed hargs rfl rfl rfl hready rfl rfl false [{ reply := .line "exit" }]
  have hargs' : Options.ofArgs ["-q", "-c", "/rc"] =
      .ok { quiet := true, startup := some "/rc" } := by
    decide
  have hread : Host.readFile resigning.host "/rc" = .ok (utf8 "# leave\nexit -0300x 3\n") := by
    cbv
  have hlines : textLines "# leave\nexit -0300x 3\n" = ["# leave"] ++ "exit -0300x 3" :: [] := by
    decide
  have hnote : ¬ StartupFile.isCommand "# leave" = true := by decide
  have hbefore : (opening resigning).source ["# leave"] = (.proceed, opening resigning) :=
    Shell.source_cons_of_not_isCommand hnote _ []
  have hsourced := hends.sourced (p := resigning) hargs' rfl rfl rfl rfl rfl hread hlines hbefore
    rfl rfl fun quiet => talk quiet [{ reply := .line "exit" }]
  obtain ⟨-, hprompts, -⟩ :=
    hleft.typed (i := {}) hready rfl rfl (by decide) false [{ reply := .line "exit" }]
  rw [hcode] at htyped hsourced
  exact ⟨hwords, hcode, hprompts, htyped, hsourced⟩

end Resigning
end LineShell
