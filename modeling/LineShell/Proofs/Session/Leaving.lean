import LineShell.Proofs.Integer.Truncated
import LineShell.Proofs.Session.Farewell
import LineShell.Proofs.Session.Rounds
import LineShell.Proofs.Startup.FilesRead
import LineShell.Proofs.Startup.Reaching

/-! Leaving a session by `exit` with a status.  Whether the line was typed or stood in the startup file,
the session comes to that status and nothing more is read. -/
namespace LineShell
variable {ω ε σ : Type} [Sink ω] [Sink ε] [Host σ]

namespace Shell

omit [Sink ε] [Host σ] in
theorem print_goodbye {s : Shell ω ε σ} (h : s.takesGoodbye = true) :
    s.print "Goodbye!\n" = (none, (s.print "Goodbye!\n").2) :=
  Prod.ext (Option.isNone_iff_eq_none.mp h) rfl

/-- Whether the output takes a goodbye whole and lets it through when it is flushed. -/
def handsOnGoodbye (s : Shell ω ε σ) : Bool :=
  s.takesGoodbye && (s.print "Goodbye!\n").2.flush.1.isNone

omit [Sink ε] [Host σ] in
theorem handsOnGoodbye_of_reliable {s : Shell ω ε σ} (h : Sink.Reliable s.out) :
    s.handsOnGoodbye = true := by
  have hflush : (s.print "Goodbye!\n").2.flush.1 = none :=
    congrArg Prod.fst (flush_eq (reliable_print h _))
  rw [handsOnGoodbye, takesGoodbye_of_reliable h, hflush]
  rfl

theorem perform_exit_status {s : Shell ω ε σ} (h : s.takesGoodbye = true) (status : String)
    (more : List String) : s.perform (Builtin.exit.name :: status :: more) =
      (.leave (exitCode status), (s.print "Goodbye!\n").2) := by
  simp only [perform, Builtin.ofName?_name, Builtin.run, Builtin.runExit]
  rw [print_goodbye h]
  rfl

theorem perform_exit_later (s : Shell ω ε σ) (status : String) (more others : List String) :
    s.perform (Builtin.exit.name :: status :: more) =
      s.perform (Builtin.exit.name :: status :: others) := by
  simp only [perform, Builtin.ofName?_name, Builtin.run, Builtin.runExit, List.getElem?_cons_succ,
    List.getElem?_cons_zero]

theorem typed_exit_status {s : Shell ω ε σ} (h : s.takesGoodbye = true) {line status : String}
    {more : List String} (hwords : words line = Builtin.exit.name :: status :: more) :
    s.typed line = (.leave (exitCode status), ((s.remember line).print "Goodbye!\n").2) := by
  rw [typed, hwords]
  exact perform_exit_status (s := s.remember line) h status more

theorem source_exit_status {s t : Shell ω ε σ} {before after : List String} {line status : String}
    {more : List String} (hbefore : s.source before = (.proceed, t)) (hrun : t.running = true)
    (h : t.takesGoodbye = true) (hwords : words line = Builtin.exit.name :: status :: more) :
    s.source (before ++ line :: after) = (.leave (exitCode status), (t.print "Goodbye!\n").2) := by
  have hcommand : StartupFile.isCommand line = true :=
    StartupFile.isCommand_of_words (c := 'e') hwords rfl (by decide) (by decide)
  rw [source_append hbefore hrun, source_cons_of_isCommand hcommand, hwords,
    perform_exit_status h]

end Shell

namespace Session

omit [Sink ω] [Sink ε] [Host σ] in
theorem Stage.andThen_andThen (stage : Stage ω ε σ) (f g : Piece ω ε σ) :
    (stage.andThen f).andThen g = stage.andThen fun s i => (f s i).andThen g := by
  cases stage <;> rfl

theorem converse_append (quiet : Bool) (before rest : List Reading) (s : Shell ω ε σ)
    (i : Interrupt) : converse quiet (before ++ rest) s i =
      (converse quiet before s i).andThen (converse quiet rest) := by
  induction before generalizing s i with
  | nil => rfl
  | cons reading before ih =>
    have hrest : (converse quiet (before ++ rest) : Piece ω ε σ) = fun s i =>
        (converse quiet before s i).andThen (converse quiet rest) := by
      funext s i
      exact ih s i
    rw [List.cons_append, converse_cons, converse_cons, Stage.andThen_andThen, hrest]

theorem run_of_upTo {quiet : Bool} {file? : Option StartupFile} {before : List Reading}
    {s t : Shell ω ε σ} {i j : Interrupt} (h : upTo quiet file? before s i = .ready t j)
    (rest : List Reading) : run quiet file? (before ++ rest) s i = talk quiet rest t j := by
  rw [upTo] at h
  rw [run]
  cases hstart : start quiet file? s i with
  | finished ended =>
    rw [hstart] at h
    cases h
  | ready u k =>
    rw [hstart, Stage.andThen] at h
    simp only [talk, converse_append, h, Stage.andThen]

section Line
variable {quiet : Bool} {s t u : Shell ω ε σ} {i j : Interrupt} {line status : String}
  {more : List String}

/-- A typed line that leaves the shell ends the session, whatever else there is to be read. -/
theorem converse_of_leave {code : Int32} (hrun : s.running = true) (hask : ask s i = (none, t, j))
    (htyped : t.typed line = (.leave code, u)) (raises : Bool) (rest : List Reading) :
    converse quiet ({ reply := .line line, raises } :: rest) s i =
      .finished (leave u (j.raiseIf raises) code) := by
  rw [converse, if_pos hrun, hask]
  simp only [htyped]

omit [Sink ε] [Host σ] in
theorem leave_of_flushed (h : s.flush.1 = none) (i : Interrupt) (code : Int32) :
    leave s i code = ⟨s.flush.2, i, .ok code⟩ := by
  have hflush : s.flush = (none, s.flush.2) := Prod.ext h rfl
  rw [leave, hflush]

/-- So does `exit` with a status, and the session comes to that status if the output lets the goodbye
through. -/
theorem talk_of_exit_status (hrun : s.running = true) (hask : ask s i = (none, t, j))
    (hwords : words line = Builtin.exit.name :: status :: more) (htakes : t.takesGoodbye = true)
    (raises : Bool) (rest : List Reading) :
    talk quiet ({ reply := .line line, raises } :: rest) s i =
      leave ((t.remember line).print "Goodbye!\n").2 (j.raiseIf raises) (exitCode status) := by
  rw [talk, converse_of_leave hrun hask (Shell.typed_exit_status htakes hwords)]

/-- The startup file is read and its commands are carried out once the greeting is printed. -/
theorem start_of_text {file : StartupFile} {text : String} {g : Shell ω ε σ}
    (hgreeted : say quiet (banner ++ "\n") s i = .ready g i)
    (hfile : Host.readFile g.host file.path = .ok (utf8 text)) :
    start quiet (some file) s i = match g.source (textLines text) with
      | (.leave code, t) => .finished ⟨(heed t i).1, (heed t i).2, .ok code⟩
      | (.proceed, t) => .ready (heed t i).1 (heed t i).2 := by
  rcases hsource : g.source (textLines text) with ⟨_ | code, t⟩ <;>
    simp only [start_eq, hgreeted, Stage.andThen, begin, startUp_of_text hfile, hsource]

end Line
end Session
end LineShell
