import LineShell.Proofs.Session.Conclusion
import LineShell.Sandbox

/-! Leaving by `exit`.  The command ends a session exactly when the output takes its goodbye whole.
A goodbye that is cut short makes it a command that fails, and the next line is asked for. -/
namespace LineShell
variable {ω ε σ : Type} [Sink ω]

namespace Session

theorem toState_ask (s : Shell ω ε σ) (i : Interrupt) : (ask s i).2.1.toState = s.toState := by
  have hfirst : (if i.take.1 then s.print "\n" else (none, s)).2.toState = s.toState := by
    split <;> rfl
  rw [ask]
  simp only
  split
  · next heq => rwa [heq] at hfirst
  · next u heq =>
    have hflush := u.toState_flush
    rw [heq] at hfirst
    split <;> next hu =>
      rw [hu] at hflush
      exact hflush.trans hfirst

theorem prompts_leave (s : Shell ω ε σ) (i : Interrupt) (status : Int32) :
    (leave s i status).shell.prompts = s.prompts := by
  rw [leave]
  split <;> next heq => exact congrArg (fun r => r.2.prompts) heq.symm

end Session

variable [Sink ε] [Host σ]

/-- Whether `exit` ends a session is for the output to say, and how it does for the words. -/
theorem Ending.ofCommand_exit {s : Shell ω ε σ} (hrun : s.running = true) (args : List String) :
    ofCommand (s.perform (Builtin.exit.name :: args)) =
      if s.takesGoodbye then ofWords (Builtin.exit.name :: args) else none := by
  cases hgoodbye : s.takesGoodbye with
  | true =>
    obtain ⟨t, -, hperform⟩ := Shell.perform_exit hgoodbye args
    rw [hperform, if_pos rfl, ofWords, if_pos rfl]
    cases args <;> rfl
  | false =>
    obtain ⟨t, hstate, hperform⟩ := Shell.perform_exit_of_cut hgoodbye args
    have ht : t.running = true := (congrArg State.running hstate).trans hrun
    rw [hperform, ofCommand, if_pos ht, if_neg (by simp)]

namespace Session
section Line
variable {quiet : Bool} {s t : Shell ω ε σ} {i j : Interrupt} {line : String} {raises : Bool}

theorem prompts_talk_of_ending (hrun : s.running = true) (hask : ask s i = (none, t, j))
    (h : (Ending.ofCommand (t.typed line)).isSome) (rest : List Reading) :
    (talk quiet ({ reply := .line line, raises } :: rest) s i).shell.prompts = t.prompts := by
  rw [talk, converse, if_pos hrun, hask, ← Shell.prompts_typed t line]
  cases htyped : t.typed line with
  | mk next u =>
    rw [htyped] at h
    cases next with
    | leave status => simp only [htyped, prompts_leave]
    | proceed =>
      have hstop : (heed u (j.raiseIf raises)).1.running = false := by
        cases hu : u.running with
        | false => exact hu
        | true => simp [Ending.ofCommand, hu] at h
      have htalk := talk_of_stopped hstop quiet rest (heed u (j.raiseIf raises)).2
      rw [talk] at htalk
      simp only [htyped, htalk, prompts_leave]
      rfl

theorem talk_of_no_ending (hrun : s.running = true) (hask : ask s i = (none, t, j))
    (h : Ending.ofCommand (t.typed line) = none) (rest : List Reading) :
    talk quiet ({ reply := .line line, raises } :: rest) s i =
      talk quiet rest (heed (t.typed line).2 (j.raiseIf raises)).1
        (heed (t.typed line).2 (j.raiseIf raises)).2 := by
  rw [talk, converse, if_pos hrun, hask]
  cases htyped : t.typed line with
  | mk next u =>
    rw [htyped] at h
    cases next with
    | leave status => cases h
    | proceed => simp [htyped, talk]

end Line

/-- A shell that runs is ended by `exit` if and only if its output takes the whole goodbye.  If it
does, no line is asked for after the one that said so; if it does not, nothing has changed but the
log, and the session goes on with what is read next. -/
theorem exit_ends_iff_takesGoodbye (s : Shell ω ε σ) (hrun : s.running = true)
    (args : List String) :
    (Ending.ofCommand (s.perform (Builtin.exit.name :: args))).isSome = s.takesGoodbye ∧
      (s.takesGoodbye = false →
        (s.perform (Builtin.exit.name :: args)).2.toState = s.toState) ∧
      ∀ (quiet raises : Bool) (line : String) (rest : List Reading) (i j : Interrupt)
        (t : Shell ω ε σ), words line = Builtin.exit.name :: args → ask s i = (none, t, j) →
        (t.takesGoodbye = true →
          (talk quiet ({ reply := .line line, raises } :: rest) s i).shell.prompts = t.prompts) ∧
        (t.takesGoodbye = false → ∃ u k,
          talk quiet ({ reply := .line line, raises } :: rest) s i = talk quiet rest u k ∧
            u.toState = { s.toState with history := s.history.record line } ∧
            u.prompts = t.prompts) := by
  have hending {s : Shell ω ε σ} (hrun : s.running = true) :
      (Ending.ofCommand (s.perform (Builtin.exit.name :: args))).isSome = s.takesGoodbye := by
    rw [Ending.ofCommand_exit hrun]
    cases s.takesGoodbye
    · rfl
    · cases args <;> rfl
  refine ⟨hending hrun, ?_, ?_⟩
  · intro hcut
    obtain ⟨t, hstate, hperform⟩ := Shell.perform_exit_of_cut hcut args
    rw [hperform]
    exact hstate
  · intro quiet raises line rest i j t hwords hask
    have hstate : t.toState = s.toState := by
      have hasked := toState_ask s i
      rwa [hask] at hasked
    have ht : (t.remember line).running = true := (congrArg State.running hstate).trans hrun
    have htyped : t.typed line = (t.remember line).perform (Builtin.exit.name :: args) := by
      rw [Shell.typed, hwords]
      rfl
    constructor
    · intro htakes
      refine prompts_talk_of_ending hrun hask ?_ rest
      rw [htyped, hending ht]
      exact htakes
    · intro hcut
      have hcut' : (t.remember line).takesGoodbye = false := hcut
      obtain ⟨u, hu, hperform⟩ := Shell.perform_exit_of_cut hcut' args
      refine ⟨_, _, talk_of_no_ending hrun hask ?_ rest, ?_, ?_⟩
      · rw [htyped]
        simpa [hcut'] using hending ht
      · rw [htyped, hperform]
        have hlogged : (t.remember line).toState =
            { t.toState with history := t.history.record line } := rfl
        rw [hstate] at hlogged
        exact hu.trans hlogged
      · exact Shell.prompts_typed t line

def cramped : Shell Limited Limited Sandbox where
  dir := "/"
  host := {}
  out := { room := some 8 }
  err := {}

/-- A shell that runs and is told to exit still runs, and asks for another line. -/
theorem exit_outlived : cramped.running = true ∧
    (cramped.perform ["exit"]).1 = .proceed ∧ (cramped.perform ["exit"]).2.running = true ∧
    (cramped.perform ["exit", "3"]).1 = .proceed ∧
    (talk true [{ reply := .line "exit" }, { reply := .endOfInput }] cramped {}).shell.prompts =
      ["[shell:/]$ ", "[shell:/]$ "] := by
  decide +kernel

theorem exit_ends_iff_takesGoodbye_cramped : cramped.running = true ∧
    cramped.takesGoodbye = false ∧
    (Ending.ofCommand (cramped.perform ["exit"])).isSome = cramped.takesGoodbye ∧
    ∃ u k, talk true [{ reply := .line "exit" }, { reply := .endOfInput }] cramped {} =
        talk true [{ reply := .endOfInput }] u k ∧
      u.history.lines = ["exit"] ∧ u.prompts = ["[shell:/]$ "] := by
  have hcut : (ask cramped {}).2.1.takesGoodbye = false := by decide +kernel
  have hwords : words "exit" = [Builtin.exit.name] := by decide
  obtain ⟨hending, -, hsession⟩ := exit_ends_iff_takesGoodbye cramped rfl []
  obtain ⟨u, k, htalk, hstate, hprompts⟩ := (hsession true false "exit"
    [{ reply := .endOfInput }] {} _ _ hwords rfl).2 hcut
  refine ⟨rfl, by decide, hending, u, k, htalk, ?_, hprompts⟩
  exact congrArg (fun state => state.history.lines) hstate

end Session
end LineShell
