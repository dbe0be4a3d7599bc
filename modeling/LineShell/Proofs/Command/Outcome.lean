import LineShell.Proofs.Command.Failure
import LineShell.Proofs.Command.Launches
import LineShell.Proofs.Command.Reliable

/-! What a command answers.  Only `exit` leaves the shell or stops it, if the output lets it. -/
namespace LineShell
variable {ω ε σ : Type} {s t : Shell ω ε σ}

namespace Builtin
variable [Sink ω]

theorem toState_runListing (s : Shell ω ε σ) (lines : List String) :
    (runListing s lines).2.toState = s.toState := by
  rw [snd_runListing, Shell.toState_printLines]

theorem runListing_ok {lines : List String} {next : Next} (h : runListing s lines = (.ok next, t)) :
    next = .proceed ∧ t.toState = s.toState := by
  have hstate := toState_runListing s lines
  rw [h] at hstate
  refine ⟨?_, hstate⟩
  rw [runListing] at h
  split at h <;> cases h
  rfl

variable [Host σ]

theorem run_ok_of_ne_exit {b : Builtin} (hb : b ≠ exit) {args : List String} {next : Next}
    (h : b.run s args = (.ok next, t)) : next = .proceed ∧ t.running = s.running := by
  cases b with
  | exit => exact absurd rfl hb
  | cd =>
    rw [run, runCd] at h
    split at h <;> cases h
    exact ⟨rfl, rfl⟩
  | assign =>
    rw [run, runAssign] at h
    split at h
    · cases h
    · split at h <;> cases h
      exact ⟨rfl, rfl⟩
  | remove =>
    rw [run, runRemove] at h
    split at h
    · cases h
    · split at h <;> cases h
      exact ⟨rfl, rfl⟩
  | pwd | help | echo | env | history =>
    obtain ⟨hnext, hstate⟩ := runListing_ok h
    exact ⟨hnext, congrArg State.running hstate⟩

end Builtin

namespace Shell

section Goodbye
variable [Sink ω]

def takesGoodbye (s : Shell ω ε σ) : Bool := (Sink.offer s.out (utf8 "Goodbye!\n")).fault?.isNone

theorem takesGoodbye_of_reliable (h : Sink.Reliable s.out) : s.takesGoodbye = true := by
  simp [takesGoodbye, h.offer_fault?]

end Goodbye

variable [Sink ω] [Sink ε] [Host σ]

theorem perform_of_ok {name : String} {b : Builtin} (h : Builtin.ofName? name = some b)
    {args : List String} {next : Next} (hrun : b.run s (name :: args) = (.ok next, t)) :
    s.perform (name :: args) = (next, t) := by
  simp only [perform, h, hrun]

/-- A word that names no command of the shell's own never ends the session. -/
theorem perform_of_program {name : String} (h : Builtin.ofName? name = none) (s : Shell ω ε σ)
    (args : List String) : ∃ t, s.perform (name :: args) = (.proceed, t) ∧
      t.toState = { s.toState with host := t.host } := by
  refine ⟨_, perform_program h s args, ?_⟩
  rw [toState_foldl_complain]
  rfl

theorem perform_of_ne_exit {name : String} (h : name ≠ Builtin.exit.name) (s : Shell ω ε σ)
    (args : List String) : ∃ t, s.perform (name :: args) = (.proceed, t) ∧
      t.running = s.running := by
  cases hb : Builtin.ofName? name with
  | none =>
    obtain ⟨t, hperform, ht⟩ := perform_of_program hb s args
    have hrunning := congrArg State.running ht
    exact ⟨t, hperform, hrunning⟩
  | some b =>
    have hname := Builtin.name_of_ofName? hb
    have hexit : b ≠ .exit := by
      rintro rfl
      exact h hname.symm
    cases hrun : b.run s (name :: args) with
    | mk answer t =>
      cases answer with
      | ok next =>
        obtain ⟨rfl, hrunning⟩ := Builtin.run_ok_of_ne_exit hexit hrun
        exact ⟨t, perform_of_ok hb hrun, hrunning⟩
      | error error =>
        obtain ⟨hperform, hstate⟩ := perform_of_error hb hrun
        exact ⟨_, hperform, congrArg State.running hstate⟩

/-- With an output that takes its goodbye, `exit` leaves the shell or stops it. -/
theorem perform_exit (h : s.takesGoodbye = true) (args : List String) :
    ∃ t : Shell ω ε σ, t.running = s.running ∧
      s.perform (Builtin.exit.name :: args) = match args with
        | status :: _ => (.leave (Int32.ofInt (leadingInt status)), t)
        | [] => (.proceed, { t with running := false }) := by
  have hprint : s.print "Goodbye!\n" = (none, (s.print "Goodbye!\n").2) :=
    Prod.ext (Option.isNone_iff_eq_none.mp h) rfl
  refine ⟨(s.print "Goodbye!\n").2, rfl, ?_⟩
  simp only [perform, Builtin.ofName?_name, Builtin.run, Builtin.runExit]
  rw [hprint]
  cases args <;> rfl

/-- A goodbye that is cut short makes `exit` a command that fails. -/
theorem perform_exit_of_cut (h : s.takesGoodbye = false) (args : List String) :
    ∃ t : Shell ω ε σ, t.toState = s.toState ∧
      s.perform (Builtin.exit.name :: args) = (.proceed, t) := by
  obtain ⟨fault, hfault⟩ := Option.isSome_iff_exists.mp (Option.isNone_eq_false_iff.mp h)
  have hprint : s.print "Goodbye!\n" = (some fault, (s.print "Goodbye!\n").2) :=
    Prod.ext hfault rfl
  have hrun : Builtin.exit.run s (Builtin.exit.name :: args) =
      (.error (.write fault), (s.print "Goodbye!\n").2) := by
    rw [Builtin.run, Builtin.runExit, hprint]
  obtain ⟨hperform, hstate⟩ := perform_of_error (Builtin.ofName?_name .exit) hrun
  exact ⟨_, (toState_complain _ _).trans hstate, hperform⟩

end Shell
end LineShell
