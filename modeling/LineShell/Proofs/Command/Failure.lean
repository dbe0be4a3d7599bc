import LineShell.Proofs.Command.Changes
import LineShell.Sandbox

/-! Commands that fail.  Whatever goes wrong goes wrong before anything but the output has changed,
and the user is told once, in the words of the error. -/
namespace LineShell

/-- The bytes that an event brings to the error stream. -/
def Event.errBytes : Event → List UInt8
  | .err bytes => bytes
  | .out _ | .launch _ _ | .signal _ | .read _ => []

namespace Shell
variable {ω ε σ : Type} {s t u : Shell ω ε σ}

/-- All that the error stream has taken. -/
def errBytes (s : Shell ω ε σ) : List UInt8 := s.transcript.flatMap Event.errBytes

/-- The second shell is the first after it has printed, and done nothing else. -/
def OnlyPrinted (s t : Shell ω ε σ) : Prop :=
  ∃ (out : ω) (chunks : List (List UInt8)),
    t = { s with out, transcript := s.transcript ++ chunks.map Event.out }

namespace OnlyPrinted

theorem refl (s : Shell ω ε σ) : OnlyPrinted s s := ⟨s.out, [], by simp⟩

theorem trans (h : OnlyPrinted s t) (h' : OnlyPrinted t u) : OnlyPrinted s u := by
  obtain ⟨out, chunks, rfl⟩ := h
  obtain ⟨out', chunks', rfl⟩ := h'
  exact ⟨out', chunks ++ chunks', by simp⟩

theorem toState (h : OnlyPrinted s t) : t.toState = s.toState := by
  obtain ⟨out, chunks, rfl⟩ := h
  rfl

theorem err (h : OnlyPrinted s t) : t.err = s.err := by
  obtain ⟨out, chunks, rfl⟩ := h
  rfl

theorem errBytes (h : OnlyPrinted s t) : t.errBytes = s.errBytes := by
  obtain ⟨out, chunks, rfl⟩ := h
  simp [Shell.errBytes, List.flatMap_map, Event.errBytes]

end OnlyPrinted

theorem errBytes_note (s : Shell ω ε σ) (event : Event) :
    (s.note event).errBytes = s.errBytes ++ event.errBytes := by
  simp [errBytes, note]

theorem errBytes_complain [Sink ε] (s : Shell ω ε σ) (line : String) :
    (s.complain line).errBytes =
      s.errBytes ++ (Sink.offer s.err (utf8 (line ++ "\n"))).taken (utf8 (line ++ "\n")) :=
  errBytes_note { s with err := (Sink.offer s.err (utf8 (line ++ "\n"))).sink } _

theorem errBytes_print [Sink ω] (s : Shell ω ε σ) (text : String) :
    (s.print text).2.errBytes = s.errBytes := by
  simp [errBytes, print, note, Event.errBytes]

theorem errBytes_afterLaunch (s : Shell ω ε σ) (argv : List String) (launched : Launched σ) :
    (s.afterLaunch argv launched).errBytes = s.errBytes := by
  simp [errBytes, afterLaunch, Event.errBytes, List.flatMap_map]

variable [Sink ω]

theorem onlyPrinted_print (s : Shell ω ε σ) (text : String) : OnlyPrinted s (s.print text).2 :=
  ⟨_, [_], rfl⟩

theorem onlyPrinted_printLines (s : Shell ω ε σ) (lines : List String) :
    OnlyPrinted s (s.printLines lines).2 := by
  induction lines generalizing s with
  | nil => exact .refl s
  | cons line rest ih =>
    have hfirst := onlyPrinted_print s (line ++ "\n")
    rw [printLines]
    split
    · next t h =>
      rw [h] at hfirst
      exact hfirst.trans (ih t)
    · next fault t h =>
      rw [h] at hfirst
      exact hfirst

end Shell

namespace Builtin
open Shell
variable {ω ε σ : Type} {s t : Shell ω ε σ} {args : List String} {error : CommandError}

theorem eq_of_runAssign_error (h : runAssign s args = (.error error, t)) : t = s := by
  rw [runAssign] at h
  split at h
  · cases h
    rfl
  · split at h
    · cases h
      rfl
    · cases h

theorem eq_of_runRemove_error (h : runRemove s args = (.error error, t)) : t = s := by
  rw [runRemove] at h
  split at h
  · cases h
    rfl
  · split at h
    · cases h
      rfl
    · cases h

theorem eq_of_runCd_error [Host σ] (h : runCd s args = (.error error, t)) : t = s := by
  rw [runCd] at h
  split at h
  · cases h
    rfl
  · cases h

variable [Sink ω]

theorem onlyPrinted_of_runListing_error {lines : List String}
    (h : runListing s lines = (.error error, t)) : OnlyPrinted s t := by
  have hlines := onlyPrinted_printLines s lines
  rw [runListing] at h
  split at h
  · cases h
  · next heq =>
    rw [heq] at hlines
    cases h
    exact hlines

theorem onlyPrinted_of_runExit_error (h : runExit s args = (.error error, t)) :
    OnlyPrinted s t := by
  have hprint := onlyPrinted_print s "Goodbye!\n"
  rw [runExit] at h
  split at h
  · next heq =>
    rw [heq] at hprint
    cases h
    exact hprint
  · split at h <;> cases h

variable [Host σ]

/-- A command that fails has printed, and done nothing else. -/
theorem onlyPrinted_of_error {b : Builtin} (h : b.run s args = (.error error, t)) :
    OnlyPrinted s t := by
  cases b with
  | exit => exact onlyPrinted_of_runExit_error h
  | cd => exact eq_of_runCd_error h ▸ .refl s
  | assign => exact eq_of_runAssign_error h ▸ .refl s
  | remove => exact eq_of_runRemove_error h ▸ .refl s
  | pwd | help | echo | env | history => exact onlyPrinted_of_runListing_error h

end Builtin

namespace Shell
variable {ω ε σ : Type} {s t : Shell ω ε σ} [Sink ω] [Sink ε] [Host σ]

/-- A command that fails never ends the session. -/
theorem perform_of_error {name : String} {b : Builtin} (h : Builtin.ofName? name = some b)
    {args : List String} {error : CommandError} (herror : b.run s (name :: args) = (.error error, t)) :
    s.perform (name :: args) = (.proceed, t.complain error.message) ∧
      t.toState = s.toState := by
  refine ⟨?_, (Builtin.onlyPrinted_of_error herror).toState⟩
  simp only [perform, h, herror]

/-- A command that fails leaves all that commands go by as it was, whatever it was called with.  When
its words are carried out, the shell goes on, and an error stream that takes it gets the text of the
error and a newline. -/
theorem failure_atomic (b : Builtin) (s t : Shell ω ε σ) (args : List String)
    (error : CommandError) (h : b.run s args = (.error error, t)) :
    t.toState = s.toState ∧
      (args.head? = some b.name →
        (s.perform args).1 = .proceed ∧ (s.perform args).2.toState = s.toState ∧
          ((Sink.offer s.err (utf8 (error.message ++ "\n"))).fault? = none →
            (s.perform args).2.errBytes = s.errBytes ++ utf8 (error.message ++ "\n"))) := by
  have hprinted := Builtin.onlyPrinted_of_error h
  refine ⟨hprinted.toState, ?_⟩
  intro hname
  obtain ⟨rest, rfl⟩ := List.head?_eq_some_iff.mp hname
  obtain ⟨hperform, hstate⟩ := perform_of_error (Builtin.ofName?_name b) h
  rw [hperform]
  refine ⟨rfl, hstate, ?_⟩
  intro htakes
  rw [errBytes_complain, hprinted.errBytes, hprinted.err, Offer.taken_of_fault? htakes]

/-- A shell with room on its output for the first of its two bindings and a part of the second. -/
def brimming : Shell Limited Limited Sandbox where
  dir := "/"
  env := ⟨[("A", "b"), ("C", "dd")]⟩
  host := {}
  out := { room := some 6 }
  err := {}

theorem failure_atomic_brimming :
    (Builtin.env.run brimming ["env"]).1 = .error (.write .noSpace) ∧
      (brimming.perform ["env"]).2.toState = brimming.toState ∧
      (brimming.perform ["env"]).2.errBytes =
        utf8 "write error: No space left on device (os error 28)\n" := by
  have hrun : Builtin.env.run brimming ["env"] =
      (.error (.write .noSpace), (Builtin.env.run brimming ["env"]).2) := by rfl
  obtain ⟨-, hshown⟩ := failure_atomic .env brimming _ ["env"] _ hrun
  obtain ⟨-, hstate, herr⟩ := hshown rfl
  exact ⟨congrArg Prod.fst hrun, hstate, herr rfl⟩

end Shell
end LineShell
