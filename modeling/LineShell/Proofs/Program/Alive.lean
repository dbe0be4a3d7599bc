import LineShell.Program
import LineShell.Proofs.Session.Leaving
import LineShell.Proofs.Session.Shown

/-! The life of the program.  It lasts as long as no signal has ended it, and its output takes all that
is offered. -/
namespace LineShell

namespace Shell
variable {ω ε σ : Type} [Sink ω] [Sink ε] {s t : Shell ω ε σ}

theorem Turn.reliable (h : Turn s t) (hs : Sink.Reliable s.out) : Sink.Reliable t.out := by
  cases h with
  | change hchange => exact hchange.reliable hs
  | flush => exact reliable_flush hs
  | remember | read | heed => exact hs

/-- Nothing that happens in a session spoils a stream that never fails. -/
theorem Turns.reliable (h : Turns s t) (hs : Sink.Reliable s.out) : Sink.Reliable t.out := by
  induction h with
  | refl => exact hs
  | tail _ hlast ih => exact hlast.reliable ih

end Shell

namespace Session
open Shell
variable {ω ε σ : Type} [Sink ω] [Sink ε] [Host σ] {s t : Shell ω ε σ} {i j : Interrupt}

theorem turns_converse (quiet : Bool) (readings : List Reading) (s : Shell ω ε σ)
    (i : Interrupt) : Turns s (converse quiet readings s i).shell := by
  induction readings generalizing s i with
  | nil => exact .refl
  | cons reading rest ih =>
    rw [converse_cons]
    exact Stage.turns_andThen (turns_round quiet reading s i) ih

theorem turns_start (quiet : Bool) (file? : Option StartupFile) (s : Shell ω ε σ)
    (i : Interrupt) : Turns s (start quiet file? s i).shell := by
  rw [start_eq]
  exact Stage.turns_andThen (turns_say quiet _ s i) (turns_begin quiet file?)

theorem turns_upTo (quiet : Bool) (file? : Option StartupFile) (readings : List Reading)
    (s : Shell ω ε σ) (i : Interrupt) : Turns s (upTo quiet file? readings s i).shell :=
  Stage.turns_andThen (turns_start quiet file? s i) (turns_converse quiet readings)

omit [Host σ] in
theorem reliable_of_ready {stage : Stage ω ε σ} (hturns : Turns s stage.shell)
    (h : stage = .ready t j) (hs : Sink.Reliable s.out) : Sink.Reliable t.out := by
  rw [h] at hturns
  exact hturns.reliable hs

end Session

namespace Program
open Session

/-! The signal that ends the program. -/

theorem snd_upToEnd_append (first more : List Event) :
    (upToEnd (first ++ more)).2 = (upToEnd first).2.or (upToEnd more).2 := by
  induction first with
  | nil => rfl
  | cons event rest ih =>
    cases event with
    | signal n =>
      simp only [List.cons_append, upToEnd]
      split
      · exact ih
      · rfl
    | out | err | launch | read => exact ih

theorem snd_upToEnd_of_no_signals {events : List Event}
    (h : events.filterMap Event.signal? = []) : (upToEnd events).2 = none := by
  induction events with
  | nil => rfl
  | cons event rest ih =>
    cases event with
    | signal n => simp [Event.signal?] at h
    | out | err | launch | read => exact ih h

section Alive
variable {ω ε σ : Type} {s t : Shell ω ε σ}

/-- No signal has ended the program of a shell. -/
def Alive (s : Shell ω ε σ) : Prop := (upToEnd s.transcript).2 = none

theorem Alive.of_append {seen : List Event} (h : Alive s)
    (htranscript : t.transcript = s.transcript ++ seen)
    (hseen : seen.filterMap Event.signal? = []) : Alive t := by
  rw [Alive, htranscript, snd_upToEnd_append, h, snd_upToEnd_of_no_signals hseen]
  rfl

/-- The program of a session that came to a status hands on the last eight bits of it. -/
theorem outcome_reportOf {ended : Ended ω ε σ} (h : Alive ended.shell) {code : Int32}
    (hresult : ended.result = .ok code) (shows : String → List UInt8) :
    (reportOf shows ended).outcome = .exited (code.toInt % 256).toNat := by
  rw [Alive] at h
  simp only [reportOf, h, hresult]
  rfl

variable [Sink ω]

theorem Alive.of_shows {events : List Event} (h : Alive s) (hshows : Shows s t events)
    (hseen : events.filterMap Event.signal? = []) : Alive t :=
  h.of_append hshows.transcript hseen

theorem Alive.print (h : Alive s) (text : String) : Alive (s.print text).2 :=
  h.of_append rfl rfl

end Alive

end Program
end LineShell
