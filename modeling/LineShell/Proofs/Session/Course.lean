import LineShell.Proofs.Session.Happening
import Mathlib.Data.Nat.Find

/-! The course that a session would take if nothing ended it.  What a happening does is said apart
from whether it ends the session, so that the first one that does can be looked for. -/
namespace LineShell

namespace Session
variable {ω ε σ : Type} [Sink ω]

/-- The shell when an answer comes back: signals were heeded and a line was asked for. -/
def asked (c : Shell ω ε σ × Interrupt) : Shell ω ε σ × Interrupt :=
  (ask (heed c.1 c.2).1 (heed c.1 c.2).2).2

/-- With an output that never fails, nothing but the prompt's appearing is seen of asking. -/
theorem ask_of_reliable {s : Shell ω ε σ} (h : Sink.Reliable s.out) (i : Interrupt) :
    ∃ t : Shell ω ε σ, ask s i = (none, t.note (.read s.prompt), i.take.2) ∧
      t.toState = s.toState ∧ t.signals = s.signals ∧ t.prompts = s.prompts ∧
      Sink.Reliable t.out := by
  cases hpending : i.pending with
  | false =>
    refine ⟨s.flush.2, ?_, rfl, rfl, rfl, Shell.reliable_flush h⟩
    simp only [ask, Interrupt.take, hpending, Bool.false_eq_true, if_false, Shell.flush_eq h]
    rfl
  | true =>
    have hprint := Shell.reliable_print h "\n"
    refine ⟨(s.print "\n").2.flush.2, ?_, rfl, rfl, s.prompts_print "\n",
      Shell.reliable_flush hprint⟩
    rw [Shell.print_eq h] at hprint ⊢
    simp only [ask, Interrupt.take, hpending, if_true, Shell.print_eq h, Shell.flush_eq hprint]
    rfl

theorem asked_eq {c : Shell ω ε σ × Interrupt} (h : Sink.Reliable c.1.out) :
    ask (heed c.1 c.2).1 (heed c.1 c.2).2 = (none, asked c) := by
  obtain ⟨t, hask, -⟩ := ask_of_reliable (s := (heed c.1 c.2).1) h (heed c.1 c.2).2
  rw [asked, hask]

theorem asked_spec {c : Shell ω ε σ × Interrupt} (h : Sink.Reliable c.1.out) :
    (asked c).1.toState = c.1.toState ∧ (asked c).1.signals = [] ∧
      (asked c).1.prompts = c.1.prompts ++ [c.1.prompt] ∧ Sink.Reliable (asked c).1.out := by
  obtain ⟨t, hask, hstate, hsignals, hprompts, hout⟩ :=
    ask_of_reliable (s := (heed c.1 c.2).1) h (heed c.1 c.2).2
  rw [asked, hask]
  refine ⟨hstate, hsignals, ?_, hout⟩
  rw [Shell.prompts_note_read, hprompts]
  rfl

variable [Sink ε] [Host σ]

/-- What an answer does to a shell, as if it ended nothing. -/
def answered (quiet : Bool) (s : Shell ω ε σ) : Reply → Shell ω ε σ
  | .line text => (s.typed text).2
  | .interrupted => if quiet then s else (s.print (interruptHint ++ "\n")).2
  | .endOfInput | .failed _ => s

theorem reliable_answered (quiet : Bool) {s : Shell ω ε σ} (h : Sink.Reliable s.out)
    (reply : Reply) : Sink.Reliable (answered quiet s reply).out := by
  cases reply with
  | line text => exact Shell.reliable_typed h text
  | interrupted =>
    cases quiet with
    | false => exact Shell.reliable_print h _
    | true => exact h
  | endOfInput | failed => exact h

theorem running_of_answered {quiet : Bool} {s : Shell ω ε σ} {reply : Reply}
    (h : (answered quiet s reply).running = true) : s.running = true := by
  cases reply with
  | line text => exact Shell.running_of_typed h
  | interrupted => cases quiet <;> exact h
  | endOfInput | failed => exact h

theorem prompts_answered (quiet : Bool) (s : Shell ω ε σ) (reply : Reply) :
    (answered quiet s reply).prompts = s.prompts := by
  cases reply with
  | line text => exact Shell.prompts_typed s text
  | interrupted =>
    cases quiet with
    | false => exact Shell.prompts_print s _
    | true => rfl
  | endOfInput | failed => rfl

/-- One happening more, as if it ended nothing. -/
def advance (quiet : Bool) (c : Shell ω ε σ × Interrupt) : Happening → Shell ω ε σ × Interrupt
  | .sourced line => ((c.1.perform (words line)).2, c.2)
  | .read r => (answered quiet (asked c).1 r.reply, (asked c).2.raiseIf r.raises)

theorem reliable_advance (quiet : Bool) {c : Shell ω ε σ × Interrupt}
    (h : Sink.Reliable c.1.out) (happening : Happening) :
    Sink.Reliable (advance quiet c happening).1.out := by
  cases happening with
  | sourced line => exact (Shell.changes_perform c.1 (words line)).reliable h
  | read r => exact reliable_answered quiet (asked_spec h).2.2.2 r.reply

theorem running_of_advance {quiet : Bool} {c : Shell ω ε σ × Interrupt}
    (h : Sink.Reliable c.1.out) {happening : Happening}
    (hrun : (advance quiet c happening).1.running = true) : c.1.running = true := by
  cases happening with
  | sourced line => exact (Shell.changes_perform c.1 (words line)).running hrun
  | read r =>
    have hasked : (asked c).1.running = true := running_of_answered hrun
    rwa [(asked_spec h).1] at hasked

def endingOf (c : Shell ω ε σ × Interrupt) : Happening → Option Ending
  | .sourced line => Ending.ofCommand (c.1.perform (words line))
  | .read r =>
    match r.reply with
    | .line text => Ending.ofCommand ((asked c).1.typed text)
    | .interrupted => none
    | .endOfInput => some .inputOver
    | .failed error => some (.broken error)

theorem endingOf_eq {c : Shell ω ε σ × Interrupt} (hout : Sink.Reliable c.1.out)
    (hrun : c.1.running = true) (happening : Happening) :
    endingOf c happening = happening.ending? := by
  cases happening with
  | sourced line => exact Ending.ofCommand_perform hout hrun (words line)
  | read r =>
    obtain ⟨hstate, -, -, hasked⟩ := asked_spec hout
    have hrunning : (asked c).1.running = true := by rwa [hstate]
    rw [endingOf, Happening.ending?]
    cases r.reply with
    | line text => exact Ending.ofCommand_typed hasked hrunning text
    | interrupted | endOfInput | failed => rfl

theorem running_advance {quiet : Bool} {c : Shell ω ε σ × Interrupt} {happening : Happening}
    (hout : Sink.Reliable c.1.out) (hrun : c.1.running = true)
    (hnone : endingOf c happening = none) :
    (advance quiet c happening).1.running = true := by
  cases happening with
  | sourced line =>
    rw [advance]
    rw [endingOf] at hnone
    exact Ending.running_of_ofCommand hnone
  | read r =>
    obtain ⟨hstate, -, -, -⟩ := asked_spec hout
    have hrunning : (asked c).1.running = true := by rwa [hstate]
    rw [advance]
    rw [endingOf] at hnone
    cases hreply : r.reply with
    | line text =>
      rw [hreply] at hnone
      exact Ending.running_of_ofCommand hnone
    | interrupted =>
      cases quiet with
      | false => exact hrunning
      | true => exact hrunning
    | endOfInput | failed => exact hrunning

/-- Where a session has come to after so many happenings, if nothing ends it. -/
def course (quiet : Bool) (happenings : Nat → Happening) (c : Shell ω ε σ × Interrupt) :
    Nat → Shell ω ε σ × Interrupt
  | 0 => c
  | n + 1 => advance quiet (course quiet happenings c n) (happenings n)

section Course
variable {quiet : Bool} {happenings : Nat → Happening} {c : Shell ω ε σ × Interrupt}

theorem course_succ (n : Nat) : course quiet happenings c (n + 1) =
    course quiet (fun m => happenings (m + 1)) (advance quiet c (happenings 0)) n := by
  induction n with
  | zero => rfl
  | succ n ih =>
    rw [course, ih]
    rfl

theorem course_congr {others : Nat → Happening} {n : Nat}
    (h : ∀ m < n, others m = happenings m) :
    course quiet others c n = course quiet happenings c n := by
  induction n with
  | zero => rfl
  | succ n ih => rw [course, course, ih fun m hm => h m (by omega), h n (by omega)]

theorem reliable_course (h : Sink.Reliable c.1.out) (n : Nat) :
    Sink.Reliable (course quiet happenings c n).1.out := by
  induction n with
  | zero => exact h
  | succ n ih => exact reliable_advance quiet ih _

theorem running_of_course (h : Sink.Reliable c.1.out) {m n : Nat} (hmn : m ≤ n)
    (hrun : (course quiet happenings c n).1.running = true) :
    (course quiet happenings c m).1.running = true := by
  induction n with
  | zero =>
    have hm : m = 0 := by omega
    rwa [hm]
  | succ n ih =>
    by_cases hm : m = n + 1
    · rwa [hm]
    · exact ih (by omega) (running_of_advance (reliable_course h n) hrun)

theorem prompts_course {lines : List String} {readings : List Reading}
    (h : Sink.Reliable c.1.out) (n : Nat) :
    (course quiet (Happening.nth lines readings) c n).1.prompts = c.1.prompts ++
      (List.range' lines.length (n - lines.length)).map fun m =>
        (course quiet (Happening.nth lines readings) c m).1.prompt := by
  induction n with
  | zero => simp [course]
  | succ n ih =>
    have hout : Sink.Reliable (course quiet (Happening.nth lines readings) c n).1.out :=
      reliable_course h n
    rw [course]
    by_cases hn : n < lines.length
    · have hnone : n + 1 - lines.length = n - lines.length := by omega
      rw [Happening.nth_of_lt readings hn, hnone, ← ih]
      exact (Shell.changes_perform _ _).prompts
    · obtain ⟨r, hr⟩ := Happening.nth_of_le readings (Nat.le_of_not_lt hn)
      have hone : n + 1 - lines.length = n - lines.length + 1 := by omega
      have hlast : lines.length + (n - lines.length) = n := by omega
      rw [hr, advance, prompts_answered, (asked_spec hout).2.2.1, ih, hone,
        List.range'_concat, List.map_append, Nat.one_mul, hlast]
      simp

end Course

/-- The first happening that ends the session, and how it does. -/
structure EndsAt (quiet : Bool) (happenings : Nat → Happening) (c : Shell ω ε σ × Interrupt)
    (n : Nat) (ending : Ending) : Prop where
  now : endingOf (course quiet happenings c n) (happenings n) = some ending
  before {m : Nat} (h : m < n) : endingOf (course quiet happenings c m) (happenings m) = none

namespace EndsAt
variable {quiet : Bool} {happenings : Nat → Happening} {c : Shell ω ε σ × Interrupt} {n : Nat}
  {ending : Ending}

theorem succ (h : EndsAt quiet happenings c (n + 1) ending) :
    EndsAt quiet (fun m => happenings (m + 1)) (advance quiet c (happenings 0)) n ending where
  now := by
    rw [← course_succ]
    exact h.now
  before := by
    intro m hm
    rw [← course_succ]
    exact h.before (by omega)

theorem eq_zero (h : EndsAt quiet happenings c n ending) (hnow : endingOf c (happenings 0) ≠ none) :
    n = 0 := by
  by_contra hn
  exact hnow (h.before (Nat.pos_of_ne_zero hn))

theorem ne_zero (h : EndsAt quiet happenings c n ending) (hnone : endingOf c (happenings 0) = none) :
    n ≠ 0 := by
  rintro rfl
  have hnow : endingOf c (happenings 0) = some ending := h.now
  rw [hnone] at hnow
  cases hnow

/-- Happenings after the one that ends the session do not matter. -/
theorem congr {others : Nat → Happening} (h : EndsAt quiet happenings c n ending)
    (hothers : ∀ m ≤ n, others m = happenings m) : EndsAt quiet others c n ending where
  now := by
    rw [course_congr fun m hm => hothers m (by omega), hothers n (Nat.le_refl n)]
    exact h.now
  before := by
    intro m hm
    rw [course_congr fun k hk => hothers k (by omega), hothers m (by omega)]
    exact h.before hm

end EndsAt

/-- The end of the input ends every session, if nothing else does. -/
theorem exists_endsAt (quiet : Bool) (lines : List String) (readings : List Reading)
    (c : Shell ω ε σ × Interrupt) :
    ∃ n ending, n ≤ lines.length + readings.length ∧
      EndsAt quiet (Happening.nth lines readings) c n ending := by
  let endingAt (n : Nat) : Option Ending :=
    endingOf (course quiet (Happening.nth lines readings) c n) (Happening.nth lines readings n)
  have hpast : (endingAt (lines.length + readings.length)).isSome := by
    simp only [endingAt, Happening.nth_past]
    rfl
  have hsome : ∃ n, (endingAt n).isSome := ⟨_, hpast⟩
  obtain ⟨ending, hending⟩ := Option.isSome_iff_exists.mp (Nat.find_spec hsome)
  refine ⟨Nat.find hsome, ending, Nat.find_min' hsome hpast, hending, ?_⟩
  intro m hm
  simpa [endingAt] using Nat.find_min hsome hm

end Session
end LineShell
