import LineShell.Proofs.Command.Failure
import LineShell.Proofs.Command.Output
import LineShell.Proofs.Session.InStep
import LineShell.Proofs.Session.Whole

/-! Interrupts do no more than redraw the prompt.  However often the flag is raised between one look
at it and the next, the next prompt is moved to a fresh line once. -/
namespace LineShell

/-- How an interrupt comes: through a clone of the flag, or as the system's signal. -/
inductive Alarm
  | raised
  | signaled
  deriving DecidableEq, Repr

namespace Alarm

def sound (i : Interrupt) : Alarm → Interrupt
  | raised => i.raise
  | signaled => i.signal

def reaches (hooked : Bool) : Alarm → Bool
  | raised => true
  | signaled => hooked

def ofSignals (signals : List Nat) : List Alarm :=
  (signals.filter (· == Signal.interrupt)).map fun _ => signaled

theorem any_ofSignals (hooked : Bool) (signals : List Nat) :
    (ofSignals signals).any (·.reaches hooked) =
      (hooked && signals.contains Signal.interrupt) := by
  rw [ofSignals, List.any_map, List.any_filter, List.contains_eq_any_beq]
  cases hooked <;> simp [reaches, BEq.comm]

end Alarm

namespace Interrupt

/-- An interrupt after these have come, one after another. -/
def sounded (i : Interrupt) (alarms : List Alarm) : Interrupt := alarms.foldl Alarm.sound i

theorem sounded_eq (i : Interrupt) (alarms : List Alarm) :
    i.sounded alarms = i.raiseIf (alarms.any (·.reaches i.hooked)) := by
  induction alarms generalizing i with
  | nil => rfl
  | cons alarm rest ih =>
    obtain ⟨pending, hooked⟩ := i
    rw [sounded, List.foldl_cons, ← sounded, ih, List.any_cons]
    cases alarm <;> cases hooked <;>
      simp [Alarm.sound, Alarm.reaches, raise, signal, raiseIf]

end Interrupt

namespace Session

/-- What the line editor comes back with, and what sounds while it is waited for. -/
structure Answer where
  reply : Reply
  alarms : List Alarm := []

/-- What a session is given: whether the hook is there, what sounds before it starts, and the
answers. -/
structure Script where
  hooked : Bool
  early : List Alarm
  answers : List Answer

namespace Script

def interrupt (script : Script) : Interrupt := Interrupt.sounded ⟨false, script.hooked⟩ script.early

def readings (script : Script) : List Reading :=
  script.answers.map fun answer =>
    ⟨answer.reply, (Interrupt.sounded ⟨false, script.hooked⟩ answer.alarms).pending⟩

def undisturbed (script : Script) : List Reading :=
  script.answers.map fun answer => { reply := answer.reply }

/-- What sounds before the first look at the flag, or while an answer is waited for. -/
def alarms (script : Script) : Nat → List Alarm
  | 0 => script.early
  | n + 1 => (script.answers[n]?.map Answer.alarms).getD []

def reply (script : Script) (n : Nat) : Reply :=
  (script.answers[n]?.map Answer.reply).getD .endOfInput

def heeding (script : Script) (signals : List Nat) : Script :=
  { script with early := script.early ++ Alarm.ofSignals signals }

/-- Whether the flag was raised since the last look at it, when this was seen meanwhile. -/
def noticed (script : Script) (n : Nat) (seen : List Event) : Bool :=
  (script.alarms n ++ Alarm.ofSignals (seen.filterMap Event.signal?)).any (·.reaches script.hooked)

def redraw (script : Script) (n : Nat) (seen : List Event) : List Event :=
  if script.noticed n seen then [.out (utf8 "\n")] else []

variable {ω ε σ : Type}

def manner (script : Script) (quiet : Bool) (s : Shell ω ε σ) : Manner :=
  mannerOf quiet script.readings s script.interrupt

theorem interrupt_eq (script : Script) :
    script.interrupt = ⟨script.early.any (·.reaches script.hooked), script.hooked⟩ := by
  rw [interrupt, Interrupt.sounded_eq]
  cases script.early.any (·.reaches script.hooked) <;> rfl

theorem replies_readings (script : Script) :
    script.readings.map (·.reply) = script.answers.map (·.reply) := by
  simp [readings]

theorem replies_undisturbed (script : Script) :
    script.undisturbed.map (·.reply) = script.answers.map (·.reply) := by
  simp [undisturbed]

theorem raised_manner (script : Script) (quiet : Bool) (s : Shell ω ε σ) (n : Nat) :
    (script.manner quiet s).raised n =
      ((script.heeding s.signals).alarms n).any (·.reaches script.hooked) := by
  cases n with
  | zero =>
    rw [Manner.raised, manner, mannerOf, heed_snd, interrupt_eq, alarms, heeding, List.any_append,
      Alarm.any_ofSignals]
  | succ n =>
    rw [Manner.raised, Manner.reading, manner, mannerOf, readings, List.getElem?_map, alarms, heeding]
    cases script.answers[n]? with
    | none => rfl
    | some answer =>
      simp only [Option.map_some, Option.getD_some, Interrupt.sounded_eq]
      cases answer.alarms.any (·.reaches script.hooked) <;> rfl

theorem noticed_manner (script : Script) (quiet : Bool) (s : Shell ω ε σ) (n : Nat)
    (seen : List Event) :
    (script.manner quiet s).noticed n seen = (script.heeding s.signals).noticed n seen := by
  rw [Manner.noticed, raised_manner, noticed, List.any_append, Alarm.any_ofSignals, manner,
    mannerOf, interrupt_eq]
  rfl

theorem fresh_manner (script : Script) (quiet : Bool) (s : Shell ω ε σ) :
    (script.manner quiet s).fresh = (script.heeding s.signals).redraw := by
  funext n seen
  rw [Manner.fresh, noticed_manner, redraw]

theorem fresh_undisturbed (script : Script) (quiet : Bool) :
    Manner.fresh ⟨quiet, script.undisturbed, false, false⟩ = fun _ _ => [] := by
  funext n seen
  have hraised : Manner.raised ⟨quiet, script.undisturbed, false, false⟩ n = false := by
    cases n with
    | zero => rfl
    | succ n =>
      rw [Manner.raised, Manner.reading, undisturbed, List.getElem?_map]
      cases script.answers[n]? <;> rfl
  rw [Manner.fresh, Manner.noticed, hraised]
  rfl

theorem hint_eq {m : Manner} {script : Script}
    (h : m.readings.map (·.reply) = script.answers.map (·.reply)) :
    m.hint = fun n => hintFor m.quiet (script.reply n) := by
  funext n
  have hreply := congrArg (fun replies : List Reply => replies[n]?.getD .endOfInput) h
  simp only [List.getElem?_map] at hreply
  rw [Manner.hint, reply, ← hreply, Manner.reading]
  cases m.readings[n]? <;> rfl

end Script

variable {ω ε σ : Type} [Sink ω] [Sink ε] [Host σ] {s : Shell ω ε σ}

/-- A disturbed session and an undisturbed one, given the same answers: the same comes of both, and
the disturbed one shows a newline more before each prompt that a raised flag precedes. -/
structure OnlyRedraws (quiet : Bool) (script : Script) (s : Shell ω ε σ)
    (disturbed undisturbed : Ended ω ε σ) : Prop where
  result : disturbed.result = undisturbed.result
  state : disturbed.shell.toState = undisturbed.shell.toState
  errBytes : disturbed.shell.errBytes = undisturbed.shell.errBytes
  prompts : disturbed.shell.prompts = undisturbed.shell.prompts
  account : ∃ opening exchanges, Complete opening exchanges ∧
    undisturbed.shell.transcript = s.transcript ++
      Session.account (fun _ _ => []) (fun n => hintFor quiet (script.reply n)) opening
        exchanges ∧
    disturbed.shell.transcript = s.transcript ++
      Session.account script.redraw (fun n => hintFor quiet (script.reply n)) opening exchanges ∧
    disturbed.interrupt.pending = script.noticed exchanges.length (lastSeen opening exchanges)

/-- With an output that never fails, interrupts only redraw the prompt, whenever and however often
they come. -/
theorem interrupts_only_redraw (hout : Sink.Reliable s.out) (quiet : Bool)
    (file? : Option StartupFile) (script : Script) :
    OnlyRedraws quiet (script.heeding s.signals) s
      (run quiet file? script.readings s script.interrupt)
      (run quiet file? script.undisturbed s {}) := by
  obtain ⟨first, hfirst⟩ := (changes_opened quiet file? s).sees
  have hlevel : Shell.Level (opened quiet file? s) (opened quiet file? s) :=
    .refl ((changes_opened quiet file? s).reliable hout)
  have hheed' : (heed (opened quiet file? s) {}).2 = heard {} first := by
    rw [heed_of_sees hfirst, heed_snd]
    rfl
  obtain ⟨seen, exchanges, hseen, htold⟩ : ∃ seen exchanges, seen.filterMap Event.prompt? = [] ∧
      ToldAlike (script.manner quiet s) ⟨quiet, script.undisturbed, false, false⟩ s.transcript
        s.transcript (first ++ seen) exchanges (run quiet file? script.readings s script.interrupt)
        (run quiet file? script.undisturbed s {}) := by
    rw [run_eq_resume hout, run_eq_resume hout]
    exact toldAlike_resume hlevel _ hfirst.transcript hfirst.transcript
      (heed_manner hfirst _ _ _) hheed'
      (script.replies_readings.trans script.replies_undisturbed.symm)
  have htranscript := htold.tells.transcript
  have htranscript' := htold.tells'.transcript
  have hpending := htold.tells.pending
  rw [script.fresh_manner, Script.hint_eq script.replies_readings] at htranscript
  rw [script.fresh_undisturbed, Script.hint_eq script.replies_undisturbed] at htranscript'
  rw [script.noticed_manner] at hpending
  have hsame {α : Type} (f : Event → List α) (hf : f (.out (utf8 "\n")) = []) :
      (run quiet file? script.readings s script.interrupt).shell.transcript.flatMap f =
        (run quiet file? script.undisturbed s {}).shell.transcript.flatMap f := by
    rw [htranscript, htranscript', List.flatMap_append, List.flatMap_append]
    congr 1
    refine flatMap_account f (fun n seen => ?_) (fun _ => rfl) _ _
    rw [Script.redraw]
    split
    · simp [hf]
    · rfl
  refine ⟨htold.result, htold.level.state, ?_, ?_, first ++ seen, exchanges,
    ⟨?_, htold.unasked⟩, htranscript', htranscript, hpending⟩
  · exact hsame Event.errBytes rfl
  · rw [Shell.prompts, Shell.prompts, List.filterMap_eq_flatMap_toList,
      List.filterMap_eq_flatMap_toList]
    exact hsame _ rfl
  · rw [List.filterMap_append, hfirst.unasked, hseen, List.append_nil]

/-- Two alarms before the start and two at the first prompt are one newline each, and the last is
left over. -/
def trialScript : Script where
  hooked := true
  early := [.raised, .signaled]
  answers := [{ reply := .interrupted, alarms := [.signaled, .raised] },
    { reply := .line "exit 7", alarms := [.signaled] }]

theorem interrupts_only_redraw_trial : Sink.Reliable trial.out ∧
    OnlyRedraws true trialScript trial
      (run true none trialScript.readings trial trialScript.interrupt)
      (run true none trialScript.undisturbed trial {}) ∧
    (run true none trialScript.undisturbed trial {}).shell.outBytes = utf8 "Goodbye!\n" ∧
    (run true none trialScript.readings trial trialScript.interrupt).shell.outBytes =
      utf8 "\n\nGoodbye!\n" ∧
    (run true none trialScript.readings trial trialScript.interrupt).interrupt.pending = true := by
  have hout : Sink.Reliable trial.out := Limited.reliable rfl
  exact ⟨hout, interrupts_only_redraw hout true none trialScript, by decide +kernel,
    by decide +kernel, by decide +kernel⟩

end Session
end LineShell
