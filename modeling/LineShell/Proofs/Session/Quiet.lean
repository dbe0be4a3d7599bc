import LineShell.Proofs.Command.Failure
import LineShell.Proofs.Command.Launches
import LineShell.Proofs.Session.InStep
import LineShell.Proofs.Session.Whole

/-! A quiet session leaves out the greeting, what is said of trouble with the startup file, and the
hints, and nothing else. -/
namespace LineShell

namespace Shell
variable {ω ε σ : Type}

/-- What is said of a startup file that could not be loaded. -/
def trouble [Sink ω] [Sink ε] [Host σ] (s : Shell ω ε σ) : Option StartupFile → List Event
  | none => []
  | some file =>
    match (s.load file).1 with
    | .ok _ => []
    | .error error => [.err (utf8 ("shell: " ++ error.message ++ "\n"))]

end Shell

namespace Session
variable {ω ε σ : Type} [Sink ω] [Sink ε] [Host σ] {s : Shell ω ε σ}

/-- What a session that is not quiet says before anything else. -/
def greeting (s : Shell ω ε σ) (file? : Option StartupFile) : List Event :=
  .out (utf8 (banner ++ "\n")) :: s.trouble file?

theorem flatMap_greeting {α : Type} (f : Event → List α) (hout : ∀ bytes, f (.out bytes) = [])
    (file? : Option StartupFile) :
    (greeting s file?).flatMap f = (s.trouble file?).flatMap f := by
  rw [greeting, List.flatMap_cons, hout, List.nil_append]

theorem flatMap_trouble {α : Type} (f : Event → List α) (herr : ∀ bytes, f (.err bytes) = [])
    (file? : Option StartupFile) : (s.trouble file?).flatMap f = [] := by
  cases file? with
  | none => rfl
  | some file =>
    rw [Shell.trouble]
    cases (s.load file).1 with
    | ok next => rfl
    | error error => rw [List.flatMap_singleton, herr]

theorem sees_opened (hout : Sink.Reliable s.out) (herr : Sink.Reliable s.err)
    (file? : Option StartupFile) : Shell.Sees s (opened false file? s) (greeting s file?) := by
  have hgreeted : Shell.Sees s (s.print (banner ++ "\n")).2 [.out (utf8 (banner ++ "\n"))] := by
    rw [Shell.print_eq hout]
    exact ⟨rfl, (List.append_nil _).symm, rfl⟩
  have hcomplain (line : String) : Shell.Sees (s.print (banner ++ "\n")).2
      ((s.print (banner ++ "\n")).2.complain line) [.err (utf8 (line ++ "\n"))] := by
    refine ⟨?_, (List.append_nil _).symm, rfl⟩
    rw [Shell.complain, Shell.print]
    simp only [Shell.note, herr.offer_taken]
  rw [opened, if_neg (by simp), greeting]
  cases file? with
  | none => exact hgreeted
  | some file =>
    rw [Option.map_some, Shell.trouble, Shell.load_eq_read]
    cases file.read s.host with
    | ok lines => exact hgreeted
    | error error => exact hgreeted.trans (hcomplain _)

theorem signals_greeting (s : Shell ω ε σ) (file? : Option StartupFile) :
    (greeting s file?).filterMap Event.signal? = [] := by
  rw [List.filterMap_eq_flatMap_toList, flatMap_greeting _ fun _ => rfl,
    flatMap_trouble _ fun _ => rfl]

theorem level_opened (hout : Sink.Reliable s.out) (herr : Sink.Reliable s.err)
    (file? : Option StartupFile) : Shell.Level s (opened false file? s) where
  state := (toState_opened false file? s).symm
  signals := by
    rw [(sees_opened hout herr file?).signals, signals_greeting, List.append_nil]
  out := hout
  out' := (changes_opened false file? s).reliable hout
  err := by
    refine .of_reliable herr ?_
    rw [opened, if_neg (by simp)]
    split
    · exact herr.offer_sink _
    · exact herr
    · exact herr

theorem flatMap_hints {α : Type} (f : Event → List α) (hf : ∀ bytes, f (.out bytes) = [])
    (fresh : Nat → List Event → List Event) (reply : Nat → Reply) (opening : List Event)
    (exchanges : List Exchange) :
    (account fresh (fun _ => []) opening exchanges).flatMap f =
      (account fresh (fun n => hintFor false (reply n)) opening exchanges).flatMap f := by
  refine flatMap_account f (fun _ _ => rfl) (fun n => ?_) opening exchanges
  rw [hintFor]
  split
  · simp [hf]
  · rfl

/-- A quiet session beside a plain one that is given the same: the same comes of both, and the plain
one shows a greeting, with what is wrong with the startup file, and a hint after each prompt that is
answered with an interrupt. -/
structure OnlyHints (file? : Option StartupFile) (m : Manner) (s : Shell ω ε σ)
    (hushed plain : Ended ω ε σ) : Prop where
  result : hushed.result = plain.result
  pending : hushed.interrupt.pending = plain.interrupt.pending
  state : hushed.shell.toState = plain.shell.toState
  prompts : hushed.shell.prompts = plain.shell.prompts
  launches : hushed.shell.launches = plain.shell.launches
  account : ∃ opening exchanges, Complete opening exchanges ∧
    hushed.shell.transcript =
      s.transcript ++ Session.account m.fresh (fun _ => []) opening exchanges ∧
    plain.shell.transcript = s.transcript ++ greeting s file? ++
      Session.account m.fresh (fun n => hintFor false (m.reading n).reply) opening exchanges
  errBytes : ∃ bytes, hushed.shell.errBytes = s.errBytes ++ bytes ∧
    plain.shell.errBytes = s.errBytes ++ (s.trouble file?).flatMap Event.errBytes ++ bytes

/-- With streams that never fail, being quiet makes no difference but for the hints. -/
theorem quiet_only_hushes (hout : Sink.Reliable s.out) (herr : Sink.Reliable s.err)
    (file? : Option StartupFile) (readings : List Reading) (i : Interrupt) :
    OnlyHints file? (mannerOf true readings s i) s (run true file? readings s i)
      (run false file? readings s i) := by
  have hsees := sees_opened hout herr file?
  have hheed : (heed (opened false file? s) i).2 =
      heard ⟨(mannerOf false readings s i).first, (mannerOf false readings s i).hooked⟩ [] := by
    rw [heed_manner hsees false readings, heard_of_quiet _ (signals_greeting s file?),
      heard_of_quiet _ rfl]
  obtain ⟨opening, exchanges, hopening, htold⟩ : ∃ opening exchanges,
      opening.filterMap Event.prompt? = [] ∧
      ToldAlike (mannerOf true readings s i) (mannerOf false readings s i) s.transcript
        (s.transcript ++ greeting s file?) opening exchanges (run true file? readings s i)
        (run false file? readings s i) := by
    rw [run_eq_resume hout, run_eq_resume hout]
    exact toldAlike_resume (level_opened hout herr file?) _ (List.append_nil _).symm
      (hsees.transcript.trans (List.append_nil _).symm) (heed_manner (.refl s) _ _ _)
      hheed rfl
  have hhushed : (run true file? readings s i).shell.transcript = s.transcript ++
      account (mannerOf true readings s i).fresh (fun _ => []) opening exchanges :=
    htold.tells.transcript
  have hplain : (run false file? readings s i).shell.transcript = s.transcript ++
      greeting s file? ++ account (mannerOf true readings s i).fresh
        (fun n => hintFor false ((mannerOf true readings s i).reading n).reply) opening exchanges :=
    htold.tells'.transcript
  have hwhole {α : Type} (f : Event → List α) (hf : ∀ bytes, f (.out bytes) = [])
      (hf' : ∀ bytes, f (.err bytes) = []) :
      (run true file? readings s i).shell.transcript.flatMap f =
        (run false file? readings s i).shell.transcript.flatMap f := by
    rw [hhushed, hplain, List.flatMap_append, flatMap_hints f hf, List.flatMap_append,
      List.flatMap_append, flatMap_greeting f hf, flatMap_trouble f hf', List.append_nil]
  refine ⟨htold.result, htold.tells.pending.trans htold.tells'.pending.symm, htold.level.state, ?_,
    ?_, ⟨opening, exchanges, ⟨hopening, htold.unasked⟩, hhushed, hplain⟩,
    (account (mannerOf true readings s i).fresh (fun _ => []) opening exchanges).flatMap
      Event.errBytes, ?_, ?_⟩
  · simpa only [Shell.prompts, List.filterMap_eq_flatMap_toList] using
      hwhole _ (fun _ => rfl) fun _ => rfl
  · simpa only [Shell.launches, List.filterMap_eq_flatMap_toList] using
      hwhole _ (fun _ => rfl) fun _ => rfl
  · rw [Shell.errBytes, hhushed, List.flatMap_append]
    rfl
  · rw [Shell.errBytes, hplain, flatMap_hints _ fun _ => rfl, List.flatMap_append,
      List.flatMap_append, flatMap_greeting _ fun _ => rfl]
    rfl

def misplaced : StartupFile := { path := "/", named := true }

theorem quiet_only_hushes_trial : Sink.Reliable trial.out ∧ Sink.Reliable trial.err ∧
    trial.trouble (some misplaced) =
      [.err (utf8 "shell: IO error: Is a directory (os error 21)\n")] ∧
    OnlyHints (some misplaced) (mannerOf true trialReadings trial {}) trial
      (run true (some misplaced) trialReadings trial {})
      (run false (some misplaced) trialReadings trial {}) := by
  have hout : Sink.Reliable trial.out := Limited.reliable rfl
  have herr : Sink.Reliable trial.err := Limited.reliable rfl
  have hread : Host.readFile trial.host misplaced.path = .error Fault.isDirectory := by cbv
  refine ⟨hout, herr, ?_, quiet_only_hushes hout herr (some misplaced) trialReadings {}⟩
  rw [Shell.trouble, Shell.load, hread]
  decide +kernel

end Session
end LineShell
