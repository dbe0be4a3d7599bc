import LineShell.Proofs.Session.Course
import LineShell.Proofs.Startup.Commands

/-! A session is its course, cut at the first happening that ends it. -/
namespace LineShell

namespace Session
variable {ω ε σ : Type}

theorem heed_of_no_signals {s : Shell ω ε σ} (h : s.signals = []) (i : Interrupt) :
    heed s i = (s, i) := by
  cases s
  simp_all [heed]

variable [Sink ω]

/-- Taking leave of an output that never fails writes nothing more. -/
theorem leave_spec {s : Shell ω ε σ} (hout : Sink.Reliable s.out) (i : Interrupt)
    (status : Int32) :
    (leave s i status).result = .ok status ∧ (leave s i status).shell.toState = s.toState ∧
      (leave s i status).shell.transcript = s.transcript := by
  rw [leave, Shell.flush_eq hout]
  exact ⟨rfl, rfl, rfl⟩

theorem endOfInput_eq {s : Shell ω ε σ} (hout : Sink.Reliable s.out) (i : Interrupt) :
    endOfInput s i = leave (s.print "\n").2 i 0 := by
  simp only [endOfInput, Shell.print_eq hout]

variable [Sink ε] [Host σ]

def concluded (c : Shell ω ε σ × Interrupt) : Happening → Ended ω ε σ
  | .sourced line =>
    match c.1.perform (words line) with
    | (.leave status, s) => ⟨(heed s c.2).1, (heed s c.2).2, .ok status⟩
    | (.proceed, s) => leave (heed s c.2).1 (heed s c.2).2 0
  | .read r =>
    let i := (asked c).2.raiseIf r.raises
    match r.reply with
    | .line text =>
      match (asked c).1.typed text with
      | (.leave status, s) => leave s i status
      | (.proceed, s) => leave (heed s i).1 (heed s i).2 0
    | .interrupted => leave (asked c).1 i 0
    | .endOfInput => endOfInput (asked c).1 i
    | .failed error => ⟨(asked c).1, i, .error error⟩

def resume (quiet : Bool) (readings : List Reading) (i : Interrupt) :
    Next × Shell ω ε σ → Ended ω ε σ
  | (.leave status, s) => ⟨(heed s i).1, (heed s i).2, .ok status⟩
  | (.proceed, s) => talk quiet readings (heed s i).1 (heed s i).2

theorem talk_of_stopped {s : Shell ω ε σ} (h : s.running = false) (quiet : Bool)
    (readings : List Reading) (i : Interrupt) : talk quiet readings s i = leave s i 0 := by
  cases readings <;> simp [talk, converse, close, h]

/-- The first reading of a talk: it ends the session, or the talk goes on after it. -/
theorem talk_cons {c : Shell ω ε σ × Interrupt} (hout : Sink.Reliable c.1.out)
    (hrun : c.1.running = true) (quiet : Bool) (r : Reading) (readings : List Reading) :
    talk quiet (r :: readings) (heed c.1 c.2).1 (heed c.1 c.2).2 =
      if (endingOf c (.read r)).isSome then concluded c (.read r)
      else talk quiet readings (heed (advance quiet c (.read r)).1 (advance quiet c (.read r)).2).1
        (heed (advance quiet c (.read r)).1 (advance quiet c (.read r)).2).2 := by
  have hheed : (heed c.1 c.2).1.running = true := hrun
  obtain ⟨-, hsignals, -, hasked⟩ := asked_spec hout
  rw [talk, converse, if_pos hheed, asked_eq hout]
  obtain ⟨reply, raises⟩ := r
  cases reply with
  | line text =>
    cases htyped : (asked c).1.typed text with
    | mk next s =>
      cases next with
      | leave status => simp [endingOf, Ending.ofCommand, concluded, htyped]
      | proceed =>
        cases hs : s.running with
        | true => simp [endingOf, Ending.ofCommand, advance, answered, htyped, hs, talk]
        | false =>
          have hstop : (heed s ((asked c).2.raiseIf raises)).1.running = false := hs
          have htalk := talk_of_stopped hstop quiet readings (heed s ((asked c).2.raiseIf raises)).2
          rw [talk] at htalk
          simpa [endingOf, Ending.ofCommand, concluded, htyped, hs] using htalk
  | interrupted =>
    cases quiet with
    | true =>
      have hnone := heed_of_no_signals hsignals ((asked c).2.raiseIf raises)
      simp [endingOf, advance, answered, hnone, talk]
    | false =>
      have hhint : ((asked c).1.print (interruptHint ++ "\n")).2.signals = [] := hsignals
      have hprint : (asked c).1.print (interruptHint ++ "\n") =
          (none, ((asked c).1.print (interruptHint ++ "\n")).2) :=
        Prod.ext (hasked.offer_fault? _) rfl
      generalize ((asked c).1.print (interruptHint ++ "\n")).2 = s at hprint hhint
      have hnone := heed_of_no_signals hhint ((asked c).2.raiseIf raises)
      simp [endingOf, advance, answered, hprint, hnone, talk]
  | endOfInput => simp [endingOf, concluded]
  | failed error => simp [endingOf, concluded]

theorem talk_nil {c : Shell ω ε σ × Interrupt} (hout : Sink.Reliable c.1.out)
    (hrun : c.1.running = true) (quiet : Bool) :
    talk quiet [] (heed c.1 c.2).1 (heed c.1 c.2).2 = concluded c .inputOver := by
  have hheed : (heed c.1 c.2).1.running = true := hrun
  rw [talk, converse]
  simp only [close, if_pos hheed, asked_eq hout]
  rfl

section Course
variable {quiet : Bool} {lines : List String} {readings : List Reading}
  {c : Shell ω ε σ × Interrupt} {n : Nat} {ending : Ending}

theorem talk_concluded (hout : Sink.Reliable c.1.out) (hrun : c.1.running = true)
    (h : EndsAt quiet (Happening.nth [] readings) c n ending) :
    talk quiet readings (heed c.1 c.2).1 (heed c.1 c.2).2 =
      concluded (course quiet (Happening.nth [] readings) c n) (Happening.nth [] readings n) := by
  induction readings generalizing c n with
  | nil =>
    have hn : n = 0 := h.eq_zero (by simp [endingOf, Happening.inputOver])
    subst hn
    exact talk_nil hout hrun quiet
  | cons r rest ih =>
    rw [talk_cons hout hrun]
    cases n with
    | zero =>
      have hnow : endingOf c (.read r) = some ending := h.now
      rw [hnow]
      rfl
    | succ n =>
      have hnone : endingOf c (.read r) = none := h.before (m := 0) (by omega)
      have hrest := ih (reliable_advance quiet hout (.read r)) (running_advance hout hrun hnone) h.succ
      rw [hnone, course_succ]
      exact hrest

theorem resume_concluded (hout : Sink.Reliable c.1.out)
    (hrun : c.1.running = true ∨ lines ≠ [])
    (hlines : ∀ line ∈ lines, StartupFile.isCommand line = true)
    (h : EndsAt quiet (Happening.nth lines readings) c n ending) :
    resume quiet readings c.2 (c.1.source lines) =
      concluded (course quiet (Happening.nth lines readings) c n)
        (Happening.nth lines readings n) := by
  induction lines generalizing c n with
  | nil =>
    have hrunning : c.1.running = true := by simpa using hrun
    exact talk_concluded hout hrunning h
  | cons line rest ih =>
    have hnext := reliable_advance quiet hout (.sourced line)
    have hending : endingOf c (.sourced line) = Ending.ofCommand (c.1.perform (words line)) := rfl
    rw [Shell.source_cons_of_isCommand (hlines line (by simp))]
    cases hperform : c.1.perform (words line) with
    | mk next s =>
      rw [hperform] at hending
      cases next with
      | leave status =>
        have hn : n = 0 := h.eq_zero (by simp [hending, Ending.ofCommand])
        subst hn
        simp [course, concluded, resume, hperform]
      | proceed =>
        cases hs : s.running with
        | false =>
          have hn : n = 0 := h.eq_zero (by simp [hending, Ending.ofCommand, hs])
          have hstop : (heed s c.2).1.running = false := hs
          subst hn
          simp [course, concluded, resume, hperform, hs, talk_of_stopped hstop]
        | true =>
          have hadvance : advance quiet c (.sourced line) = (s, c.2) := by
            rw [advance, hperform]
          obtain ⟨n, rfl⟩ := Nat.exists_eq_succ_of_ne_zero
            (h.ne_zero (by simp [hending, Ending.ofCommand, hs]))
          have hrest := h.succ
          rw [Happening.nth_line_zero, hadvance] at hrest
          rw [hadvance] at hnext
          rw [course_succ, Happening.nth_line_zero, hadvance]
          simp only [hs, if_true]
          exact ih hnext (.inl hs) (fun l hl => hlines l (by simp [hl])) hrest

end Course

/-- A session that a happening ends comes out as that ending says, and leaves the shell as the
happening did, with nothing but a farewell after it. -/
theorem concluded_spec {c : Shell ω ε σ × Interrupt} (hout : Sink.Reliable c.1.out) (quiet : Bool)
    {happening : Happening} {ending : Ending} (h : endingOf c happening = some ending) :
    (concluded c happening).result = ending.result ∧
      (concluded c happening).shell.toState = (advance quiet c happening).1.toState ∧
      (concluded c happening).shell.transcript =
        (advance quiet c happening).1.transcript ++ ending.farewell := by
  have hnext := reliable_advance quiet hout happening
  cases happening with
  | sourced line =>
    rw [advance] at hnext ⊢
    rw [endingOf] at h
    rw [concluded]
    cases hperform : c.1.perform (words line) with
    | mk next s =>
      rw [hperform] at h hnext
      cases next with
      | leave status =>
        cases h
        exact ⟨rfl, rfl, (List.append_nil _).symm⟩
      | proceed =>
        obtain rfl := Ending.eq_stopped h
        obtain ⟨hresult, hstate, htranscript⟩ := leave_spec (s := (heed s c.2).1) hnext (heed s c.2).2 0
        exact ⟨hresult, hstate, htranscript.trans (List.append_nil _).symm⟩
  | read r =>
    obtain ⟨reply, raises⟩ := r
    let i := (asked c).2.raiseIf raises
    rw [advance] at hnext ⊢
    cases reply with
    | line text =>
      rw [answered] at hnext ⊢
      simp only [endingOf] at h
      simp only [concluded]
      cases htyped : (asked c).1.typed text with
      | mk next s =>
        rw [htyped] at h hnext
        cases next with
        | leave status =>
          cases h
          obtain ⟨hresult, hstate, htranscript⟩ := leave_spec hnext i status
          exact ⟨hresult, hstate, htranscript.trans (List.append_nil _).symm⟩
        | proceed =>
          obtain rfl := Ending.eq_stopped h
          obtain ⟨hresult, hstate, htranscript⟩ := leave_spec (s := (heed s i).1) hnext (heed s i).2 0
          exact ⟨hresult, hstate, htranscript.trans (List.append_nil _).symm⟩
    | interrupted => cases h
    | endOfInput =>
      cases h
      have hasked := (asked_spec hout).2.2.2
      obtain ⟨hresult, hstate, htranscript⟩ := leave_spec (Shell.reliable_print hasked "\n") i 0
      rw [Shell.print_eq hasked] at htranscript
      rw [concluded, endOfInput_eq hasked]
      exact ⟨hresult, hstate, by rw [Shell.print_eq hasked]; exact htranscript⟩
    | failed error =>
      cases h
      exact ⟨rfl, rfl, (List.append_nil _).symm⟩

/-- The shell when its first command is due.  Unless the session is quiet it has greeted the user
and said what is wrong with the startup file. -/
def opened (quiet : Bool) (file? : Option StartupFile) (s : Shell ω ε σ) : Shell ω ε σ :=
  if quiet then s
  else
    match file?.map (StartupFile.read s.host) with
    | some (.error error) => (s.print (banner ++ "\n")).2.complain ("shell: " ++ error.message)
    | some (.ok _) | none => (s.print (banner ++ "\n")).2

theorem changes_opened (quiet : Bool) (file? : Option StartupFile) (s : Shell ω ε σ) :
    Shell.Changes s (opened quiet file? s) := by
  have hgreeted : Shell.Change s (s.print (banner ++ "\n")).2 := .print s _
  rw [opened]
  split
  · exact .refl
  · split
    · exact .tail (.single hgreeted) (.complain _ _)
    · exact .single hgreeted
    · exact .single hgreeted

theorem toState_opened (quiet : Bool) (file? : Option StartupFile) (s : Shell ω ε σ) :
    (opened quiet file? s).toState = s.toState := by
  rw [opened]
  split
  · rfl
  · split <;> rfl

/-- A session opens, carries out the commands of its startup file, and goes on from there. -/
theorem run_eq_resume {s : Shell ω ε σ} (hout : Sink.Reliable s.out) (quiet : Bool)
    (file? : Option StartupFile) (readings : List Reading) (i : Interrupt) :
    run quiet file? readings s i =
      resume quiet readings i
        ((opened quiet file? s).source (StartupFile.commands s.host file?)) := by
  let greeted := if quiet then s else (s.print (banner ++ "\n")).2
  have hgreeting : (if quiet = true then (none, s) else s.print (banner ++ "\n")) =
      (none, greeted) := by
    cases quiet with
    | false => exact Prod.ext (hout.offer_fault? _) rfl
    | true => rfl
  have hhost : greeted.host = s.host := by cases quiet <;> rfl
  have hstart : startUp quiet greeted file? =
      (opened quiet file? s).source (StartupFile.commands s.host file?) := by
    cases file? with
    | none => cases quiet <;> rfl
    | some file =>
      simp only [startUp, Shell.load_eq_read, hhost, StartupFile.commands, Option.map_some, opened]
      cases file.read s.host with
      | error error => cases quiet <;> rfl
      | ok lines => cases quiet <;> rfl
  rw [run, start, hgreeting]
  simp only [hstart]
  rcases (opened quiet file? s).source (StartupFile.commands s.host file?) with ⟨_ | status, t⟩ <;>
    rfl

end Session
end LineShell
