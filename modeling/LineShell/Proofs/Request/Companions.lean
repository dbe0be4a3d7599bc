import LineShell.Proofs.Command.Parting
import LineShell.Proofs.Request.Basic

/-! Two shells that are asked for the same.  They stay companions from one request to the next, or
they part at one of them and have parted for good. -/
namespace LineShell.Shell
variable {ω ω' ε ε' σ : Type}

/-- Shells that are tied in all that requests and sessions go by, the log and the signals with
it. -/
structure Companions [Sink ω] [Sink ω'] [Sink ε] [Sink ε']
    (R Q : Shell ω ε σ → Shell ω' ε' σ → Prop) : Prop extends Parting R Q where
  history {s t} : R s t → s.history = t.history
  signals {s t} : R s t → s.signals = t.signals
  remember {s t} (h : R s t) (line : String) : R (s.remember line) (t.remember line)
  read {s t} (h : R s t) (prompt : String) : R (s.note (.read prompt)) (t.note (.read prompt))
  heed {s t} (h : R s t) : R { s with signals := [] } { t with signals := [] }
  flush {s t} (h : R s t) : Together R s.flush t.flush

theorem Abreast.map {α β : Type} {R Q : Shell ω ε σ → Shell ω' ε' σ → Prop} {a : α × Shell ω ε σ}
    {b : α × Shell ω' ε' σ} (h : Abreast R Q a b) (f : α → β) :
    Abreast R Q (f a.1, a.2) (f b.1, b.2) := by
  rcases h with ⟨answer, s, t, rfl, rfl, h⟩ | hparted
  · exact .of_rel _ h
  · exact .inr hparted

section Turns
variable [Sink ω] [Sink ε] [Host σ]

theorem turns_typed (s : Shell ω ε σ) (line : String) : Turns s (s.typed line).2 := by
  rcases changes_typed s line with hsame | hchanges
  · rw [hsame]
  · exact .head (.remember s line) hchanges.turns

theorem turns_serve (s : Shell ω ε σ) (request : Request σ) : Turns s (s.serve request).2 := by
  cases request with
  | line text => exact turns_typed s text
  | perform argv => exact (changes_perform s argv).turns
  | call b args => exact (changes_run b s args).turns
  | startup file => exact (changes_load s file).turns
  | meanwhile host => exact .single (.change (.move s host s.dir))

theorem turns_afterAll (s : Shell ω ε σ) (requests : List (Request σ)) :
    Turns s (s.afterAll requests) := by
  induction requests generalizing s with
  | nil => exact .refl
  | cons request rest ih => exact (turns_serve s request).trans (ih _)

end Turns

namespace Companions
variable [Sink ω] [Sink ω'] [Sink ε] [Sink ε'] [Host σ]
  {R Q : Shell ω ε σ → Shell ω' ε' σ → Prop} (hc : Companions R Q) {s : Shell ω ε σ}
  {t : Shell ω' ε' σ}
include hc

theorem typed (h : R s t) (line : String) : Abreast R Q (s.typed line) (t.typed line) := by
  rw [Shell.typed, Shell.typed]
  split
  · exact .of_rel _ h
  · have hr := hc.remember h line
    exact hc.perform hr _ fun _ => hc.history hr

theorem source (h : R s t) (lines : List String) :
    Abreast R Q (s.source lines) (t.source lines) := by
  induction lines generalizing s t with
  | nil => exact .of_rel _ h
  | cons line rest ih =>
    cases hskip : isComment line || (words line).isEmpty with
    | true =>
      rw [Shell.source, Shell.source, if_pos hskip, if_pos hskip]
      exact ih h
    | false =>
      rcases hc.perform h (words line) (fun _ => hc.history h) with
        ⟨next, s', t', hs, ht, h'⟩ | hparted
      · rw [Shell.source, Shell.source, hskip, hs, ht]
        cases next with
        | leave status => exact .of_rel _ h'
        | proceed =>
          simp only [hc.running h', Bool.false_eq_true, if_false]
          split
          · exact ih h'
          · exact .of_rel _ h'
      · exact .inr (hc.parted hparted (changes_source_cons hskip s rest).turns
          (changes_source_cons hskip t rest).turns)

theorem load (h : R s t) (file : StartupFile) : Abreast R Q (s.load file) (t.load file) := by
  rw [load_eq_read, load_eq_read, hc.host h]
  cases file.read t.host with
  | ok lines => exact (hc.source h lines).map _
  | error error => exact .of_rel _ h

theorem serve (h : R s t) (request : Request σ) :
    Abreast R Q (s.serve request) (t.serve request) := by
  cases request with
  | line text => exact (hc.typed h text).map _
  | perform argv => exact (hc.perform h argv fun _ => hc.history h).map _
  | call b args => exact (hc.run h b args fun _ => hc.history h).map _
  | startup file => exact (hc.load h file).map _
  | meanwhile host =>
    refine .of_rel _ ?_
    show R { s with host, dir := s.dir } { t with host, dir := t.dir }
    rw [← hc.dir h]
    exact hc.move h host s.dir

theorem afterAll (h : R s t) (requests : List (Request σ)) :
    Abreast R Q (s.answers requests, s.afterAll requests)
      (t.answers requests, t.afterAll requests) := by
  induction requests generalizing s t with
  | nil => exact .of_rel _ h
  | cons request rest ih =>
    rw [answers, answers, afterAll_cons, afterAll_cons]
    rcases hc.serve h request with ⟨answer, s', t', hs, ht, h'⟩ | hparted
    · rw [hs, ht]
      exact (ih h').map _
    · exact .inr (hc.parted hparted (turns_afterAll _ rest) (turns_afterAll _ rest))

end Companions
end LineShell.Shell
