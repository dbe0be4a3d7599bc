import LineShell.Proofs.Request.Companions
import LineShell.Proofs.Session.Rounds

/-! Two sessions side by side.  Companions that are told the same come to the same stage, piece by
piece, unless they part. -/
namespace LineShell.Session
open Shell
variable {ω ω' ε ε' σ : Type}

namespace Stage

/-- Two sessions have come to the same stage with shells that are tied. -/
inductive Tied (R : Shell ω ε σ → Shell ω' ε' σ → Prop) : Stage ω ε σ → Stage ω' ε' σ → Prop
  | finished {s : Shell ω ε σ} {t : Shell ω' ε' σ} (h : R s t) (i : Interrupt)
    (result : Except ShellError Int32) :
    Tied R (.finished ⟨s, i, result⟩) (.finished ⟨t, i, result⟩)
  | ready {s : Shell ω ε σ} {t : Shell ω' ε' σ} (h : R s t) (i : Interrupt) :
    Tied R (.ready s i) (.ready t i)

theorem Tied.ended {R : Shell ω ε σ → Shell ω' ε' σ → Prop} {a : Ended ω ε σ} {b : Ended ω' ε' σ}
    (h : Tied R (.finished a) (.finished b)) :
    a.result = b.result ∧ a.interrupt = b.interrupt ∧ R a.shell b.shell := by
  cases h with
  | finished h i result => exact ⟨rfl, rfl, h⟩

/-- They have come to the same stage, or their shells have parted. -/
def Abreast (R Q : Shell ω ε σ → Shell ω' ε' σ → Prop) (a : Stage ω ε σ) (b : Stage ω' ε' σ) :
    Prop :=
  Tied R a b ∨ Q a.shell b.shell

theorem Tied.together {R : Shell ω ε σ → Shell ω' ε' σ → Prop} {a : Stage ω ε σ}
    {b : Stage ω' ε' σ} (h : Tied R a b) : Together R a.outcome b.outcome := by
  cases h with
  | finished h i result => exact .of_rel _ h
  | ready h i => exact .of_rel _ h

theorem Abreast.outcome {R Q : Shell ω ε σ → Shell ω' ε' σ → Prop} {a : Stage ω ε σ}
    {b : Stage ω' ε' σ} (h : Stage.Abreast R Q a b) : Shell.Abreast R Q a.outcome b.outcome :=
  h.imp Tied.together fun hparted => by rwa [snd_outcome, snd_outcome]

theorem turns_andThen [Sink ω] [Sink ε] {s : Shell ω ε σ} {stage : Stage ω ε σ}
    {next : Piece ω ε σ} (h : Turns s stage.shell)
    (hnext : ∀ t i, Turns t (next t i).shell) : Turns s (stage.andThen next).shell := by
  cases stage with
  | finished ended => exact h
  | ready t i => exact h.trans (hnext t i)

end Stage

/-- Two pieces that tied shells go through together, and that take each shell some turns further. -/
structure Along [Sink ω] [Sink ω'] [Sink ε] [Sink ε'] (R Q : Shell ω ε σ → Shell ω' ε' σ → Prop)
    (f : Piece ω ε σ) (g : Piece ω' ε' σ) : Prop where
  tied {s t} (h : R s t) (i : Interrupt) : Stage.Abreast R Q (f s i) (g t i)
  left (s : Shell ω ε σ) (i : Interrupt) : Turns s (f s i).shell
  right (t : Shell ω' ε' σ) (i : Interrupt) : Turns t (g t i).shell

section Pieces
variable [Sink ω] [Sink ε]

theorem turns_say (quiet : Bool) (text : String) (s : Shell ω ε σ) (i : Interrupt) :
    Turns s (say quiet text s i).shell := by
  rw [say, shell_onward]
  split
  · exact .refl
  · exact .single (.change (.print s text))

theorem turns_freshLine (s : Shell ω ε σ) (i : Interrupt) : Turns s (freshLine s i).shell := by
  rw [freshLine, shell_onward]
  split
  · exact .single (.change (.print s "\n"))
  · exact .refl

theorem turns_prompted (s : Shell ω ε σ) (i : Interrupt) : Turns s (prompted s i).shell := by
  refine Stage.turns_andThen ?_ fun t _ => .single (.read t t.prompt)
  rw [shell_onward]
  exact .single (.flush s)

theorem turns_asking (s : Shell ω ε σ) (i : Interrupt) : Turns s (asking s i).shell :=
  Stage.turns_andThen (turns_freshLine s i) turns_prompted

theorem turns_leave (s : Shell ω ε σ) (i : Interrupt) (status : Int32) :
    Turns s (leave s i status).shell := by
  have hflush : Turns s s.flush.2 := .single (.flush s)
  rw [leave]
  split <;> next heq => rwa [heq] at hflush

theorem turns_heed (s : Shell ω ε σ) (i : Interrupt) : Turns s (heed s i).1 := .single (.heed s)

variable [Host σ]

/-- What follows a line that was carried out. -/
theorem turns_answered (quiet : Bool) (s : Shell ω ε σ) (i : Interrupt) (text : String) :
    Turns (s.typed text).2 (respond quiet s i (.line text)).shell := by
  rw [respond]
  rcases s.typed text with ⟨_ | status, t⟩
  · exact turns_heed t i
  · exact turns_leave t i status

theorem turns_respond (quiet : Bool) (s : Shell ω ε σ) (i : Interrupt) (reply : Reply) :
    Turns s (respond quiet s i reply).shell := by
  cases reply with
  | line text => exact (turns_typed s text).trans (turns_answered quiet s i text)
  | interrupted => exact turns_say quiet _ s i
  | endOfInput =>
    rw [respond, finished_endOfInput]
    exact Stage.turns_andThen (turns_say false "\n" s i) fun t i => turns_leave t i 0
  | failed error => exact .refl

theorem turns_round (quiet : Bool) (reading : Reading) (s : Shell ω ε σ) (i : Interrupt) :
    Turns s (round quiet reading s i).shell := by
  rw [round]
  split
  · exact Stage.turns_andThen (turns_asking s i) fun t j => turns_respond quiet t _ reading.reply
  · exact turns_leave s i 0

/-- What follows a startup file that was loaded. -/
theorem turns_loaded (quiet : Bool) (s : Shell ω ε σ) (file : StartupFile) :
    Turns (s.load file).2 (startUp quiet s (some file)).2 := by
  rw [startUp]
  rcases s.load file with ⟨error | next, t⟩
  · cases quiet with
    | true => exact .refl
    | false => exact .single (.change (.complain t _))
  · exact .refl

theorem turns_startUp (quiet : Bool) (s : Shell ω ε σ) (file? : Option StartupFile) :
    Turns s (startUp quiet s file?).2 := by
  cases file? with
  | none => exact .refl
  | some file => exact (changes_load s file).turns.trans (turns_loaded quiet s file)

theorem turns_begun (quiet : Bool) (file? : Option StartupFile) (s : Shell ω ε σ)
    (i : Interrupt) : Turns (startUp quiet s file?).2 (begin quiet file? s i).shell := by
  rw [begin]
  rcases startUp quiet s file? with ⟨_ | status, t⟩ <;> exact turns_heed t i

theorem turns_begin (quiet : Bool) (file? : Option StartupFile) (s : Shell ω ε σ)
    (i : Interrupt) : Turns s (begin quiet file? s i).shell :=
  (turns_startUp quiet s file?).trans (turns_begun quiet file? s i)

end Pieces

variable {R Q : Shell ω ε σ → Shell ω' ε' σ → Prop}

/-! The same answers lead to the same stages. -/

theorem tied_onward {a : Option Fault × Shell ω ε σ} {b : Option Fault × Shell ω' ε' σ}
    (h : Together R a b) (i : Interrupt) : Stage.Tied R (onward i a) (onward i b) := by
  obtain ⟨fault, s, t, rfl, rfl, h⟩ := h
  cases fault with
  | none => exact .ready h i
  | some fault => exact .finished h i _

theorem abreast_onward {a : Option Fault × Shell ω ε σ} {b : Option Fault × Shell ω' ε' σ}
    (h : Shell.Abreast R Q a b) (i : Interrupt) :
    Stage.Abreast R Q (onward i a) (onward i b) := by
  rcases h with htogether | hparted
  · exact .inl (tied_onward htogether i)
  · right
    rwa [shell_onward, shell_onward]

variable [Sink ω] [Sink ω'] [Sink ε] [Sink ε']

section Along
variable {f f' : Piece ω ε σ} {g g' : Piece ω' ε' σ}

/-- Two pieces in a row. -/
theorem Along.andThen (hp : Parting R Q) (h : Along R Q f g) (h' : Along R Q f' g') :
    Along R Q (fun s i => (f s i).andThen f') (fun t i => (g t i).andThen g') where
  tied {s t} hr i := by
    have hfirst := h.tied hr i
    generalize f s i = a, g t i = b at hfirst ⊢
    rcases hfirst with htied | hparted
    · cases htied with
      | finished hr i result => exact .inl (.finished hr i result)
      | ready hr i => exact h'.tied hr i
    · exact .inr (hp.parted hparted (Stage.turns_andThen .refl h'.left)
        (Stage.turns_andThen .refl h'.right))
  left s i := Stage.turns_andThen (h.left s i) h'.left
  right t i := Stage.turns_andThen (h.right t i) h'.right

end Along

end LineShell.Session

namespace LineShell.Shell
open Session

namespace Companions
variable {ω ω' ε ε' σ : Type} [Sink ω] [Sink ω'] [Sink ε] [Sink ε']
  {R Q : Shell ω ε σ → Shell ω' ε' σ → Prop} (hc : Companions R Q)
include hc

theorem say (quiet : Bool) (text : String) :
    Along R Q (Session.say quiet text) (Session.say quiet text) where
  tied h i := by
    refine abreast_onward ?_ i
    cases quiet with
    | true => exact .of_rel none h
    | false => exact hc.print h text
  left := turns_say quiet text
  right := turns_say quiet text

theorem freshLine : Along R Q Session.freshLine Session.freshLine where
  tied h i := by
    refine abreast_onward ?_ i.take.2
    split
    · exact hc.print h "\n"
    · exact .of_rel none h
  left := turns_freshLine
  right := turns_freshLine

theorem prompted : Along R Q Session.prompted Session.prompted where
  tied {s t} h i := by
    left
    obtain ⟨fault, s', t', hs, ht, h'⟩ := hc.flush h
    rw [Session.prompted, Session.prompted, hs, ht]
    cases fault with
    | some fault => exact .finished h' i _
    | none =>
      have hprompt : s'.prompt = t'.prompt := by rw [Shell.prompt, Shell.prompt, hc.dir h']
      simp only [onward, Stage.andThen, hprompt]
      exact .ready (hc.read h' t'.prompt) i
  left := turns_prompted
  right := turns_prompted

theorem asking : Along R Q Session.asking Session.asking :=
  hc.freshLine.andThen hc.toParting hc.prompted

theorem leave (status : Int32) : Along R Q (fun s i => .finished (Session.leave s i status))
    (fun t i => .finished (Session.leave t i status)) where
  tied h i := by
    left
    obtain ⟨fault, s', t', hs, ht, h'⟩ := hc.flush h
    simp only [Session.leave, hs, ht]
    cases fault <;> exact .finished h' i _
  left s i := turns_leave s i status
  right t i := turns_leave t i status

theorem endOfInput : Along R Q (fun s i => .finished (Session.endOfInput s i))
    (fun t i => .finished (Session.endOfInput t i)) := by
  simp only [finished_endOfInput]
  exact (hc.say false "\n").andThen hc.toParting (hc.leave 0)

/-- Both have had the same signals, so the interrupt is the same for both. -/
theorem heeded {s : Shell ω ε σ} {t : Shell ω' ε' σ} (h : R s t) (i : Interrupt) :
    Stage.Tied R (.ready (Session.heed s i).1 (Session.heed s i).2)
      (.ready (Session.heed t i).1 (Session.heed t i).2) := by
  simp only [Session.heed, hc.signals h]
  exact .ready (hc.heed h) _

variable [Host σ]

theorem respond (quiet : Bool) (raises : Bool) (reply : Reply) :
    Along R Q (fun s i => Session.respond quiet s (i.raiseIf raises) reply)
      (fun t i => Session.respond quiet t (i.raiseIf raises) reply) where
  tied {s t} h i := by
    cases reply with
    | line text =>
      rcases hc.typed h text with ⟨next, s', t', hs, ht, h'⟩ | hparted
      · simp only [Session.respond, hs, ht]
        cases next with
        | leave status => exact (hc.leave status).tied h' _
        | proceed => exact .inl (hc.heeded h' _)
      · exact .inr (hc.parted hparted (turns_answered quiet s _ text)
          (turns_answered quiet t _ text))
    | interrupted => exact (hc.say quiet _).tied h _
    | endOfInput => exact hc.endOfInput.tied h _
    | failed error => exact .inl (.finished h _ _)
  left s i := turns_respond quiet s _ reply
  right t i := turns_respond quiet t _ reply

theorem round (quiet : Bool) (reading : Reading) :
    Along R Q (Session.round quiet reading) (Session.round quiet reading) where
  tied {s t} h i := by
    rw [Session.round, Session.round, hc.running h]
    split
    · have hresponse := hc.respond quiet reading.raises reading.reply
      exact (hc.asking.andThen hc.toParting hresponse).tied h i
    · exact (hc.leave 0).tied h i
  left := turns_round quiet reading
  right := turns_round quiet reading

theorem converse (quiet : Bool) (readings : List Reading) :
    Along R Q (Session.converse quiet readings) (Session.converse quiet readings) := by
  induction readings with
  | nil =>
    exact {
      tied := fun h i => .inl (.ready h i)
      left := fun _ _ => .refl
      right := fun _ _ => .refl }
  | cons reading rest ih =>
    have hround := (hc.round quiet reading).andThen hc.toParting ih
    simpa only [← converse_cons] using hround

theorem startUp {s : Shell ω ε σ} {t : Shell ω' ε' σ} (h : R s t) (quiet : Bool)
    (file? : Option StartupFile) :
    Abreast R Q (Session.startUp quiet s file?) (Session.startUp quiet t file?) := by
  cases file? with
  | none => exact .of_rel _ h
  | some file =>
    rcases hc.load h file with ⟨answer, s', t', hs, ht, h'⟩ | hparted
    · rw [Session.startUp, Session.startUp, hs, ht]
      cases answer with
      | ok next => exact .of_rel _ h'
      | error error =>
        cases quiet with
        | true => exact .of_rel _ h'
        | false => exact .of_rel _ (hc.complain h' _)
    · exact .inr (hc.parted hparted (turns_loaded quiet s file) (turns_loaded quiet t file))

theorem begin (quiet : Bool) (file? : Option StartupFile) :
    Along R Q (Session.begin quiet file?) (Session.begin quiet file?) where
  tied {s t} h i := by
    rcases hc.startUp h quiet file? with ⟨next, s', t', hs, ht, h'⟩ | hparted
    · simp only [Session.begin, hs, ht]
      cases next with
      | leave status =>
        simp only [Session.heed, hc.signals h']
        exact .inl (.finished (hc.heed h') _ _)
      | proceed => exact .inl (hc.heeded h' i)
    · exact .inr (hc.parted hparted (turns_begun quiet file? s i) (turns_begun quiet file? t i))
  left := turns_begin quiet file?
  right := turns_begin quiet file?

theorem upTo (quiet : Bool) (file? : Option StartupFile) (readings : List Reading) :
    Along R Q (Session.upTo quiet file? readings) (Session.upTo quiet file? readings) := by
  have hstart := (hc.say quiet (banner ++ "\n")).andThen hc.toParting (hc.begin quiet file?)
  simp only [← start_eq] at hstart
  exact hstart.andThen hc.toParting (hc.converse quiet readings)

theorem session (quiet : Bool) (file? : Option StartupFile) (readings : List Reading) :
    Along R Q (fun s i => .finished (Session.run quiet file? readings s i))
      (fun t i => .finished (Session.run quiet file? readings t i)) := by
  have hrun := (hc.upTo quiet file? readings).andThen hc.toParting
    (hc.round quiet { reply := .endOfInput })
  simpa only [finished_run, finished_close quiet] using hrun

end Companions

/-! Companions that never part. -/

section Lasting
variable {ω ω' ε ε' σ : Type} [Sink ω] [Sink ω'] [Sink ε] [Sink ε'] [Host σ]
  {R : Shell ω ε σ → Shell ω' ε' σ → Prop} (hc : Companions R (fun _ _ => False))
  {s : Shell ω ε σ} {t : Shell ω' ε' σ}
include hc

theorem Companions.lasting_afterAll (h : R s t) (requests : List (Request σ)) :
    s.answers requests = t.answers requests ∧ R (s.afterAll requests) (t.afterAll requests) := by
  obtain ⟨answers, s', t', hs, ht, h'⟩ := (hc.afterAll h requests).resolve_right id
  obtain ⟨hsanswers, rfl⟩ := Prod.mk.inj hs
  obtain ⟨htanswers, rfl⟩ := Prod.mk.inj ht
  exact ⟨hsanswers.trans htanswers.symm, h'⟩

theorem Companions.lasting_run (h : R s t) (quiet : Bool) (file? : Option StartupFile)
    (readings : List Reading) (i : Interrupt) :
    (run quiet file? readings s i).result = (run quiet file? readings t i).result ∧
      (run quiet file? readings s i).interrupt = (run quiet file? readings t i).interrupt ∧
      R (run quiet file? readings s i).shell (run quiet file? readings t i).shell :=
  (((hc.session quiet file? readings).tied h i).resolve_right id).ended

end Lasting
end LineShell.Shell
