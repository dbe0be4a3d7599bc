import LineShell.Proofs.Command.Output
import LineShell.Proofs.Session.Companions

/-! Shells that differ in their outputs alone.  One such output is a stream that is watched: it
takes what the stream takes, and remembers whether that has refused anything. -/
namespace LineShell

/-- A stream, and whether it has refused anything yet. -/
structure Watched (γ : Type) where
  sink : γ
  refused : Bool := false

namespace Watched
variable {γ : Type} [Sink γ]

instance : Sink (Watched γ) where
  offer w bytes :=
    match Sink.offer w.sink bytes with
    | .kept sink => .kept { w with sink }
    | .cut count fault sink => .cut count fault { sink, refused := true }
  flush w := ({ w with sink := (Sink.flush w.sink).1 }, (Sink.flush w.sink).2)

theorem fault?_offer (w : Watched γ) (bytes : List UInt8) :
    (Sink.offer w bytes).fault? = (Sink.offer w.sink bytes).fault? := by
  simp only [Sink.offer]
  split <;> next heq => rw [heq]; rfl

theorem taken_offer (w : Watched γ) (bytes : List UInt8) :
    (Sink.offer w bytes).taken bytes = (Sink.offer w.sink bytes).taken bytes := by
  simp only [Sink.offer]
  split <;> next heq => rw [heq]; rfl

theorem sink_offer (w : Watched γ) (bytes : List UInt8) :
    (Sink.offer w bytes).sink.sink = (Sink.offer w.sink bytes).sink := by
  simp only [Sink.offer]
  split <;> next heq => rw [heq]; rfl

theorem refused_offer (w : Watched γ) (bytes : List UInt8) :
    (Sink.offer w bytes).sink.refused =
      (w.refused || (Sink.offer w.sink bytes).fault?.isSome) := by
  simp only [Sink.offer]
  split <;> next heq => rw [heq]; simp [Offer.sink, Offer.fault?]

end Watched

namespace Shell
variable {ω ω' ε σ : Type}

/-- Two shells that agree in everything but the output, and whose outputs have taken the same. -/
structure AgreeButOut (s : Shell ω ε σ) (t : Shell ω' ε σ) : Prop where
  state : s.toState = t.toState
  err : s.err = t.err
  signals : s.signals = t.signals
  transcript : s.transcript = t.transcript

namespace AgreeButOut
variable {s : Shell ω ε σ} {t : Shell ω' ε σ} (h : AgreeButOut s t)
include h

theorem outBytes : s.outBytes = t.outBytes := congrArg (List.flatMap Event.outBytes) h.transcript

theorem symm : AgreeButOut t s := ⟨h.state.symm, h.err.symm, h.signals.symm, h.transcript.symm⟩

theorem trans {ω₂ : Type} {u : Shell ω₂ ε σ} (h' : AgreeButOut t u) : AgreeButOut s u where
  state := h.state.trans h'.state
  err := h.err.trans h'.err
  signals := h.signals.trans h'.signals
  transcript := h.transcript.trans h'.transcript

theorem update (f : State σ → State σ) :
    AgreeButOut { s with toState := f s.toState } { t with toState := f t.toState } where
  state := congrArg f h.state
  err := h.err
  signals := h.signals
  transcript := h.transcript

theorem note (event : Event) : AgreeButOut (s.note event) (t.note event) where
  state := h.state
  err := h.err
  signals := h.signals
  transcript := by simp only [Shell.note, h.transcript]

theorem print [Sink ω] [Sink ω'] {text : String}
    (htaken : (Sink.offer s.out (utf8 text)).taken (utf8 text) =
      (Sink.offer t.out (utf8 text)).taken (utf8 text)) :
    AgreeButOut (s.print text).2 (t.print text).2 where
  state := h.state
  err := h.err
  signals := h.signals
  transcript := by simp only [Shell.print, Shell.note, h.transcript, htaken]

theorem complain [Sink ε] (line : String) : AgreeButOut (s.complain line) (t.complain line) where
  state := h.state
  err := by simp only [Shell.complain, Shell.note, h.err]
  signals := h.signals
  transcript := by simp only [Shell.complain, Shell.note, h.transcript, h.err]

theorem launch (argv : List String) (launched : Launched σ) :
    AgreeButOut (s.afterLaunch argv launched) (t.afterLaunch argv launched) where
  state := congrArg (fun state => { state with host := launched.host }) h.state
  err := h.err
  signals := by simp only [afterLaunch, h.signals]
  transcript := by simp only [afterLaunch, h.transcript]

theorem flush [Sink ω] [Sink ω'] : AgreeButOut s.flush.2 t.flush.2 where
  state := h.state
  err := h.err
  signals := h.signals
  transcript := h.transcript

theorem heed : AgreeButOut { s with signals := [] } { t with signals := [] } where
  state := h.state
  err := h.err
  signals := rfl
  transcript := h.transcript

end AgreeButOut

/-- Shells that agree in everything but the output, while the outputs are tied by `O`, which may go
by the bytes taken so far. -/
def TiedOutputs (O : ω → ω' → List UInt8 → Prop) (s : Shell ω ε σ) (t : Shell ω' ε σ) : Prop :=
  AgreeButOut s t ∧ O s.out t.out t.outBytes

/-- They are companions if printing keeps the tie or makes them part, and flushing keeps it. -/
theorem companions_agreeButOut [Sink ω] [Sink ω'] [Sink ε] {O : ω → ω' → List UInt8 → Prop}
    {Q : Shell ω ε σ → Shell ω' ε σ → Prop}
    (hprint : ∀ {s t}, TiedOutputs O s t → ∀ text,
      Abreast (TiedOutputs O) Q (s.print text) (t.print text))
    (hflush : ∀ {a b taken}, O a b taken → (Sink.flush a).2 = (Sink.flush b).2 ∧
      O (Sink.flush a).1 (Sink.flush b).1 taken)
    (hleft : ∀ {s s' t}, Q s t → Turn s s' → Q s' t)
    (hright : ∀ {s t t'}, Q s t → Turn t t' → Q s t') :
    Companions (TiedOutputs (ε := ε) (σ := σ) O) Q where
  dir h := congrArg State.dir h.1.state
  running h := congrArg State.running h.1.state
  env h := congrArg State.env h.1.state
  host h := congrArg State.host h.1.state
  history h := congrArg State.history h.1.state
  signals h := h.1.signals
  print := hprint
  complain {s t} h line := by
    refine ⟨h.1.complain line, ?_⟩
    rw [outBytes_complain]
    exact h.2
  stop h := ⟨h.1.update fun state => { state with running := false }, h.2⟩
  move h host dir := ⟨h.1.update fun state => { state with host, dir }, h.2⟩
  bind h env := ⟨h.1.update fun state => { state with env }, h.2⟩
  launch h argv launched := by
    refine ⟨h.1.launch argv launched, ?_⟩
    rw [outBytes_afterLaunch]
    exact h.2
  remember h line :=
    ⟨h.1.update fun state => { state with history := state.history.record line }, h.2⟩
  read h prompt := by
    refine ⟨h.1.note (.read prompt), ?_⟩
    rw [outBytes_note, Event.outBytes, List.append_nil]
    exact h.2
  heed h := ⟨h.1.heed, h.2⟩
  flush h := .of_eq ⟨(hflush h.2).1, h.1.flush, (hflush h.2).2⟩
  left := hleft
  right := hright

/-- The same shell with its output watched. -/
def watched (s : Shell ω ε σ) : Shell (Watched ω) ε σ := { s with out := { sink := s.out } }

/-- The first shell is the second with its output watched. -/
abbrev Watches : Shell (Watched ω) ε σ → Shell ω ε σ → Prop :=
  TiedOutputs fun w out _ => w.sink = out

theorem watches_watched (s : Shell ω ε σ) : Watches s.watched s := ⟨⟨rfl, rfl, rfl, rfl⟩, rfl⟩

/-- Watching changes nothing. -/
theorem companions_watches [Sink ω] [Sink ε] :
    Companions (Watches (ω := ω) (ε := ε) (σ := σ)) (fun _ _ => False) := by
  refine companions_agreeButOut ?_ ?_ (fun h _ => h) (fun h _ => h)
  · rintro s t ⟨hagree, hsink⟩ text
    refine .inl (.of_eq ⟨?_, hagree.print ?_, ?_⟩)
    · simp only [print, Watched.fault?_offer, hsink]
    · rw [Watched.taken_offer, hsink]
    · simp only [print, note, Watched.sink_offer, hsink]
  · rintro w _ taken rfl
    exact ⟨rfl, rfl⟩

end Shell
end LineShell
