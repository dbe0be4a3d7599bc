import LineShell.Proofs.Session.Companions
import LineShell.Proofs.Session.Seen

/-! Two shells that are level: they agree in all that commands go by, their outputs never fail, and
their error streams take the same.  Whatever else has been seen of each of them, from there on the same
is seen of both. -/
namespace LineShell

/-- Two streams that take the same of whatever they are offered, now and later. -/
def Sink.Alike {γ : Type} [Sink γ] (a b : γ) : Prop :=
  ∃ R : γ → γ → Prop, R a b ∧ ∀ a b, R a b → ∀ bytes,
    (offer a bytes).taken bytes = (offer b bytes).taken bytes ∧
      R (offer a bytes).sink (offer b bytes).sink

namespace Sink.Alike
variable {γ : Type} [Sink γ] {a b : γ}

theorem refl (a : γ) : Alike a a := by
  refine ⟨Eq, rfl, ?_⟩
  rintro a _ rfl bytes
  exact ⟨rfl, rfl⟩

theorem of_reliable (ha : Reliable a) (hb : Reliable b) : Alike a b := by
  refine ⟨fun a b => Reliable a ∧ Reliable b, ⟨ha, hb⟩, ?_⟩
  rintro a b ⟨ha, hb⟩ bytes
  exact ⟨(ha.offer_taken bytes).trans (hb.offer_taken bytes).symm, ha.offer_sink bytes,
    hb.offer_sink bytes⟩

theorem taken (h : Alike a b) (bytes : List UInt8) :
    (offer a bytes).taken bytes = (offer b bytes).taken bytes := by
  obtain ⟨R, hR, hoffer⟩ := h
  exact (hoffer a b hR bytes).1

theorem sink (h : Alike a b) (bytes : List UInt8) :
    Alike (offer a bytes).sink (offer b bytes).sink := by
  obtain ⟨R, hR, hoffer⟩ := h
  exact ⟨R, (hoffer a b hR bytes).2, hoffer⟩

end Sink.Alike

namespace Shell
variable {ω ε σ : Type} [Sink ω] [Sink ε] {s t s' t' : Shell ω ε σ}

/-- Nothing that a command could ask for tells the shells apart. -/
structure Level (s t : Shell ω ε σ) : Prop where
  state : s.toState = t.toState
  signals : s.signals = t.signals
  out : Sink.Reliable s.out
  out' : Sink.Reliable t.out
  err : Sink.Alike s.err t.err

/-- The shells are level, and the same has been seen of both after what was seen before. -/
def LevelSince (before before' : List Event) (s t : Shell ω ε σ) : Prop :=
  Level s t ∧ ∃ seen, s.transcript = before ++ seen ∧ t.transcript = before' ++ seen

theorem LevelSince.note {before before' : List Event} (h : LevelSince before before' s t)
    (event : Event) : LevelSince before before' (s.note event) (t.note event) := by
  obtain ⟨hlevel, seen, hs, ht⟩ := h
  refine ⟨⟨hlevel.state, hlevel.signals, hlevel.out, hlevel.out', hlevel.err⟩,
    seen ++ [event], ?_, ?_⟩
  · simp [Shell.note, hs]
  · simp [Shell.note, ht]

theorem Level.refl (h : Sink.Reliable s.out) : Level s s := ⟨rfl, rfl, h, h, .refl _⟩

theorem Level.prompt (h : Level s t) : s.prompt = t.prompt :=
  congrArg (fun state : State σ => "[shell:" ++ shortDir state.dir ++ "]$ ") h.state

theorem Level.update (h : Level s t) (f : State σ → State σ) :
    Level { s with toState := f s.toState } { t with toState := f t.toState } :=
  ⟨congrArg f h.state, h.signals, h.out, h.out', h.err⟩

theorem Level.heed (h : Level s t) : Level { s with signals := [] } { t with signals := [] } :=
  ⟨h.state, rfl, h.out, h.out', h.err⟩

/-- Level shells never part. -/
theorem companions_levelSince (before before' : List Event) :
    Companions (LevelSince (ω := ω) (ε := ε) (σ := σ) before before') (fun _ _ => False) where
  dir h := congrArg State.dir h.1.state
  running h := congrArg State.running h.1.state
  env h := congrArg State.env h.1.state
  host h := congrArg State.host h.1.state
  history h := congrArg State.history h.1.state
  signals h := h.1.signals
  print {s t} h text := by
    obtain ⟨hlevel, hseen⟩ := h
    refine .inl (.of_eq ⟨?_, ?_⟩)
    · exact (hlevel.out.offer_fault? _).trans (hlevel.out'.offer_fault? _).symm
    · have hoffered : LevelSince before before' { s with out := (Sink.offer s.out (utf8 text)).sink }
          { t with out := (Sink.offer t.out (utf8 text)).sink } :=
        ⟨⟨hlevel.state, hlevel.signals, hlevel.out.offer_sink _, hlevel.out'.offer_sink _,
          hlevel.err⟩, hseen⟩
      simpa only [print, hlevel.out.offer_taken, hlevel.out'.offer_taken] using hoffered.note _
  complain {s t} h line := by
    obtain ⟨hlevel, hseen⟩ := h
    have hoffered : LevelSince before before'
        { s with err := (Sink.offer s.err (utf8 (line ++ "\n"))).sink }
        { t with err := (Sink.offer t.err (utf8 (line ++ "\n"))).sink } :=
      ⟨⟨hlevel.state, hlevel.signals, hlevel.out, hlevel.out', hlevel.err.sink _⟩, hseen⟩
    simpa only [complain, hlevel.err.taken] using hoffered.note _
  stop h := ⟨h.1.update fun state => { state with running := false }, h.2⟩
  move h host dir := ⟨h.1.update fun state => { state with host, dir }, h.2⟩
  bind h env := ⟨h.1.update fun state => { state with env }, h.2⟩
  launch {s t} h argv launched := by
    obtain ⟨hlevel, seen, hs, ht⟩ := h
    refine ⟨⟨?_, ?_, hlevel.out, hlevel.out', hlevel.err⟩,
      seen ++ .launch argv launched.printed :: launched.signals.map .signal, ?_, ?_⟩
    · exact congrArg (fun state => { state with host := launched.host }) hlevel.state
    · simp only [afterLaunch, hlevel.signals]
    · simp [afterLaunch, hs]
    · simp [afterLaunch, ht]
  remember h line :=
    ⟨h.1.update fun state => { state with history := state.history.record line }, h.2⟩
  read h prompt := h.note (.read prompt)
  heed h := ⟨h.1.heed, h.2⟩
  flush h := by
    obtain ⟨hlevel, hseen⟩ := h
    refine .of_eq ⟨hlevel.out.flush_fault?.trans hlevel.out'.flush_fault?.symm, ?_, hseen⟩
    exact ⟨hlevel.state, hlevel.signals, hlevel.out.flush_sink, hlevel.out'.flush_sink, hlevel.err⟩
  left h _ := h
  right h _ := h

namespace Level

theorem since (h : Level s t) : LevelSince s.transcript t.transcript s t :=
  ⟨h, [], (List.append_nil _).symm, (List.append_nil _).symm⟩

/-- What is seen of one of them is seen of the other. -/
theorem sees {α : Type} {a b : α × Shell ω ε σ} (h : Level s t)
    (hab : Together (LevelSince s.transcript t.transcript) a b) {seen : List Event}
    (hseen : Sees s a.2 seen) : a.1 = b.1 ∧ Level a.2 b.2 ∧ Sees t b.2 seen := by
  obtain ⟨answer, s', t', rfl, rfl, hlevel, seen', hs, ht⟩ := hab
  obtain rfl : seen = seen' := List.append_cancel_left (hseen.transcript.symm.trans hs)
  refine ⟨rfl, hlevel, ht, ?_, hseen.unasked⟩
  rw [← hlevel.signals, ← h.signals]
  exact hseen.signals

variable [Host σ]

theorem typed (h : Level s t) (line : String) :
    (s.typed line).1 = (t.typed line).1 ∧ Level (s.typed line).2 (t.typed line).2 ∧
      ∃ seen, Sees s (s.typed line).2 seen ∧ Sees t (t.typed line).2 seen := by
  obtain ⟨seen, hseen⟩ := sees_typed s line
  obtain ⟨hanswer, hlevel, hseen'⟩ := h.sees
    (((companions_levelSince _ _).typed h.since line).resolve_right id) hseen
  exact ⟨hanswer, hlevel, seen, hseen, hseen'⟩

theorem source (h : Level s t) (lines : List String) :
    (s.source lines).1 = (t.source lines).1 ∧ Level (s.source lines).2 (t.source lines).2 ∧
      ∃ seen, Sees s (s.source lines).2 seen ∧ Sees t (t.source lines).2 seen := by
  obtain ⟨seen, hseen⟩ := (changes_source s lines).sees
  obtain ⟨hanswer, hlevel, hseen'⟩ := h.sees
    (((companions_levelSince _ _).source h.since lines).resolve_right id) hseen
  exact ⟨hanswer, hlevel, seen, hseen, hseen'⟩

end Level
end Shell
end LineShell
