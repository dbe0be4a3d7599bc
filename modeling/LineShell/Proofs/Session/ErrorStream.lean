import LineShell.Proofs.Command.Failure
import LineShell.Proofs.Command.Reliable
import LineShell.Proofs.Session.Companions
import LineShell.Sandbox

/-! What the error stream is good for: nothing but what it takes.  Shells that differ in it alone
answer the same and do the same, and one that takes less has taken the beginning of what another
takes. -/
namespace LineShell

/-- An event without the bytes that it brings to the error stream. -/
def Event.withoutErr : Event → Event
  | .err _ => .err []
  | .out bytes => .out bytes
  | .launch argv printed => .launch argv printed
  | .signal number => .signal number
  | .read prompt => .read prompt

namespace Shell
variable {ω ε ε' σ : Type}

/-- Two shells that agree in all that commands go by, in the output, in the signals still to be
heeded, and in all that was seen of them but what the error streams have taken. -/
structure AgreeButErr (s : Shell ω ε σ) (t : Shell ω ε' σ) : Prop where
  state : s.toState = t.toState
  out : s.out = t.out
  signals : s.signals = t.signals
  seen : s.transcript.map Event.withoutErr = t.transcript.map Event.withoutErr

namespace AgreeButErr
variable {s : Shell ω ε σ} {t : Shell ω ε' σ} (h : AgreeButErr s t)
include h

theorem note (event : Event) : AgreeButErr (s.note event) (t.note event) where
  state := h.state
  out := h.out
  signals := h.signals
  seen := by simp [Shell.note, h.seen]

theorem print [Sink ω] (text : String) :
    (s.print text).1 = (t.print text).1 ∧ AgreeButErr (s.print text).2 (t.print text).2 where
  left := by rw [Shell.print, Shell.print, h.out]
  right := {
    state := h.state
    out := by simp only [Shell.print, Shell.note, h.out]
    signals := h.signals
    seen := by simp [Shell.print, Shell.note, h.seen, h.out] }

theorem complain [Sink ε] [Sink ε'] (line : String) :
    AgreeButErr (s.complain line) (t.complain line) where
  state := h.state
  out := h.out
  signals := h.signals
  seen := by simp [Shell.complain, Shell.note, Event.withoutErr, h.seen]

theorem launch (argv : List String) (launched : Launched σ) :
    AgreeButErr (s.afterLaunch argv launched) (t.afterLaunch argv launched) where
  state := congrArg (fun state => { state with host := launched.host }) h.state
  out := h.out
  signals := by simp only [afterLaunch, h.signals]
  seen := by simp [afterLaunch, h.seen]

theorem flush [Sink ω] :
    s.flush.1 = t.flush.1 ∧ AgreeButErr s.flush.2 t.flush.2 where
  left := by rw [Shell.flush, Shell.flush, h.out]
  right := {
    state := h.state
    out := by simp only [Shell.flush, h.out]
    signals := h.signals
    seen := h.seen }

theorem heed : AgreeButErr { s with signals := [] } { t with signals := [] } where
  state := h.state
  out := h.out
  signals := rfl
  seen := h.seen

theorem update (f : State σ → State σ) :
    AgreeButErr { s with toState := f s.toState } { t with toState := f t.toState } where
  state := congrArg f h.state
  out := h.out
  signals := h.signals
  seen := h.seen

end AgreeButErr

variable [Sink ω] [Sink ε] [Sink ε']

/-- Shells that agree in everything but the error stream never part.  Their error streams may be
tied besides by what each of them has taken. -/
theorem companions_agreeButErr {E : ε → List UInt8 → ε' → List UInt8 → Prop}
    (hE : ∀ {a taken b taken'}, E a taken b taken' → ∀ bytes,
      E (Sink.offer a bytes).sink (taken ++ (Sink.offer a bytes).taken bytes)
        (Sink.offer b bytes).sink (taken' ++ (Sink.offer b bytes).taken bytes)) :
    Companions (σ := σ) (ω := ω)
      (fun s t => AgreeButErr s t ∧ E s.err s.errBytes t.err t.errBytes)
      (fun _ _ => False) where
  dir h := congrArg State.dir h.1.state
  running h := congrArg State.running h.1.state
  env h := congrArg State.env h.1.state
  host h := congrArg State.host h.1.state
  history h := congrArg State.history h.1.state
  signals h := h.1.signals
  print {s t} h text := by
    refine .inl (.of_eq ⟨(h.1.print text).1, (h.1.print text).2, ?_⟩)
    rw [errBytes_print, errBytes_print]
    exact h.2
  complain {s t} h line := by
    refine ⟨h.1.complain line, ?_⟩
    rw [errBytes_complain, errBytes_complain]
    exact hE h.2 _
  stop h := ⟨h.1.update fun state => { state with running := false }, h.2⟩
  move h host dir := ⟨h.1.update fun state => { state with host, dir }, h.2⟩
  bind h env := ⟨h.1.update fun state => { state with env }, h.2⟩
  launch h argv launched := by
    refine ⟨h.1.launch argv launched, ?_⟩
    rw [errBytes_afterLaunch, errBytes_afterLaunch]
    exact h.2
  remember h line :=
    ⟨h.1.update fun state => { state with history := state.history.record line }, h.2⟩
  read h prompt := by
    refine ⟨h.1.note (.read prompt), ?_⟩
    rw [errBytes_note, errBytes_note, Event.errBytes, List.append_nil, List.append_nil]
    exact h.2
  heed h := ⟨h.1.heed, h.2⟩
  flush h := .of_eq ⟨h.1.flush.1, h.1.flush.2, h.2⟩
  left h _ := h
  right h _ := h

def Cut (n : Nat) (a : Limited) (taken : List UInt8) (b : ε) (taken' : List UInt8) : Prop :=
  a.room = some (n - taken'.length) ∧ taken = taken'.take n ∧ Sink.Reliable b

theorem Cut.offer {n : Nat} {a : Limited} {taken : List UInt8} {b : ε} {taken' : List UInt8}
    (h : Cut n a taken b taken') (bytes : List UInt8) :
    Cut n (Sink.offer a bytes).sink (taken ++ (Sink.offer a bytes).taken bytes)
      (Sink.offer b bytes).sink (taken' ++ (Sink.offer b bytes).taken bytes) := by
  obtain ⟨hroom, htaken, hfree⟩ := h
  obtain ⟨hfits, hleft, -⟩ := Limited.offer_of_room hroom bytes
  rw [hfree.offer_taken]
  refine ⟨?_, ?_, hfree.offer_sink bytes⟩
  · rw [hleft, List.length_append, Nat.sub_sub]
  · rw [hfits, htaken, List.take_append]

end Shell

namespace Session
open Shell
variable {ω ε ε' σ : Type} [Sink ω] [Sink ε] [Sink ε'] [Host σ]

/-- Nothing but the error stream itself depends on it.  Shells that differ in it alone answer every
request alike, come to the same end of every session, and still differ in it alone.  An error stream
with room for so many bytes takes just the first of those that one without a bound takes. -/
theorem error_stream_idle (s : Shell ω ε σ) (t : Shell ω ε' σ) (h : AgreeButErr s t) :
    (∀ requests, s.answers requests = t.answers requests ∧
        AgreeButErr (s.afterAll requests) (t.afterAll requests)) ∧
      (∀ quiet file? readings i,
        (run quiet file? readings s i).result = (run quiet file? readings t i).result ∧
        (run quiet file? readings s i).interrupt = (run quiet file? readings t i).interrupt ∧
        AgreeButErr (run quiet file? readings s i).shell (run quiet file? readings t i).shell) ∧
      ∀ (u : Shell ω Limited σ) (limit : Nat), AgreeButErr u t → u.err.room = some limit →
        u.errBytes = t.errBytes → Sink.Reliable t.err →
        (∀ requests, (u.afterAll requests).errBytes =
          (t.afterAll requests).errBytes.take (t.errBytes.length + limit)) ∧
        ∀ quiet file? readings i, (run quiet file? readings u i).shell.errBytes =
          (run quiet file? readings t i).shell.errBytes.take (t.errBytes.length + limit) := by
  have hfree := companions_agreeButErr (ω := ω) (σ := σ) (E := fun (_ : ε) _ (_ : ε') _ => True)
    fun _ _ => trivial
  refine ⟨?_, ?_, ?_⟩
  · intro requests
    obtain ⟨hanswers, hagree, -⟩ := hfree.lasting_afterAll ⟨h, trivial⟩ requests
    exact ⟨hanswers, hagree⟩
  · intro quiet file? readings i
    obtain ⟨hresult, hinterrupt, hagree, -⟩ :=
      hfree.lasting_run ⟨h, trivial⟩ quiet file? readings i
    exact ⟨hresult, hinterrupt, hagree⟩
  · intro u limit hu hroom hsame hreliable
    have hcut : Cut (t.errBytes.length + limit) u.err u.errBytes t.err t.errBytes := by
      refine ⟨?_, ?_, hreliable⟩
      · rw [hroom, Nat.add_sub_cancel_left]
      · rw [hsame, List.take_of_length_le (Nat.le_add_right _ _)]
    have hbound := companions_agreeButErr (ω := ω) (σ := σ)
      (E := Cut (ε := ε') (t.errBytes.length + limit)) fun h => h.offer
    constructor
    · intro requests
      obtain ⟨-, -, -, htaken, -⟩ := hbound.lasting_afterAll ⟨hu, hcut⟩ requests
      exact htaken
    · intro quiet file? readings i
      obtain ⟨-, -, -, -, htaken, -⟩ := hbound.lasting_run ⟨hu, hcut⟩ quiet file? readings i
      exact htaken

def muffled (room : Option Nat) : Shell Limited Limited Sandbox where
  dir := "/"
  host := {}
  out := {}
  err := { room }

def mistakes : List Reading :=
  [{ reply := .line "unset" }, { reply := .line "export" }, { reply := .line "exit 2" }]

/-- There is room for one of the two complaints and a little of the other. -/
theorem error_stream_idle_muffled :
    AgreeButErr (muffled (some 26)) (muffled none) ∧
      (run true none mistakes (muffled (some 26)) {}).result.toOption = some 2 ∧
      (run true none mistakes (muffled (some 26)) {}).shell.errBytes =
        utf8 "unset: usage: unset VAR\nex" := by
  have hagree : AgreeButErr (muffled (some 26)) (muffled none) := ⟨rfl, rfl, rfl, rfl⟩
  obtain ⟨-, hsession, hcut⟩ := error_stream_idle (muffled (some 26)) (muffled none) hagree
  obtain ⟨-, hbytes⟩ := hcut (muffled (some 26)) 26 hagree rfl rfl (Limited.reliable rfl)
  refine ⟨hagree, ?_, ?_⟩
  · rw [(hsession true none mistakes {}).1]
    decide +kernel
  · rw [hbytes]
    decide +kernel

end Session
end LineShell
