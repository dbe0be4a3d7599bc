import LineShell.Proofs.Session.Account
import LineShell.Proofs.Session.Conclusion
import LineShell.Proofs.Session.Level

/-! What is shown of an answer.  Level shells see the same of it, and come to the same stage. -/
namespace LineShell.Session
variable {ω ε σ : Type}

namespace Stage

def interrupt : Stage ω ε σ → Interrupt
  | .finished ended => ended.interrupt
  | .ready _ i => i

def result? : Stage ω ε σ → Option (Except ShellError Int32)
  | .finished ended => some ended.result
  | .ready _ _ => none

end Stage

/-- The result of a session that an answer ends. -/
def resultOf : Next → Reply → Option (Except ShellError Int32)
  | .leave status, _ => some (.ok status)
  | .proceed, .endOfInput => some (.ok 0)
  | .proceed, .failed error => some (.error error)
  | .proceed, .line _ | .proceed, .interrupted => none

/-- When the input is over the prompt's line is ended. -/
def farewell : Reply → List Event
  | .endOfInput => [.out (utf8 "\n")]
  | .line _ | .interrupted | .failed _ => []

section Output
variable [Sink ω] {s t u : Shell ω ε σ}

/-- The second shell is the first after its output, which never fails, has taken something more,
or a line was asked for. -/
structure Shows (s t : Shell ω ε σ) (events : List Event) : Prop where
  state : t.toState = s.toState
  err : t.err = s.err
  signals : t.signals = s.signals
  out : Sink.Reliable t.out
  transcript : t.transcript = s.transcript ++ events

theorem Shows.refl (h : Sink.Reliable s.out) : Shows s s [] :=
  ⟨rfl, rfl, rfl, h, (List.append_nil _).symm⟩

theorem Shows.trans {first more : List Event} (h : Shows s t first) (h' : Shows t u more) :
    Shows s u (first ++ more) where
  state := h'.state.trans h.state
  err := h'.err.trans h.err
  signals := h'.signals.trans h.signals
  out := h'.out
  transcript := by rw [h'.transcript, h.transcript, List.append_assoc]

theorem shows_print (h : Sink.Reliable s.out) (text : String) :
    ∃ t, s.print text = (none, t) ∧ Shows s t [.out (utf8 text)] :=
  ⟨_, Shell.print_eq h text, rfl, rfl, rfl, h.offer_sink _, rfl⟩

theorem shows_flush (h : Sink.Reliable s.out) :
    ∃ t, s.flush = (none, t) ∧ Shows s t [] :=
  ⟨_, Shell.flush_eq h, rfl, rfl, rfl, h.flush_sink, (List.append_nil _).symm⟩

theorem shows_say (h : Sink.Reliable s.out) (quiet : Bool) (text : String) (i : Interrupt) :
    ∃ t, say quiet text s i = .ready t i ∧
      Shows s t (if quiet then [] else [.out (utf8 text)]) := by
  cases quiet with
  | true => exact ⟨s, rfl, .refl h⟩
  | false =>
    obtain ⟨t, hprint, ht⟩ := shows_print h text
    refine ⟨t, ?_, ht⟩
    rw [say, if_neg (by simp), hprint]
    rfl

theorem shows_asking (h : Sink.Reliable s.out) (i : Interrupt) :
    ∃ t, asking s i = .ready t i.take.2 ∧
      Shows s t ((if i.pending then [.out (utf8 "\n")] else []) ++ [.read s.prompt]) := by
  obtain ⟨t, hfresh, ht⟩ : ∃ t, freshLine s i = .ready t i.take.2 ∧
      Shows s t (if i.pending then [.out (utf8 "\n")] else []) := by
    cases hpending : i.pending with
    | false => exact ⟨s, by simp [freshLine, Interrupt.take, hpending, onward], .refl h⟩
    | true =>
      obtain ⟨t, hprint, ht⟩ := shows_print h "\n"
      exact ⟨t, by simp [freshLine, Interrupt.take, hpending, hprint, onward], ht⟩
  obtain ⟨u, hflush, hu⟩ := shows_flush ht.out
  have hread : Shows u (u.note (.read u.prompt)) [.read s.prompt] := by
    have hprompt : u.prompt = s.prompt :=
      congrArg (fun state : State σ => "[shell:" ++ shortDir state.dir ++ "]$ ")
        (hu.state.trans ht.state)
    refine ⟨rfl, rfl, rfl, hu.out, ?_⟩
    rw [← hprompt]
    rfl
  refine ⟨u.note (.read u.prompt), ?_, ?_⟩
  · rw [asking, hfresh, Stage.andThen, prompted, hflush]
    rfl
  · simpa using ht.trans (hu.trans hread)

theorem shows_leave (h : Sink.Reliable s.out) (i : Interrupt) (status : Int32) :
    ∃ t, leave s i status = ⟨t, i, .ok status⟩ ∧ Shows s t [] := by
  obtain ⟨t, hflush, ht⟩ := shows_flush h
  exact ⟨t, by rw [leave, hflush], ht⟩

/-- The stage that an answer leads to when `outcome` is what carrying it out came to.  The shell has
seen these events meanwhile, after a hint if the answer called for one. -/
structure Responds (quiet : Bool) (reply : Reply) (s : Shell ω ε σ) (i : Interrupt)
    (outcome : Next × Shell ω ε σ) (seen : List Event) (stage : Stage ω ε σ) : Prop where
  result : stage.result? = resultOf outcome.1 reply
  interrupt : stage.interrupt = heard i seen
  state : stage.shell.toState = outcome.2.toState
  err : stage.shell.err = outcome.2.err
  signals : stage.shell.signals = []
  out : Sink.Reliable stage.shell.out
  transcript : stage.shell.transcript =
    s.transcript ++ (hintFor quiet reply ++ seen)

end Output

variable [Sink ω] [Sink ε] {s t : Shell ω ε σ}

theorem level_of_shows {s' t' : Shell ω ε σ} {events events' : List Event}
    (h : Shell.Level s t) (hs : Shows s s' events) (ht : Shows t t' events') :
    Shell.Level s' t' where
  state := by rw [hs.state, ht.state, h.state]
  signals := by rw [hs.signals, ht.signals, h.signals]
  out := hs.out
  out' := ht.out
  err := by
    rw [hs.err, ht.err]
    exact h.err

theorem Responds.level {quiet quiet' : Bool} {reply : Reply} {i i' : Interrupt}
    {outcome outcome' : Next × Shell ω ε σ} {seen seen' : List Event} {a b : Stage ω ε σ}
    (h : Responds quiet reply s i outcome seen a)
    (h' : Responds quiet' reply t i' outcome' seen' b)
    (hlevel : Shell.Level outcome.2 outcome'.2) : Shell.Level a.shell b.shell where
  state := by rw [h.state, h'.state, hlevel.state]
  signals := by rw [h.signals, h'.signals]
  out := h.out
  out' := h'.out
  err := by
    rw [h.err, h'.err]
    exact hlevel.err

variable [Host σ]

theorem responds_line (hsignals : s.signals = []) (quiet : Bool) (i : Interrupt) {text : String}
    {next : Next} (htyped : s.typed text = (next, t)) (hout : Sink.Reliable t.out)
    {seen : List Event} (hseen : Shell.Sees s t seen) :
    Responds quiet (.line text) s i (next, t) seen (respond quiet s i (.line text)) := by
  have htranscript := hseen.transcript
  have hnone : hintFor quiet (.line text) = [] := by simp [hintFor]
  cases next with
  | leave status =>
    have ht : t.signals = [] := (Shell.signals_of_typed_leave htyped).trans hsignals
    have hquiet : seen.filterMap Event.signal? = [] := by
      simpa [hsignals, ht] using hseen.signals
    obtain ⟨u, hleave, hu⟩ := shows_leave hout i status
    have hstage : respond quiet s i (.line text) = .finished ⟨u, i, .ok status⟩ := by
      simp only [respond, htyped, hleave]
    rw [hstage]
    refine ⟨rfl, (heard_of_quiet i hquiet).symm, hu.state, hu.err, hu.signals.trans ht, hu.out, ?_⟩
    simpa [Stage.shell, hnone, hu.transcript] using htranscript
  | proceed =>
    have hstage : respond quiet s i (.line text) = .ready (heed t i).1 (heed t i).2 := by
      simp only [respond, htyped]
    rw [hstage]
    refine ⟨rfl, ?_, rfl, rfl, rfl, hout, ?_⟩
    · rw [Stage.interrupt, heed_of_sees hseen, heed_of_no_signals hsignals]
    rw [hnone, List.nil_append]
    exact htranscript

/-- An answer that is no line is seen to without a command. -/
theorem responds_other (hsignals : s.signals = []) (hout : Sink.Reliable s.out) (quiet : Bool)
    (i : Interrupt) {reply : Reply} (h : ∀ text, reply ≠ .line text) :
    Responds quiet reply s i (.proceed, s) (farewell reply) (respond quiet s i reply) := by
  cases reply with
  | line text => exact absurd rfl (h text)
  | interrupted =>
    obtain ⟨t, hsay, ht⟩ := shows_say hout quiet (interruptHint ++ "\n") i
    rw [respond, hsay]
    refine ⟨rfl, (heard_of_quiet i rfl).symm, ht.state, ht.err, ht.signals.trans hsignals, ht.out, ?_⟩
    rw [Stage.shell, ht.transcript]
    cases quiet <;> rfl
  | endOfInput =>
    obtain ⟨t, hsay, ht⟩ := shows_say hout false "\n" i
    obtain ⟨u, hleave, hu⟩ := shows_leave ht.out i 0
    have hshown := ht.trans hu
    rw [respond, finished_endOfInput, hsay, Stage.andThen, hleave]
    refine ⟨rfl, (heard_of_quiet i rfl).symm, hshown.state, hshown.err,
      hshown.signals.trans hsignals, hshown.out, ?_⟩
    rw [Stage.shell, hshown.transcript]
    cases quiet <;> rfl
  | failed error =>
    refine ⟨rfl, (heard_of_quiet i rfl).symm, rfl, rfl, hsignals, hout, ?_⟩
    cases quiet <;> exact (List.append_nil _).symm

/-- Level shells that get the same answer see the same of it, and come to the same stage. -/
theorem respond_level (h : Shell.Level s t) (hsignals : s.signals = []) (quiet quiet' : Bool)
    (i i' : Interrupt) (reply : Reply) :
    ∃ next u v seen, seen.filterMap Event.prompt? = [] ∧ Shell.Level u v ∧
      Responds quiet reply s i (next, u) seen (respond quiet s i reply) ∧
      Responds quiet' reply t i' (next, v) seen (respond quiet' t i' reply) := by
  have hsignals' : t.signals = [] := h.signals ▸ hsignals
  by_cases hline : ∃ text, reply = .line text
  · obtain ⟨text, rfl⟩ := hline
    obtain ⟨hnext, hlevel, seen, hs, ht⟩ := h.typed text
    exact ⟨_, _, _, seen, hs.unasked, hlevel, responds_line hsignals quiet i rfl hlevel.out hs,
      responds_line hsignals' quiet' i' (t := (t.typed text).2) (Prod.ext hnext.symm rfl)
        hlevel.out' ht⟩
  · have hother (text : String) : reply ≠ .line text := fun heq => hline ⟨text, heq⟩
    have hunasked : (farewell reply).filterMap Event.prompt? = [] := by cases reply <;> rfl
    exact ⟨_, s, t, _, hunasked, h, responds_other hsignals h.out quiet i hother,
      responds_other hsignals' h.out' quiet' i' hother⟩

end LineShell.Session
