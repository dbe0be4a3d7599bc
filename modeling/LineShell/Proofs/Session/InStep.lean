import LineShell.Proofs.Session.Conclusion
import LineShell.Proofs.Session.Shown

/-! Two sessions that are given the same answers, with level shells: one account tells of both,
though one may be quiet and the other not, and one may be interrupted where the other is not. -/
namespace LineShell.Session
variable {ω ε σ : Type} [Sink ω]

def Manner.upToAnswer (m : Manner) (before opening : List Event) (prompt : String) : List Event :=
  before ++ (opening ++ m.fresh 0 opening ++ .read prompt :: m.hint 0)

/-- What a session has come to when an answer was seen to: the interrupt, and what was seen. -/
theorem Responds.after {m : Manner} {before opening seen : List Event} {i : Interrupt}
    {reply : Reply} {s s' : Shell ω ε σ} {outcome : Next × Shell ω ε σ} {stage : Stage ω ε σ}
    (hreply : (m.reading 0).reply = reply)
    (hs : s.transcript = before ++ opening) (hi : i = heard ⟨m.first, m.hooked⟩ opening)
    (hasked : Shows s s' ((if i.pending then [.out (utf8 "\n")] else []) ++ [.read s.prompt]))
    (h : Responds m.quiet reply s' ⟨(m.reading 0).raises, i.hooked⟩ outcome seen stage) :
    stage.shell.transcript = m.upToAnswer before opening s.prompt ++ seen ∧
      stage.interrupt = heard ⟨m.rest.first, m.hooked⟩ seen := by
  subst hi hreply
  refine ⟨?_, h.interrupt⟩
  rw [h.transcript, hasked.transcript, hs, Manner.upToAnswer, Manner.fresh, Manner.hint]
  simp [heard, Manner.noticed, Manner.raised]

variable [Sink ε] {s t : Shell ω ε σ}

/-- Two sessions stand between one prompt and the next, with level shells.  Of each the same was seen
since the last prompt, and nothing is left to be heeded. -/
structure InStep (m m' : Manner) (before before' opening : List Event) (s t : Shell ω ε σ)
    (i i' : Interrupt) : Prop where
  level : Shell.Level s t
  signals : s.signals = []
  transcript : s.transcript = before ++ opening
  transcript' : t.transcript = before' ++ opening
  interrupt : i = heard ⟨m.first, m.hooked⟩ opening
  interrupt' : i' = heard ⟨m'.first, m'.hooked⟩ opening

/-- Two sessions are told of by the same exchanges, and come to the same end. -/
structure ToldAlike (m m' : Manner) (before before' opening : List Event) (exchanges : List Exchange)
    (a b : Ended ω ε σ) : Prop where
  unasked : ∀ e ∈ exchanges, e.seen.filterMap Event.prompt? = []
  tells : Tells m before opening exchanges a
  tells' : Tells m' before' opening exchanges b
  result : a.result = b.result
  level : Shell.Level a.shell b.shell

section Ends
variable {m m' : Manner} {before before' opening seen : List Event} {exchanges : List Exchange}
  {a b : Ended ω ε σ}

theorem InStep.toldAlike
    (h : InStep m m' before before' opening a.shell b.shell a.interrupt b.interrupt)
    (hresult : a.result = b.result) : ToldAlike m m' before before' opening [] a b where
  unasked := by simp
  tells := ⟨h.transcript, congrArg Interrupt.pending h.interrupt⟩
  tells' := ⟨h.transcript', congrArg Interrupt.pending h.interrupt'⟩
  result := hresult
  level := h.level

theorem ToldAlike.cons {prompt : String} (hseen : seen.filterMap Event.prompt? = [])
    (h : ToldAlike m.rest m'.rest (m.upToAnswer before opening prompt)
      (m'.upToAnswer before' opening prompt) seen exchanges a b) :
    ToldAlike m m' before before' opening (⟨prompt, seen⟩ :: exchanges) a b where
  unasked := by
    rintro e (_ | ⟨_, he⟩)
    · exact hseen
    · exact h.unasked e he
  tells := h.tells.cons
  tells' := h.tells'.cons
  result := h.result
  level := h.level

end Ends

variable [Host σ]

section Talk
variable {m m' : Manner} {before before' opening seen : List Event} {i i' : Interrupt}

theorem InStep.round (h : InStep m m' before before' opening s t i i') (hrun : s.running = true)
    (hreply : (m.reading 0).reply = (m'.reading 0).reply) :
    ∃ seen stage stage', seen.filterMap Event.prompt? = [] ∧
      Session.round m.quiet (m.reading 0) s i = stage ∧
      Session.round m'.quiet (m'.reading 0) t i' = stage' ∧
      stage.result? = stage'.result? ∧
      InStep m.rest m'.rest (m.upToAnswer before opening s.prompt)
        (m'.upToAnswer before' opening s.prompt) seen stage.shell stage'.shell stage.interrupt
        stage'.interrupt := by
  have hrun' : t.running = true := (congrArg State.running h.level.state).symm.trans hrun
  have htake (i : Interrupt) (raises : Bool) : i.take.2.raiseIf raises = ⟨raises, i.hooked⟩ := by
    cases raises <;> rfl
  obtain ⟨s', hasked, hs⟩ := shows_asking h.level.out i
  obtain ⟨t', hasked', ht⟩ := shows_asking h.level.out' i'
  obtain ⟨next, u, v, seen, hunasked, hlevel, hfirst, hsecond⟩ :=
    respond_level (level_of_shows h.level hs ht) (hs.signals.trans h.signals) m.quiet m'.quiet
      ⟨(m.reading 0).raises, i.hooked⟩ ⟨(m'.reading 0).raises, i'.hooked⟩ (m.reading 0).reply
  refine ⟨seen, respond m.quiet s' ⟨(m.reading 0).raises, i.hooked⟩ (m.reading 0).reply,
    respond m'.quiet t' ⟨(m'.reading 0).raises, i'.hooked⟩ (m.reading 0).reply, hunasked, ?_, ?_,
    hfirst.result.trans hsecond.result.symm, ?_⟩
  · rw [Session.round, if_pos hrun, hasked, Stage.andThen, htake]
  · rw [Session.round, if_pos hrun', hasked', Stage.andThen, htake, hreply]
  · obtain ⟨htranscript, hinterrupt⟩ := hfirst.after rfl h.transcript h.interrupt hs
    obtain ⟨htranscript', hinterrupt'⟩ :=
      hsecond.after hreply.symm h.transcript' h.interrupt' ht
    rw [← h.level.prompt] at htranscript'
    exact ⟨hfirst.level hsecond hlevel, hfirst.signals, htranscript, htranscript', hinterrupt,
      hinterrupt'⟩

theorem InStep.talk_of_stopped (h : InStep m m' before before' opening s t i i')
    (hrun : s.running = false) :
    ToldAlike m m' before before' opening [] (talk m.quiet m.readings s i)
      (talk m'.quiet m'.readings t i') := by
  have hrun' : t.running = false := (congrArg State.running h.level.state).symm.trans hrun
  obtain ⟨s', hleave, hs⟩ := shows_leave h.level.out i 0
  obtain ⟨t', hleave', ht⟩ := shows_leave h.level.out' i' 0
  rw [Session.talk_of_stopped hrun, Session.talk_of_stopped hrun', hleave, hleave']
  refine InStep.toldAlike ⟨level_of_shows h.level hs ht, hs.signals.trans h.signals, ?_, ?_,
    h.interrupt, h.interrupt'⟩ rfl
  · exact (hs.transcript.trans (List.append_nil _)).trans h.transcript
  · exact (ht.transcript.trans (List.append_nil _)).trans h.transcript'

theorem finished_talk (m : Manner) (s : Shell ω ε σ) (i : Interrupt) :
    Stage.finished (talk m.quiet m.readings s i) =
      (round m.quiet (m.reading 0) s i).andThen fun s i =>
        .finished (talk m.quiet m.rest.readings s i) := by
  rw [Manner.rest, Manner.reading]
  cases m.readings with
  | nil =>
    rw [List.getElem?_nil, Option.getD_none, ← finished_close]
    rfl
  | cons reading more =>
    rw [talk, converse_cons, List.getElem?_cons_zero, Option.getD_some]
    cases round m.quiet reading s i <;> rfl

theorem InStep.talk_of_round (h : InStep m m' before before' opening s t i i')
    (hreply : (m.reading 0).reply = (m'.reading 0).reply)
    (hmore : ∀ {before before' opening : List Event} {u v : Shell ω ε σ} {j j' : Interrupt},
      Session.round m.quiet (m.reading 0) s i = .ready u j →
      InStep m.rest m'.rest before before' opening u v j j' →
      ∃ exchanges, ToldAlike m.rest m'.rest before before' opening exchanges
        (talk m.rest.quiet m.rest.readings u j) (talk m'.rest.quiet m'.rest.readings v j')) :
    ∃ exchanges, ToldAlike m m' before before' opening exchanges
      (talk m.quiet m.readings s i) (talk m'.quiet m'.readings t i') := by
  rcases hrun : s.running with _ | _
  · exact ⟨[], h.talk_of_stopped hrun⟩
  obtain ⟨seen, stage, stage', hunasked, hround, hround', hresult, hstep⟩ := h.round hrun hreply
  have htalk := finished_talk m s i
  have htalk' := finished_talk m' t i'
  rw [hround] at htalk
  rw [hround'] at htalk'
  suffices hrest : ∃ exchanges, ToldAlike m.rest m'.rest (m.upToAnswer before opening s.prompt)
      (m'.upToAnswer before' opening s.prompt) seen exchanges (talk m.quiet m.readings s i)
      (talk m'.quiet m'.readings t i') by
    obtain ⟨exchanges, htold⟩ := hrest
    exact ⟨_, htold.cons hunasked⟩
  cases stage with
  | finished ended =>
    cases stage' with
    | finished ended' =>
      cases htalk
      cases htalk'
      exact ⟨[], hstep.toldAlike (Option.some.inj hresult)⟩
    | ready => cases hresult
  | ready u j =>
    cases stage' with
    | finished => cases hresult
    | ready v j' =>
      rw [Stage.finished.inj htalk, Stage.finished.inj htalk']
      exact hmore hround hstep

theorem InStep.talk (h : InStep m m' before before' opening s t i i')
    (hreplies : m.readings.map (·.reply) = m'.readings.map (·.reply)) :
    ∃ exchanges, ToldAlike m m' before before' opening exchanges
      (Session.talk m.quiet m.readings s i) (Session.talk m'.quiet m'.readings t i') := by
  obtain ⟨readings, hreadings⟩ : ∃ readings, m.readings = readings := ⟨_, rfl⟩
  have hreply : (m.reading 0).reply = (m'.reading 0).reply := Manner.reply_eq hreplies 0
  induction readings generalizing m m' before before' opening s t i i' with
  | nil =>
    refine h.talk_of_round hreply fun hround _ => ?_
    rw [Manner.reading, hreadings, List.getElem?_nil, Option.getD_none, ← finished_close] at hround
    cases hround
  | cons reading more ih =>
    refine h.talk_of_round hreply fun _ hmore => ?_
    have hreplies' : m.rest.readings.map (·.reply) = m'.rest.readings.map (·.reply) := by
      rw [Manner.rest, Manner.rest, List.map_tail, List.map_tail, hreplies]
    exact ih hmore hreplies' (by rw [Manner.rest, hreadings, List.tail_cons])
      (Manner.reply_eq hreplies' 0)

/-- Two sessions that get the same answers are told of by one account, if the same was seen of both
before they carry out their startup files. -/
theorem toldAlike_resume (hlevel : Shell.Level s t) (lines : List String)
    (hs : s.transcript = before ++ opening) (ht : t.transcript = before' ++ opening)
    (hi : (heed s i).2 = heard ⟨m.first, m.hooked⟩ opening)
    (hi' : (heed t i').2 = heard ⟨m'.first, m'.hooked⟩ opening)
    (hreplies : m.readings.map (·.reply) = m'.readings.map (·.reply)) :
    ∃ seen exchanges, seen.filterMap Event.prompt? = [] ∧
      ToldAlike m m' before before' (opening ++ seen) exchanges
        (resume m.quiet m.readings i (s.source lines))
        (resume m'.quiet m'.readings i' (t.source lines)) := by
  obtain ⟨hnext, hlevel', seen, hseen, hseen'⟩ := hlevel.source lines
  have hstep : InStep m m' before before' (opening ++ seen) (heed (s.source lines).2 i).1
      (heed (t.source lines).2 i').1 (heed (s.source lines).2 i).2
      (heed (t.source lines).2 i').2 := by
    refine ⟨hlevel'.heed, rfl, ?_, ?_, ?_, ?_⟩
    · exact hseen.transcript.trans (by rw [hs, List.append_assoc])
    · exact hseen'.transcript.trans (by rw [ht, List.append_assoc])
    · rw [heed_of_sees hseen, hi, heard_heard]
    · rw [heed_of_sees hseen', hi', heard_heard]
  rcases hfirst : s.source lines with ⟨next, u⟩
  rcases hsecond : t.source lines with ⟨next', v⟩
  rw [hfirst, hsecond] at hnext hstep
  obtain rfl : next = next' := hnext
  cases next with
  | leave status => exact ⟨seen, [], hseen.unasked, hstep.toldAlike rfl⟩
  | proceed =>
    obtain ⟨exchanges, htold⟩ := hstep.talk hreplies
    exact ⟨seen, exchanges, hseen.unasked, htold⟩

end Talk

end LineShell.Session
