import LineShell.Proofs.Command.Reliable
import LineShell.Proofs.Session.Watched
import LineShell.Sandbox

/-! An output that fills up.  What it has taken is the beginning of what an output without a bound
takes.  Until something is refused the two shells do the same; from then on it takes nothing
more. -/
namespace LineShell.Shell
variable {ω ε σ : Type}

/-- There is still room in an output that takes `limit` bytes in all, where `taken` are those that
were taken so far; the other output never fails. -/
structure Roomy [Sink ω] (limit : Nat) (w : Watched Limited) (out : ω) (taken : List UInt8) :
    Prop where
  untried : w.refused = false
  room : w.sink.room = some (limit - taken.length)
  fits : taken.length ≤ limit
  free : Sink.Reliable out

structure Overflown (limit : Nat) (s : Shell (Watched Limited) ε σ) (t : Shell ω ε σ) : Prop where
  refused : s.out.refused = true
  room : s.out.sink.room = some 0
  taken : s.outBytes = t.outBytes.take limit
  missed : limit < t.outBytes.length

theorem Turn.outBytes [Sink ω] [Sink ε] {s t : Shell ω ε σ} (h : Turn s t) :
    ∃ more, t.outBytes = s.outBytes ++ more := by
  cases h with
  | change h =>
    cases h with
    | print text => exact ⟨_, outBytes_print s text⟩
    | complain line => exact ⟨[], by rw [outBytes_complain, List.append_nil]⟩
    | launch _ launched => exact ⟨[], by rw [outBytes_afterLaunch, List.append_nil]⟩
    | stop | move | bind => exact ⟨[], (List.append_nil _).symm⟩
  | read prompt => exact ⟨_, outBytes_note s (.read prompt)⟩
  | remember | flush | heed => exact ⟨[], (List.append_nil _).symm⟩

namespace Overflown
variable [Sink ε] {limit : Nat} {s s' : Shell (Watched Limited) ε σ} {t t' : Shell ω ε σ}

theorem left (h : Overflown limit s t) (hturn : Turn s s') : Overflown limit s' t := by
  have hkept (hout : s'.out = s.out) (hbytes : s'.outBytes = s.outBytes) :
      Overflown limit s' t :=
    ⟨hout ▸ h.refused, hout ▸ h.room, hbytes.trans h.taken, h.missed⟩
  cases hturn with
  | change hchange =>
    cases hchange with
    | print text =>
      obtain ⟨htaken, hroom, -⟩ := Limited.offer_of_room h.room (utf8 text)
      refine ⟨?_, ?_, ?_, h.missed⟩
      · rw [print, note, Watched.refused_offer, h.refused, Bool.true_or]
      · rw [print, note, Watched.sink_offer, hroom, Nat.zero_sub]
      · rw [outBytes_print, Watched.taken_offer, htaken, List.take_zero, List.append_nil, h.taken]
    | complain line => exact hkept rfl (outBytes_complain s line)
    | launch _ launched => exact hkept rfl (outBytes_afterLaunch s _ launched)
    | stop | move | bind => exact hkept rfl rfl
  | read prompt => exact hkept rfl ((outBytes_note s _).trans (List.append_nil _))
  | remember | flush | heed => exact hkept rfl rfl

theorem right [Sink ω] (h : Overflown limit s t) (hturn : Turn t t') : Overflown limit s t' := by
  obtain ⟨more, hmore⟩ := hturn.outBytes
  have hlength : t'.outBytes.length = t.outBytes.length + more.length := by
    rw [hmore, List.length_append]
  have hmissed := h.missed
  refine ⟨h.refused, h.room, ?_, by omega⟩
  rw [hmore, List.take_append_of_le_length (Nat.le_of_lt hmissed)]
  exact h.taken

end Overflown

variable [Sink ω]

theorem abreast_print {limit : Nat} {s : Shell (Watched Limited) ε σ} {t : Shell ω ε σ}
    (h : TiedOutputs (Roomy limit) s t) (text : String) :
    Abreast (TiedOutputs (Roomy limit)) (Overflown limit) (s.print text) (t.print text) := by
  obtain ⟨hagree, hroomy⟩ := h
  obtain ⟨htaken, hroom, hfault⟩ := Limited.offer_of_room hroomy.room (utf8 text)
  have hfits := hroomy.fits
  have hprinted : (t.print text).2.outBytes = t.outBytes ++ utf8 text := by
    rw [outBytes_print, hroomy.free.offer_taken]
  have hlength : (t.print text).2.outBytes.length = t.outBytes.length + (utf8 text).length := by
    rw [hprinted, List.length_append]
  by_cases hspace : (utf8 text).length ≤ limit - t.outBytes.length
  · have hnone := hfault.mpr hspace
    refine .inl (.of_eq ⟨?_, hagree.print ?_, ?_, ?_, by omega, reliable_print hroomy.free text⟩)
    · simp only [print, Watched.fault?_offer, hnone, hroomy.free.offer_fault?]
    · rw [Watched.taken_offer, hroomy.free.offer_taken, Offer.taken_of_fault? hnone]
    · simp only [print, note, Watched.refused_offer, hroomy.untried, hnone, Option.isSome_none,
        Bool.or_self]
    · simp only [hlength, ← Nat.sub_sub, ← hroom, ← Watched.sink_offer]
      rfl
  · have hsome : (Sink.offer s.out.sink (utf8 text)).fault?.isSome := by
      rw [Option.isSome_iff_ne_none]
      exact fun hnone => hspace (hfault.mp hnone)
    refine .inr ⟨?_, ?_, ?_, by omega⟩
    · simp only [print, note, Watched.refused_offer, hsome, Bool.or_true]
    · have hnothing : limit - t.outBytes.length - (utf8 text).length = 0 := by omega
      rw [hnothing, ← Watched.sink_offer] at hroom
      exact hroom
    · rw [outBytes_print, Watched.taken_offer, htaken, hprinted, List.take_append,
        List.take_of_length_le hfits, hagree.outBytes]

theorem companions_roomy [Sink ε] (limit : Nat) :
    Companions (TiedOutputs (Roomy limit) : Shell (Watched Limited) ε σ → Shell ω ε σ → _)
      (Overflown limit) :=
  companions_agreeButOut abreast_print
    (fun h => ⟨h.free.flush_fault?.symm, h.untried, h.room, h.fits, h.free.flush_sink⟩)
    Overflown.left Overflown.right

/-- What comes of a shell `s` whose output takes `limit` bytes in all, watched as `w`, and of a shell
`t` whose output takes everything. -/
structure Truncated {α : Type} (limit : Nat) (w : α × Shell (Watched Limited) ε σ)
    (s : α × Shell Limited ε σ) (t : α × Shell ω ε σ) : Prop where
  bytes : s.2.outBytes = t.2.outBytes.take limit
  /-- The output has refused something just if it has missed something. -/
  refused : w.2.out.refused = true ↔ limit < t.2.outBytes.length
  /-- Until it refuses something there is no difference. -/
  before : w.2.out.refused = false → Together AgreeButOut s t

theorem truncated_of_abreast {α : Type} {limit : Nat} {w : α × Shell (Watched Limited) ε σ}
    {s : α × Shell Limited ε σ} {t : α × Shell ω ε σ} (hs : Together Watches w s)
    (ht : Abreast (TiedOutputs (Roomy limit)) (Overflown limit) w t) : Truncated limit w s t := by
  obtain ⟨answer, w', s', rfl, rfl, hwatch, -⟩ := hs
  rcases ht with ⟨_, _, t', hw, rfl, hagree, hroomy⟩ | hover
  · cases hw
    have hfits := hroomy.fits
    have hboth := hwatch.symm.trans hagree
    refine ⟨?_, ?_, fun _ => .of_rel answer hboth⟩
    · rw [List.take_of_length_le hfits]
      exact hboth.outBytes
    · simp [hroomy.untried, hfits]
  · refine ⟨?_, ?_, ?_⟩
    · rw [← hwatch.outBytes]
      exact hover.taken
    · exact iff_of_true hover.refused hover.missed
    · intro hnone
      exact absurd (hover.refused.symm.trans hnone) (by simp)

end LineShell.Shell

namespace LineShell.Session
open Shell
variable {ω ε σ : Type} [Sink ω] [Sink ε] [Host σ]

/-- An output with room for so many bytes takes just the first of those that an output without a
bound takes, whatever is asked of the shell, however far a session has come, and when it is over.
Until something is refused, all else is the same for both. -/
theorem output_truncated (s : Shell Limited ε σ) (t : Shell ω ε σ) (limit : Nat)
    (h : AgreeButOut s t) (hroom : s.out.room = some limit) (hout : Sink.Reliable t.out) :
    (∀ requests, Truncated (t.outBytes.length + limit)
        (s.watched.answers requests, s.watched.afterAll requests)
        (s.answers requests, s.afterAll requests) (t.answers requests, t.afterAll requests)) ∧
      ∀ quiet file? readings i,
        Truncated (t.outBytes.length + limit) (upTo quiet file? readings s.watched i).outcome
          (upTo quiet file? readings s i).outcome (upTo quiet file? readings t i).outcome ∧
        Truncated (t.outBytes.length + limit)
          (Stage.finished (run quiet file? readings s.watched i)).outcome
          (Stage.finished (run quiet file? readings s i)).outcome
          (Stage.finished (run quiet file? readings t i)).outcome := by
  have hwatch := s.watches_watched
  have hstart : TiedOutputs (Roomy (t.outBytes.length + limit)) s.watched t := by
    refine ⟨hwatch.1.trans h, rfl, ?_, Nat.le_add_right _ _, hout⟩
    rw [Nat.add_sub_cancel_left]
    exact hroom
  have hsame := companions_watches (ω := Limited) (ε := ε) (σ := σ)
  have hroomy := companions_roomy (ω := ω) (ε := ε) (σ := σ) (t.outBytes.length + limit)
  refine ⟨?_, ?_⟩
  · intro requests
    exact truncated_of_abreast ((hsame.afterAll hwatch requests).resolve_right id)
      (hroomy.afterAll hstart requests)
  · intro quiet file? readings i
    constructor
    · exact truncated_of_abreast
        (((hsame.upTo quiet file? readings).tied hwatch i).outcome.resolve_right id)
        ((hroomy.upTo quiet file? readings).tied hstart i).outcome
    · exact truncated_of_abreast
        (((hsame.session quiet file? readings).tied hwatch i).outcome.resolve_right id)
        ((hroomy.session quiet file? readings).tied hstart i).outcome

def narrow (room : Option Nat) : Shell Limited Limited Sandbox where
  dir := "/"
  host := {}
  out := { room }
  err := {}

/-- Room for a greeting and a part of a goodbye. -/
theorem output_truncated_narrow :
    AgreeButOut (narrow (some 8)) (narrow none) ∧
      ((narrow (some 8)).afterAll [.line "echo hi", .line "exit"]).outBytes = utf8 "hi\nGoodb" ∧
      (narrow (some 8)).answers [.line "echo hi"] = [.ok .proceed] ∧
      (run true none [{ reply := .line "exit" }] (narrow (some 8)) {}).shell.outBytes =
        utf8 "Goodbye!" := by
  have hagree : AgreeButOut (narrow (some 8)) (narrow none) := ⟨rfl, rfl, rfl, rfl⟩
  obtain ⟨hrequests, hsessions⟩ :=
    output_truncated (narrow (some 8)) (narrow none) 8 hagree rfl (Limited.reliable rfl)
  obtain ⟨answers, _, _, hs, ht, -⟩ := (hrequests [.line "echo hi"]).before (by decide +kernel)
  have hanswers : (narrow (some 8)).answers [.line "echo hi"] =
      (narrow none).answers [.line "echo hi"] :=
    (congrArg Prod.fst hs).trans (congrArg Prod.fst ht).symm
  refine ⟨hagree, ?_, hanswers.trans (by rfl), ?_⟩
  · rw [(hrequests [.line "echo hi", .line "exit"]).bytes]
    decide +kernel
  · have hbytes := (hsessions true none [{ reply := .line "exit" }] {}).2.bytes
    refine Eq.trans hbytes ?_
    decide +kernel

end LineShell.Session
