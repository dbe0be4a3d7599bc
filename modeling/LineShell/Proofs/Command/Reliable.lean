import LineShell.Proofs.Command.Changes

/-! Streams that never refuse anything, beside those that have room for so much.  An output that
never fails is spoilt by no command, and all that is printed to it arrives whole. -/
namespace LineShell

/-- The stream takes whatever it is offered, now and whatever it has been offered before. -/
def Sink.Reliable {γ : Type} [Sink γ] (sink : γ) : Prop :=
  ∃ P : γ → Prop, P sink ∧ ∀ s, P s →
    (∀ bytes, (offer s bytes).fault? = none ∧ P (offer s bytes).sink) ∧
    (flush s).2 = none ∧ P (flush s).1

namespace Sink.Reliable
variable {γ : Type} [Sink γ] {sink : γ}

theorem offer_fault? (h : Reliable sink) (bytes : List UInt8) :
    (offer sink bytes).fault? = none := by
  obtain ⟨P, hsink, hP⟩ := h
  exact ((hP sink hsink).1 bytes).1

theorem offer_sink (h : Reliable sink) (bytes : List UInt8) :
    Reliable (offer sink bytes).sink := by
  obtain ⟨P, hsink, hP⟩ := h
  exact ⟨P, ((hP sink hsink).1 bytes).2, hP⟩

theorem offer_taken (h : Reliable sink) (bytes : List UInt8) :
    (offer sink bytes).taken bytes = bytes :=
  Offer.taken_of_fault? (h.offer_fault? bytes)

theorem flush_fault? (h : Reliable sink) : (flush sink).2 = none := by
  obtain ⟨P, hsink, hP⟩ := h
  exact (hP sink hsink).2.1

theorem flush_sink (h : Reliable sink) : Reliable (flush sink).1 := by
  obtain ⟨P, hsink, hP⟩ := h
  exact ⟨P, (hP sink hsink).2.2, hP⟩

end Sink.Reliable

theorem Limited.reliable {sink : Limited} (h : sink.room = none) : Sink.Reliable sink := by
  refine ⟨fun s => s.room = none, h, ?_⟩
  intro s hs
  refine ⟨?_, rfl, hs⟩
  intro bytes
  have hoffer : Sink.offer s bytes = .kept s := by simp [Sink.offer, Limited.offer, hs]
  rw [hoffer]
  exact ⟨rfl, hs⟩

/-- A stream with room for so much takes what fits and refuses the rest. -/
theorem Limited.offer_of_room {sink : Limited} {n : Nat} (h : sink.room = some n)
    (bytes : List UInt8) :
    (Sink.offer sink bytes).taken bytes = bytes.take n ∧
      (Sink.offer sink bytes).sink.room = some (n - bytes.length) ∧
      ((Sink.offer sink bytes).fault? = none ↔ bytes.length ≤ n) := by
  by_cases hfits : bytes.length ≤ n
  · have hoffer : Sink.offer sink bytes =
        .kept { sink with room := some (n - bytes.length) } := by
      simp [Sink.offer, Limited.offer, h, hfits]
    rw [hoffer]
    exact ⟨(List.take_of_length_le hfits).symm, rfl, by simp [Offer.fault?, hfits]⟩
  · have hoffer : Sink.offer sink bytes =
        .cut n sink.fault { sink with room := some 0 } := by
      simp [Sink.offer, Limited.offer, h, hfits]
    have hnone : n - bytes.length = 0 := by omega
    rw [hoffer]
    exact ⟨rfl, by rw [hnone]; rfl, by simp [Offer.fault?, hfits]⟩

namespace Shell
variable {ω ε σ : Type} [Sink ω] {s t : Shell ω ε σ}

theorem print_eq (h : Sink.Reliable s.out) (text : String) :
    s.print text = (none, { s with
      out := (Sink.offer s.out (utf8 text)).sink
      transcript := s.transcript ++ [.out (utf8 text)] }) := by
  rw [print]
  simp only [h.offer_fault?, h.offer_taken]
  rfl

theorem flush_eq (h : Sink.Reliable s.out) :
    s.flush = (none, { s with out := (Sink.flush s.out).1 }) := by
  simp only [flush, ← h.flush_fault?]

theorem reliable_print (h : Sink.Reliable s.out) (text : String) :
    Sink.Reliable (s.print text).2.out :=
  h.offer_sink (utf8 text)

theorem reliable_flush (h : Sink.Reliable s.out) : Sink.Reliable s.flush.2.out :=
  h.flush_sink

variable [Sink ε]

theorem Change.reliable (h : Change s t) (hs : Sink.Reliable s.out) : Sink.Reliable t.out := by
  cases h with
  | print text => exact reliable_print hs text
  | complain | stop | move | bind | launch => exact hs

/-- No command spoils a stream that never fails. -/
theorem Changes.reliable (h : Changes s t) (hs : Sink.Reliable s.out) : Sink.Reliable t.out :=
  h.keeps Change.reliable hs

end Shell
end LineShell
