import LineShell.Proofs.Command.Failure
import LineShell.Proofs.Command.Output
import LineShell.Proofs.Command.Reliable

/-! Lines that are shown to the user one after another.  They go to the error stream and touch nothing
else. -/
namespace LineShell.Shell
variable {ω ε σ : Type} [Sink ε]

/-- What one line leaves as it is, any number of lines leave as it is. -/
theorem foldl_complain_eq {α : Type} {f : Shell ω ε σ → α}
    (h : ∀ s line, f (complain s line) = f s) (s : Shell ω ε σ) (lines : List String) :
    f (lines.foldl complain s) = f s := by
  induction lines generalizing s with
  | nil => rfl
  | cons line rest ih => exact (ih (s.complain line)).trans (h s line)

theorem toState_foldl_complain (s : Shell ω ε σ) (lines : List String) :
    (lines.foldl complain s).toState = s.toState :=
  foldl_complain_eq toState_complain s lines

theorem out_foldl_complain (s : Shell ω ε σ) (lines : List String) :
    (lines.foldl complain s).out = s.out :=
  foldl_complain_eq (fun _ _ => rfl) s lines

theorem outBytes_foldl_complain (s : Shell ω ε σ) (lines : List String) :
    (lines.foldl complain s).outBytes = s.outBytes :=
  foldl_complain_eq outBytes_complain s lines

/-- A stream that never fails takes every line with its newline. -/
theorem errBytes_foldl_complain {s : Shell ω ε σ} (h : Sink.Reliable s.err) (lines : List String) :
    (lines.foldl complain s).errBytes =
      s.errBytes ++ lines.flatMap fun line => utf8 (line ++ "\n") := by
  induction lines generalizing s with
  | nil => simp
  | cons line rest ih =>
    have hnext : Sink.Reliable (s.complain line).err := h.offer_sink _
    rw [List.foldl_cons, ih hnext, errBytes_complain, h.offer_taken, List.flatMap_cons,
      List.append_assoc]

theorem errBytes_complain_of_takes {s : Shell ω ε σ} {line : String}
    (h : (Sink.offer s.err (utf8 (line ++ "\n"))).fault? = none) :
    (s.complain line).errBytes = s.errBytes ++ utf8 (line ++ "\n") := by
  rw [errBytes_complain, Offer.taken_of_fault? h]

end LineShell.Shell
