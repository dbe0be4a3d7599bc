import LineShell.Proofs.Command.Outcome
import LineShell.Proofs.History.Truncated
import LineShell.Proofs.Integer.Clamped
import LineShell.Sandbox

/-! What `history` lists.  The line that asks for it is recorded first, so it is the last that is
listed. -/
namespace LineShell

/-- How many of so many lines are left out when `history` is called with this argument. -/
def leftOut (size : Nat) : Option String → Nat
  | some count =>
    if 0 < leadingInt count ∧ leadingInt count < size then size - (leadingInt count).toNat else 0
  | none => 0

/-- The lines of a log with their numbers, without the first `k` of them. -/
def listed (log : List String) (k : Nat) : List String :=
  List.ofFn fun j : Fin (log.length - k) =>
    toString (k + j + 1) ++ " " ++ log.get ⟨k + j, by omega⟩

theorem skipped_eq_leftOut (h : History) (count : Option String) :
    h.skipped (count.map leadingInt) = leftOut h.lines.length count := by
  cases count with
  | none => rfl
  | some count => simp [History.skipped, leftOut]

theorem historyLines_eq (h : History) (args : List String) :
    Builtin.historyLines h args = listed h.lines (leftOut h.lines.length args[1]?) := by
  rw [Builtin.historyLines, History.numbered, skipped_eq_leftOut, listed]
  apply List.ext_getElem
  · simp
  · intro j hj hj'
    simp [Nat.add_comm, Nat.add_left_comm]

/-- What an argument is read as decides, and the exact value of what it says decides just so. -/
theorem leftOut_of_parsed {t : IntText} (h : t.Parsed) {size : Nat} (hsize : size ≤ maxMagnitude) :
    leftOut size (some (String.ofList t.chars)) =
      if t.sign ≠ ['-'] ∧ 0 < decimal t.digits ∧ decimal t.digits < size
        then size - decimal t.digits else 0 := by
  have hvalue := h.leadingInt_eq
  rw [IntText.value] at hvalue
  rw [leftOut, hvalue]
  by_cases hminus : t.sign = ['-']
  · rw [if_pos hminus, if_neg (by omega), if_neg (by simp [hminus])]
  · rw [if_neg hminus, Int.one_mul]
    by_cases hwithin : 0 < decimal t.digits ∧ decimal t.digits < size
    · rw [if_pos (by omega), if_pos ⟨hminus, hwithin⟩]
      omega
    · rw [if_neg (by omega), if_neg fun h => hwithin h.2]

theorem leftOut_lt {size : Nat} (h : 0 < size) (count : Option String) :
    leftOut size count < size := by
  cases count with
  | none => exact h
  | some count =>
    rw [leftOut]
    split <;> omega

theorem getLast?_listed {log : List String} {last : String} (hlast : log.getLast? = some last)
    {k : Nat} (hk : k < log.length) :
    (listed log k).getLast? = some (toString log.length ++ " " ++ last) := by
  rw [List.getLast?_eq_getElem?] at hlast
  obtain ⟨hlength, hlast⟩ := List.getElem?_eq_some_iff.mp hlast
  have hplace : k + (log.length - k - 1) = log.length - 1 := by omega
  have hnumber : log.length - 1 + 1 = log.length := by omega
  rw [List.getLast?_eq_getElem?, listed, List.length_ofFn, List.getElem?_ofFn, dif_pos (by omega)]
  simp [hplace, hnumber, hlast]

theorem History.getLast?_record {h : History} {line : String} (hline : line ≠ "")
    (hcapacity : 1 ≤ h.capacity) : (h.record line).lines.getLast? = some line := by
  obtain ⟨n, hn⟩ : ∃ n, h.capacity = n + 1 := ⟨h.capacity - 1, by omega⟩
  rw [record_eq]
  split
  · next hskip => simpa [hline] using hskip
  · rw [hn, getLast?_rtake_succ, List.getLast?_concat]

namespace Shell
variable {ω ε σ : Type} [Sink ω] {s : Shell ω ε σ}

/-- On an output that never fails lines are printed one after the other, each as a whole. -/
theorem printLines_eq (h : Sink.Reliable s.out) (lines : List String) :
    ∃ out, Sink.Reliable out ∧ s.printLines lines = (none, { s with
      out
      transcript := s.transcript ++ lines.map fun line => .out (utf8 (line ++ "\n")) }) := by
  induction lines generalizing s with
  | nil => exact ⟨s.out, h, by simp [printLines]⟩
  | cons line rest ih =>
    have hfirst := reliable_print h (line ++ "\n")
    obtain ⟨out, hout, hrest⟩ := ih hfirst
    refine ⟨out, hout, ?_⟩
    rw [printLines, print_eq h]
    rw [print_eq h] at hrest
    simpa using hrest

variable [Sink ε] [Host σ]

theorem perform_history (h : Sink.Reliable s.out) (args : List String) :
    ∃ out, Sink.Reliable out ∧ s.perform (Builtin.history.name :: args) = (.proceed, { s with
      out
      transcript := s.transcript ++
        (listed s.history.lines (leftOut s.history.lines.length args.head?)).map
          fun line => .out (utf8 (line ++ "\n")) }) := by
  obtain ⟨out, hout, hlines⟩ := printLines_eq h
    (Builtin.historyLines s.history (Builtin.history.name :: args))
  refine ⟨out, hout, perform_of_ok (Builtin.ofName?_name .history) ?_⟩
  rw [historyLines_eq, List.getElem?_cons_succ, ← List.head?_eq_getElem?] at hlines
  rw [Builtin.run, Builtin.runListing, historyLines_eq, List.getElem?_cons_succ,
    ← List.head?_eq_getElem?, hlines]

theorem perform_history_take (s : Shell ω ε σ) (args : List String) :
    s.perform (Builtin.history.name :: args) =
      s.perform (Builtin.history.name :: args.take 1) := by
  have hlines : Builtin.historyLines s.history (Builtin.history.name :: args) =
      Builtin.historyLines s.history (Builtin.history.name :: args.take 1) := by
    rw [historyLines_eq, historyLines_eq]
    cases args <;> rfl
  simp only [perform, Builtin.ofName?_name, Builtin.run, hlines]

/-- A line that calls `history` is recorded, unless it repeats the one before, and then the log is
listed with it: the latest lines, as many as the first argument says if that is some but not all of
them, and else all lines.  Other arguments make no difference. -/
theorem history_lists (s : Shell ω ε σ) (hout : Sink.Reliable s.out)
    (hcapacity : 1 ≤ s.history.capacity) {line : String} {args : List String}
    (hwords : words line = Builtin.history.name :: args) :
    let log := (s.history.record line).lines
    let k := leftOut log.length args.head?
    (log = if s.history.lines.getLast? = some line then s.history.lines
      else (s.history.lines ++ [line]).rtake s.history.capacity) ∧
      (∃ out, s.typed line = (.proceed, { s.remember line with
        out
        transcript := s.transcript ++
          (listed log k).map fun entry => .out (utf8 (entry ++ "\n")) })) ∧
      (listed log k).getLast? = some (toString log.length ++ " " ++ line) ∧
      (∀ t : IntText, t.Parsed → args.head? = some (String.ofList t.chars) →
        log.length ≤ 2 ^ 63 - 1 →
        k = if t.sign ≠ ['-'] ∧ 0 < decimal t.digits ∧ decimal t.digits < log.length
          then log.length - decimal t.digits else 0) ∧
      s.typed line = (s.remember line).perform (Builtin.history.name :: args.take 1) := by
  intro log k
  have hline : line ≠ "" := by
    rintro rfl
    cases hwords
  have hlast : log.getLast? = some line := History.getLast?_record hline hcapacity
  have hlength : 0 < log.length :=
    List.length_pos_iff.mpr fun hnil => by simp [hnil] at hlast
  have htyped : s.typed line = (s.remember line).perform (Builtin.history.name :: args) := by
    rw [typed, hwords]
    rfl
  refine ⟨?_, ?_, getLast?_listed hlast (leftOut_lt hlength _), ?_,
    htyped.trans (perform_history_take _ _)⟩
  · simp only [log, History.record_eq]
    split <;> split <;> simp_all
  · obtain ⟨out, -, hperform⟩ := perform_history (s := s.remember line) hout args
    exact ⟨out, htyped.trans hperform⟩
  · intro t ht hhead hsize
    simp only [k, hhead]
    exact leftOut_of_parsed ht hsize

def crowded : Shell Limited Limited Sandbox where
  dir := "/"
  history := { capacity := 2, lines := ["pwd", "cd"] }
  host := {}
  out := {}
  err := {}

theorem history_lists_crowded :
    Sink.Reliable crowded.out ∧ 1 ≤ crowded.history.capacity ∧
      words "history +1x 2" = ["history", "+1x", "2"] ∧
      (crowded.typed "history +1x 2").1 = .proceed ∧
      (crowded.typed "history +1x 2").2.history.lines = ["cd", "history +1x 2"] ∧
      (crowded.typed "history +1x 2").2.transcript = [.out (utf8 "2 history +1x 2\n")] := by
  have hout : Sink.Reliable crowded.out := Limited.reliable rfl
  have hwords : words "history +1x 2" = ["history", "+1x", "2"] := by decide
  obtain ⟨-, ⟨out, htyped⟩, -⟩ := history_lists crowded hout (by decide) hwords
  have hlog : (crowded.history.record "history +1x 2").lines = ["cd", "history +1x 2"] := by
    decide
  have hlisted : listed ["cd", "history +1x 2"] (leftOut 2 (some "+1x")) =
      ["2 history +1x 2"] := by
    decide
  refine ⟨hout, by decide, hwords, congrArg Prod.fst htyped, ?_, ?_⟩
  · rw [htyped]
    exact hlog
  · rw [htyped, hlog]
    simp only [List.head?_cons, List.length_cons, List.length_nil, hlisted]
    rfl

end Shell
end LineShell
