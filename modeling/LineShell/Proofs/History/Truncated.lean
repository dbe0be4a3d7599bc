import LineShell.History
import Mathlib.Data.List.DropRight
import Mathlib.Data.List.Chain

/-! The log of a shell holds the latest lines of the log without a bound.  What it drops is never
what the next line is compared with. -/
namespace LineShell.History

/-! The log without a bound, as it grows at its end. -/

theorem getLast?_cons_or (line : String) (rest : List String) (before : Option String) :
    (line :: rest).getLast?.or before = rest.getLast?.or (some line) := by
  rw [List.getLast?_cons]
  cases rest.getLast? <;> rfl

/-- Lines that are left out are there already. -/
theorem getLast?_go (before : Option String) (lines : List String) :
    (unbounded.go before lines).getLast?.or before = lines.getLast?.or before := by
  induction lines generalizing before with
  | nil => rfl
  | cons line rest ih =>
    rw [unbounded.go, getLast?_cons_or]
    split
    · next hrepeat => rw [hrepeat, ih]
    · rw [getLast?_cons_or, ih]

theorem go_concat (before : Option String) (lines : List String) (line : String) :
    unbounded.go before (lines ++ [line]) =
      if lines.getLast?.or before = some line then unbounded.go before lines
      else unbounded.go before lines ++ [line] := by
  induction lines generalizing before with
  | nil => rfl
  | cons first rest ih =>
    rw [List.cons_append, unbounded.go, unbounded.go, getLast?_cons_or, ih]
    split <;> split <;> simp

theorem unbounded_concat (typed : List String) (line : String) :
    unbounded (typed ++ [line]) =
      if line.isEmpty || (unbounded typed).getLast? == some line then unbounded typed
      else unbounded typed ++ [line] := by
  have hlast := getLast?_go none (typed.filter fun line => !line.isEmpty)
  rw [unbounded, List.filter_append]
  cases hempty : line.isEmpty with
  | true => simp [hempty, unbounded]
  | false =>
    have hkept : [line].filter (fun line => !line.isEmpty) = [line] := by simp [hempty]
    rw [Option.or_none, Option.or_none] at hlast
    rw [hkept, go_concat, Option.or_none, ← hlast, ← unbounded]
    simp

theorem isChain_go (before : Option String) (lines : List String) :
    (before.toList ++ unbounded.go before lines).IsChain (· ≠ ·) := by
  induction lines generalizing before with
  | nil => cases before <;> simp [unbounded.go]
  | cons line rest ih =>
    have hrest := ih (some line)
    rw [unbounded.go]
    split
    · next hrepeat => rwa [hrepeat]
    · next hfresh =>
      cases before with
      | none => exact hrest
      | some last =>
        have hne : last ≠ line := fun heq => hfresh (congrArg some heq)
        exact List.isChain_cons_cons.mpr ⟨hne, hrest⟩

theorem isChain_unbounded (typed : List String) : (unbounded typed).IsChain (· ≠ ·) :=
  isChain_go none _

theorem mem_of_mem_go {before : Option String} {lines : List String} {line : String}
    (h : line ∈ unbounded.go before lines) : line ∈ lines := by
  induction lines generalizing before with
  | nil => exact h
  | cons first rest ih =>
    rw [unbounded.go] at h
    split at h
    · exact List.mem_cons_of_mem _ (ih h)
    · rcases List.mem_cons.mp h with rfl | hrest
      · exact List.mem_cons_self
      · exact List.mem_cons_of_mem _ (ih hrest)

theorem empty_notMem_unbounded (typed : List String) : "" ∉ unbounded typed := by
  intro h
  have hkept := List.mem_filter.mp (mem_of_mem_go h)
  simp at hkept

/-! The bounded log. -/

theorem getLast?_rtake_succ (lines : List String) (n : Nat) :
    (lines.rtake (n + 1)).getLast? = lines.getLast? := by
  induction lines using List.reverseRecOn with
  | nil => rw [List.rtake_nil]
  | append_singleton first line _ => simp

theorem rtake_concat_rtake (lines : List String) (line : String) (n : Nat) :
    (lines.rtake n ++ [line]).rtake n = (lines ++ [line]).rtake n := by
  cases n with
  | zero => simp
  | succ n => simp [List.rtake_eq_reverse_take_reverse, List.take_take]

theorem record_eq (h : History) (line : String) :
    h.record line = if line.isEmpty || h.lines.getLast? == some line then h
      else { h with lines := (h.lines ++ [line]).rtake h.capacity } :=
  rfl

/-- Recording a line keeps the log the end of the log without a bound. -/
theorem record_truncated (capacity : Nat) (typed : List String) (line : String) :
    record { capacity, lines := (unbounded typed).rtake capacity } line =
      { capacity, lines := (unbounded (typed ++ [line])).rtake capacity } := by
  rw [record_eq, unbounded_concat]
  cases capacity with
  | zero => split <;> simp
  | succ n =>
    rw [getLast?_rtake_succ]
    split
    · rfl
    · rw [rtake_concat_rtake]

theorem foldl_record (capacity : Nat) (typed : List String) :
    typed.foldl record { capacity } =
      { capacity, lines := (unbounded typed).rtake capacity } := by
  induction typed using List.reverseRecOn with
  | nil =>
    have hnone : unbounded [] = [] := rfl
    rw [hnone, List.rtake_nil, List.foldl_nil]
  | append_singleton first line ih =>
    rw [List.foldl_append, ih]
    exact record_truncated capacity first line

theorem length_rtake_le (lines : List String) (n : Nat) : (lines.rtake n).length ≤ n := by
  rw [List.rtake, List.length_drop]
  omega

/-- At most one line is dropped when one is recorded, and that is the oldest. -/
theorem record_drops (h : History) (hlength : h.lines.length ≤ h.capacity) (line : String) :
    (h.record line).lines = h.lines ∨
      ∃ dropped ≤ 1, (h.record line).lines = (h.lines ++ [line]).drop dropped := by
  rw [record]
  split
  · exact .inl rfl
  · refine .inr ⟨_, ?_, rfl⟩
    rw [List.length_append, List.length_singleton]
    omega

/-- Whatever lines are recorded, the log holds the latest of the log without a bound, as many as it
has room for. -/
theorem recorded_truncates (capacity : Nat) (typed : List String) :
    let log := typed.foldl record { capacity }
    log.lines = (unbounded typed).rtake capacity ∧
      log.lines.length ≤ capacity ∧ log.lines.IsChain (· ≠ ·) ∧ "" ∉ log.lines ∧
      ∀ line, (log.record line).lines = log.lines ∨
        ∃ dropped ≤ 1, (log.record line).lines = (log.lines ++ [line]).drop dropped := by
  intro log
  have hlog : log = { capacity, lines := (unbounded typed).rtake capacity } :=
    foldl_record capacity typed
  have hlength := length_rtake_le (unbounded typed) capacity
  rw [hlog]
  refine ⟨rfl, hlength, ?_, ?_, record_drops _ hlength⟩
  · exact (isChain_unbounded typed).drop _
  · exact fun hmem => empty_notMem_unbounded typed (List.mem_of_mem_drop hmem)

end LineShell.History
