import LineShell.Proofs.Words.Scan

/-! What a scan has finished does not matter to what follows.  A separator that counts closes all
that stands before it, and the rest of the line is read as a line of its own. -/
namespace LineShell

namespace Scan

def past (before : List (List Char)) (s : Scan) : Scan := { s with done := s.done ++ before }

variable (before : List (List Char)) (s : Scan)

theorem cut_past : (s.past before).cut = s.cut.past before := by
  unfold cut
  by_cases h : s.word = [] <;> simp [past, h]

theorem step_past (c : Char) : (s.past before).step c = (s.step c).past before := by
  cases kind s c with
  | escaped h => rw [step_escaped h, step_escaped (s := s.past before) h]; rfl
  | backslash h hc => subst c; rw [step_backslash h, step_backslash (s := s.past before) h]; rfl
  | quote h hq => rw [step_quote h hq, step_quote (s := s.past before) h hq]; rfl
  | cut h => rw [step_cut h, step_cut (s := s.past before) h, cut_past]
  | plain h hc hq hcut =>
    rw [step_plain h hc hq hcut, step_plain (s := s.past before) h hc hq hcut]
    rfl

theorem foldl_past (text : List Char) :
    text.foldl step (s.past before) = (text.foldl step s).past before := by
  induction text generalizing s with
  | nil => rfl
  | cons c rest ih => rw [List.foldl_cons, List.foldl_cons, step_past, ih]

theorem words_past : (s.past before).words = before.reverse ++ s.words := by
  rw [words, cut_past, words]
  exact List.reverse_append

variable {s} in
/-- After a separator that counts, the scan stands where it stood at first. -/
theorem cut_eq_past {c : Char} (h : s.cuts c = true) : s.cut = past s.cut.done {} := by
  have hquoted : s.cut.quoted = false := by simp_all [cuts]
  have hescaped : s.cut.escaped = false := by simp [escaped_of_cuts h]
  have hword := s.cut_word
  cases hcut : s.cut
  simp_all [past]

end Scan

/-- A separator that counts parts a line into two, and neither part minds the other. -/
theorem wordsOf_append_cons {a b : List Char} {c : Char} (h : (scan a).cuts c = true) :
    wordsOf (a ++ c :: b) = wordsOf a ++ wordsOf b := by
  rw [wordsOf, scan_append, List.foldl_cons, Scan.step_cut h, Scan.cut_eq_past h, Scan.foldl_past,
    Scan.words_past]
  rfl

end LineShell
