import LineShell.Proofs.Words.Kept
import LineShell.Proofs.Words.Resumption

/-! Lines that go on.  Whatever is read after a line, its words are still there: all but the last as they
were, and the last as it was or with more at its end. -/
namespace LineShell

namespace Scan

theorem exists_words_foldl (s : Scan) (text : List Char) :
    ∃ word later, s.word.reverse <+: word ∧ (text.foldl step s).words =
      s.done.reverse ++ (([word].filter fun w => !w.isEmpty) ++ later) := by
  induction text generalizing s with
  | nil => exact ⟨s.word.reverse, [], List.prefix_rfl, by simp [words_eq]⟩
  | cons c rest ih =>
    obtain ⟨word, later, hword, hwords⟩ := ih (s.step c)
    rw [List.foldl_cons]
    cases hcut : s.cuts c with
    | true =>
      rw [step_cut hcut, cut_done_reverse, List.append_assoc] at hwords
      exact ⟨s.word.reverse, _, List.prefix_rfl, by rw [step_cut hcut, hwords]⟩
    | false =>
      rw [done_step hcut] at hwords
      refine ⟨word, later, List.IsPrefix.trans ?_ hword, hwords⟩
      rw [word_step hcut]
      split <;> simp

end Scan

def Extends (ws more : List String) : Prop :=
  ∀ (i : Nat) (h : i < ws.length), ∃ word, more[i]? = some word ∧
    ws[i].toList <+: word.toList ∧ (i + 1 < ws.length → word = ws[i])

theorem extends_of_prefix (before : List (List Char)) {last word : List Char}
    (h : last <+: word) (later : List (List Char)) :
    Extends ((before ++ [last].filter fun w => !w.isEmpty).map String.ofList)
      ((before ++ (([word].filter fun w => !w.isEmpty) ++ later)).map String.ofList) := by
  intro i hi
  by_cases hbefore : i < before.length
  · refine ⟨String.ofList before[i], ?_, ?_⟩
    · rw [List.getElem?_map, List.getElem?_append_left hbefore, List.getElem?_eq_getElem hbefore]
      rfl
    · rw [List.getElem_map, List.getElem_append_left hbefore]
      exact ⟨List.prefix_rfl, fun _ => rfl⟩
  · have hlast : last ≠ [] := by
      rintro rfl
      simp at hi
      omega
    have hword : word ≠ [] := by
      rintro rfl
      exact hlast (List.prefix_nil.mp h)
    have heq : i = before.length := by
      simp [hlast] at hi
      omega
    subst heq
    exact ⟨String.ofList word, by simp [hlast, hword, h]⟩

/-- A separator outside quotes and not escaped parts a line into two lines.  Whatever a line goes on with,
its words stay, and only the last may go on too. -/
theorem words_append (a b : String) :
    ((scan a.toList).Settled → ∀ c : Char, isSeparator c = true →
      words (a ++ String.singleton c ++ b) = words a ++ words b) ∧
    Extends (words a) (words (a ++ b)) := by
  constructor
  · intro hsettled c hc
    have hcuts : (scan a.toList).cuts c = true := by
      simp [Scan.cuts, hc, hsettled.escaped, hsettled.quoted]
    have hline : (a ++ String.singleton c ++ b).toList = a.toList ++ c :: b.toList := by
      simp
    rw [words, hline, wordsOf_append_cons hcuts, List.map_append]
    rfl
  · obtain ⟨word, later, hword, hwords⟩ := (scan a.toList).exists_words_foldl b.toList
    rw [words, words, String.toList_append, wordsOf, wordsOf, scan_append, hwords, Scan.words_eq]
    exact extends_of_prefix _ hword later

/-- The line has quotes of both kinds that are closed, and ends within a word. -/
theorem words_append_closed :
    (scan "cd 'a \"b".toList).Settled ∧ isSeparator '\t' = true ∧
      words "cd 'a \"b\t\"c" = ["cd", "a b", "c"] := by
  have hsettled : (scan "cd 'a \"b".toList).Settled := ⟨by decide, by decide⟩
  have htab : isSeparator '\t' = true := by decide
  have hparted := (words_append "cd 'a \"b" "\"c").1 hsettled '\t' htab
  refine ⟨hsettled, htab, hparted.trans ?_⟩
  decide

example : words "cd 'a" = ["cd", "a"] ∧ words ("cd 'a" ++ " b") = ["cd", "a b"] := by decide

end LineShell
