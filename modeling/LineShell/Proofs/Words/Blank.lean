import LineShell.Proofs.Words.Positional

/-! Lines without words.  A line has none when each of its characters cuts it or is dropped; a line
of quotes and separators has none when no separator is quoted. -/
namespace LineShell

namespace Scan

theorem words_eq_nil_iff (s : Scan) : s.words = [] ↔ s.done = [] ∧ s.word = [] := by
  rw [words_eq, List.append_eq_nil_iff, List.reverse_eq_nil_iff]
  cases s.word <;> simp

theorem words_cut (s : Scan) : s.cut.words = s.words := by
  have hcut : s.cut.cut = s.cut := by
    rw [cut, cut_word]
    rfl
  rw [words, hcut, words]

end Scan

namespace Positional

/-- The last character adds a word unless it cuts the line or is dropped. -/
theorem scan_words_eq_nil_iff (text : List Char) :
    (scan text).words = [] ↔
      ∀ i < text.length, isCut text i = true ∨ isDropped text i = true := by
  induction text using List.reverseRecOn with
  | nil => simp [Scan.words_eq_nil_iff]
  | append_singleton text c ih =>
    have hbefore : (∀ i < text.length,
          isCut (text ++ [c]) i = true ∨ isDropped (text ++ [c]) i = true) ↔
        (scan text).words = [] := by
      rw [ih]
      refine forall₂_congr fun i hi => ?_
      rw [isCut_append [c] hi, isDropped_append [c] hi]
    have hdropped : isDropped (text ++ [c]) text.length = !(scan text).keeps c := by
      rw [scan_keeps, Bool.not_not]
    rw [List.length_append, List.length_singleton, Nat.forall_lt_succ_right, hbefore, scan_concat,
      ← scan_cuts, hdropped]
    cases hcut : (scan text).cuts c with
    | true => simp [Scan.step_cut hcut, Scan.words_cut]
    | false =>
      rw [Scan.words_eq_nil_iff, Scan.words_eq_nil_iff, Scan.done_step hcut, Scan.word_step hcut]
      cases (scan text).keeps c <;> simp

theorem words_eq_nil_iff (line : String) :
    words line = [] ↔ ∀ i < line.toList.length,
      isCut line.toList i = true ∨ isDropped line.toList i = true := by
  rw [words, List.map_eq_nil_iff, LineShell.wordsOf, scan_words_eq_nil_iff]

theorem isEscaped_of_no_backslash {text : List Char} (h : '\\' ∉ text) (i : Nat) :
    isEscaped text i = false := by
  have hnone : (text.take i).reverse.takeWhile (· == '\\') = [] := by
    cases hrun : (text.take i).reverse with
    | nil => rfl
    | cons c rest =>
      have hc : c ∈ text := by
        apply List.mem_of_mem_take (i := i)
        rw [← List.mem_reverse, hrun]
        exact List.mem_cons_self
      have hne : (c == '\\') = false := by
        rw [beq_eq_false_iff_ne]
        rintro rfl
        exact h hc
      simp [hne]
  simp [isEscaped, hnone]

/-- In a line of quotes and separators only a quoted separator makes a word. -/
theorem words_eq_nil_iff_of_all {line : String}
    (h : ∀ c ∈ line.toList, isQuote c = true ∨ isSeparator c = true) :
    words line = [] ↔ ∀ i < line.toList.length,
      holdsAt isSeparator line.toList i = true → isQuoted line.toList i = false := by
  have hplain : '\\' ∉ line.toList := by
    intro hmem
    simpa using h '\\' hmem
  have hone (i : Nat) (hi : i < line.toList.length) :
      (isCut line.toList i = true ∨ isDropped line.toList i = true) ↔
        (holdsAt isSeparator line.toList i = true → isQuoted line.toList i = false) := by
    have hc := h line.toList[i] (List.getElem_mem hi)
    have hesc := isEscaped_of_no_backslash hplain i
    rw [isCut, isDropped, hesc]
    simp only [holdsAt, List.getElem?_eq_getElem hi, Option.any_some]
    rcases hc with hquote | hsep
    · have hsep : isSeparator line.toList[i] = false := by
        by_contra hsep
        rw [not_isQuote_of_isSeparator (eq_true_of_ne_false hsep)] at hquote
        cases hquote
      simp [hquote, hsep]
    · simp [hsep, not_isQuote_of_isSeparator hsep, ne_backslash_of_isSeparator hsep]
  rw [words_eq_nil_iff]
  exact forall₂_congr hone

end Positional
end LineShell
