import LineShell.Proofs.Startup.Commands
import LineShell.Proofs.Text.Border
import LineShell.Proofs.Words.Growth
import LineShell.Proofs.Words.Writing
import Mathlib.Data.List.TakeWhile

/-! Coming to a line of the startup file.  A line whose words name a command is no comment, and it is
carried out by the shell that the lines before it have left running. -/
namespace LineShell

theorem exists_wordsOf_cons {gap : List Char} (hgap : AreSeparators gap) {c : Char}
    (hc : isPlain c = true) (rest : List Char) :
    ∃ word later, wordsOf (gap ++ c :: rest) = (c :: word) :: later := by
  have hbegin : Scan.step (.between []) c = { done := [], word := [c] } :=
    Scan.Settled.step_plain ⟨rfl, rfl⟩ hc
  obtain ⟨word, later, ⟨more, hmore⟩, hwords⟩ :=
    Scan.exists_words_foldl { done := [], word := [c] } rest
  have hword : word = c :: more := by simpa using hmore.symm
  refine ⟨more, later, ?_⟩
  have hgone : gap.foldl Scan.step {} = .between [] := foldl_gap hgap []
  rw [wordsOf, scan, List.foldl_append, hgone, List.foldl_cons, hbegin, hwords, hword]
  simp

theorem isPlain_of_isBlank {c : Char} (h : isBlank c = true) (hsep : isSeparator c = false) :
    isPlain c = true := by
  have hquote : isQuote c = false := by
    apply Bool.eq_false_iff.mpr
    intro hq
    have hc : c = '"' ∨ c = '\'' := by simpa only [isQuote, Bool.or_eq_true, beq_iff_eq] using hq
    rcases hc with rfl | rfl <;> cases h
  have hne : c ≠ '\\' := by
    rintro rfl
    cases h
  simp [isPlain, hsep, hquote, hne]

/-- The first word of a comment begins with the number sign, or with a blank that is no separator. -/
theorem exists_wordsOf_of_isComment {line : String} (h : isComment line = true) :
    ∃ c word later, wordsOf line.toList = (c :: word) :: later ∧ (isBlank c = true ∨ c = '#') := by
  have hmark : (line.toList.dropWhile isBlank).head? = some '#' := by simpa [isComment] using h
  have hparts := List.takeWhile_append_dropWhile (p := isSeparator) (l := line.toList)
  have hgap : AreSeparators (line.toList.takeWhile isSeparator) := fun c hc =>
    List.mem_takeWhile_imp hc
  cases hrest : line.toList.dropWhile isSeparator with
  | nil =>
    have hline : line.toList = line.toList.takeWhile isSeparator := by
      rw [hrest, List.append_nil] at hparts
      exact hparts.symm
    have hmem : '#' ∈ line.toList :=
      (List.dropWhile_sublist isBlank).mem (List.mem_of_mem_head? hmark)
    rw [hline] at hmem
    exact absurd (hgap '#' hmem) (by decide)
  | cons c rest =>
    have hsep : isSeparator c = false := by
      have hhead := head?_dropWhile_of_neg isSeparator line.toList
      rw [hrest] at hhead
      exact hhead c rfl
    have hfirst : isBlank c = true ∨ c = '#' := by
      cases hblank : isBlank c with
      | true => exact .inl rfl
      | false =>
        have hblanks : ∀ d ∈ line.toList.takeWhile isSeparator, isBlank d = true := fun d hd =>
          isBlank_of_isSeparator (hgap d hd)
        rw [← hparts, hrest, List.dropWhile_append_of_pos hblanks,
          List.dropWhile_cons_of_neg (by simp [hblank])] at hmark
        exact .inr (Option.some.inj hmark)
    have hplain : isPlain c = true := by
      rcases hfirst with hblank | rfl
      · exact isPlain_of_isBlank hblank hsep
      · decide
    obtain ⟨word, later, hwords⟩ := exists_wordsOf_cons hgap hplain rest
    rw [← hrest, hparts] at hwords
    exact ⟨c, word, later, hwords, hfirst⟩

/-- A line is a command if its first word begins with a character that is no blank and no number
sign. -/
theorem StartupFile.isCommand_of_words {line name : String} {args : List String} {c : Char}
    (h : words line = name :: args) (hname : name.toList.head? = some c) (hblank : isBlank c = false)
    (hc : c ≠ '#') : isCommand line = true := by
  have hcomment : isComment line = false := by
    apply Bool.eq_false_iff.mpr
    intro hcomment
    obtain ⟨d, word, later, hwords, hd⟩ := exists_wordsOf_of_isComment hcomment
    rw [words, hwords, List.map_cons] at h
    obtain ⟨rfl, -⟩ := List.cons.inj h
    obtain rfl : d = c := by simpa using hname
    rcases hd with hd | rfl
    · simp [hd] at hblank
    · exact hc rfl
  simp [isCommand, hcomment, h]

namespace Shell
variable {ω ε σ : Type} [Sink ω] [Sink ε] [Host σ]

theorem source_append {s t : Shell ω ε σ} {lines : List String}
    (h : s.source lines = (.proceed, t)) (hrun : t.running = true) (rest : List String) :
    s.source (lines ++ rest) = t.source rest := by
  induction lines generalizing s with
  | nil =>
    cases h
    rfl
  | cons line lines ih =>
    by_cases hline : StartupFile.isCommand line = true
    · rw [source_cons_of_isCommand hline] at h
      rw [List.cons_append, source_cons_of_isCommand hline]
      cases hperform : s.perform (words line) with
      | mk next u =>
        rw [hperform] at h
        cases next with
        | leave status => cases h
        | proceed =>
          cases hu : u.running with
          | true =>
            simp only [hu, if_true] at h ⊢
            exact ih h
          | false =>
            simp only [hu, Bool.false_eq_true, if_false] at h
            cases h
            rw [hu] at hrun
            cases hrun
    · rw [source_cons_of_not_isCommand hline] at h
      rw [List.cons_append, source_cons_of_not_isCommand hline, ih h]

end Shell
end LineShell
