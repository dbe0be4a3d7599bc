import LineShell.Words
import Mathlib.Data.List.Induction

/-! One step of the scan of a line, flag by flag and word by word.  Every statement about words
rests on these equations, and none of them unfolds the scan again. -/
namespace LineShell

@[simp] theorem isQuote_backslash : isQuote '\\' = false := by decide

@[simp] theorem isSeparator_backslash : isSeparator '\\' = false := by decide

theorem not_isQuote_of_isSeparator {c : Char} (h : isSeparator c = true) : isQuote c = false := by
  apply Bool.eq_false_iff.mpr
  intro hq
  have hc : c = '"' ∨ c = '\'' := by simpa only [isQuote, Bool.or_eq_true, beq_iff_eq] using hq
  rcases hc with rfl | rfl <;> simp [isSeparator] at h

theorem ne_backslash_of_isSeparator {c : Char} (h : isSeparator c = true) : c ≠ '\\' := by
  rintro rfl
  simp at h

theorem ne_backslash_of_isQuote {c : Char} (h : isQuote c = true) : c ≠ '\\' := by
  rintro rfl
  simp at h

theorem scan_concat (text : List Char) (c : Char) : scan (text ++ [c]) = (scan text).step c := by
  rw [scan_append]
  rfl

namespace Scan

@[simp] theorem cut_escaped (s : Scan) : s.cut.escaped = s.escaped := by
  unfold cut; split <;> rfl

@[simp] theorem cut_quoted (s : Scan) : s.cut.quoted = s.quoted := by
  unfold cut; split <;> rfl

@[simp] theorem cut_word (s : Scan) : s.cut.word = [] := by
  unfold cut
  split
  · next h => simpa using h
  · rfl

/-- The finished words, in the order of the line. -/
theorem cut_done_reverse (s : Scan) :
    s.cut.done.reverse = s.done.reverse ++ [s.word.reverse].filter fun w => !w.isEmpty := by
  unfold cut
  by_cases h : s.word = [] <;> simp [h]

theorem words_eq (s : Scan) :
    s.words = s.done.reverse ++ [s.word.reverse].filter fun w => !w.isEmpty :=
  cut_done_reverse s

/-- Whether a character is kept, when it is no separator that counts. -/
def keeps (s : Scan) (c : Char) : Bool := s.escaped || !(isQuote c || c == '\\')

/-- Whether a character ends the word at hand. -/
def cuts (s : Scan) (c : Char) : Bool := isSeparator c && !s.escaped && !s.quoted

/-! What a character does, by the five things that it can be. -/

theorem step_escaped {s : Scan} (h : s.escaped = true) (c : Char) :
    s.step c = { s with word := c :: s.word, escaped := false } := by
  simp [step, h]

theorem step_backslash {s : Scan} (h : s.escaped = false) :
    s.step '\\' = { s with escaped := true } := by
  simp [step, h]

theorem step_quote {s : Scan} {c : Char} (h : s.escaped = false) (hq : isQuote c = true) :
    s.step c = { s with quoted := !s.quoted } := by
  simp [step, h, hq, ne_backslash_of_isQuote hq]

theorem step_cut {s : Scan} {c : Char} (h : s.cuts c = true) : s.step c = s.cut := by
  have hc : (isSeparator c = true ∧ s.escaped = false) ∧ s.quoted = false := by
    simpa [cuts] using h
  obtain ⟨⟨hsep, hesc⟩, hquo⟩ := hc
  simp [step, hesc, hquo, hsep, ne_backslash_of_isSeparator hsep, not_isQuote_of_isSeparator hsep]

theorem step_plain {s : Scan} {c : Char} (h : s.escaped = false) (hc : c ≠ '\\')
    (hq : isQuote c = false) (hcut : s.cuts c = false) :
    s.step c = { s with word := c :: s.word } := by
  have hs : (isSeparator c && !s.quoted) = false := by simpa [cuts, h] using hcut
  simp [step, h, hc, hq, hs]

/-- The kinds are exclusive and leave nothing out. -/
inductive Kind (s : Scan) (c : Char) : Prop
  | escaped (h : s.escaped = true)
  | backslash (h : s.escaped = false) (hc : c = '\\')
  | quote (h : s.escaped = false) (hq : isQuote c = true)
  | cut (h : s.cuts c = true)
  | plain (h : s.escaped = false) (hc : c ≠ '\\') (hq : isQuote c = false)
      (hcut : s.cuts c = false)

theorem kind (s : Scan) (c : Char) : Kind s c := by
  cases h : s.escaped
  · by_cases hc : c = '\\'
    · exact .backslash h hc
    · cases hq : isQuote c
      · cases hcut : s.cuts c
        · exact .plain h hc hq hcut
        · exact .cut hcut
      · exact .quote h hq
  · exact .escaped h

theorem escaped_of_cuts {s : Scan} {c : Char} (h : s.cuts c = true) : s.escaped = false := by
  simp_all [cuts]

theorem isSeparator_of_cuts {s : Scan} {c : Char} (h : s.cuts c = true) :
    isSeparator c = true := by
  simp_all [cuts]

theorem escaped_step (s : Scan) (c : Char) :
    (s.step c).escaped = (c == '\\' && !s.escaped) := by
  cases kind s c with
  | escaped h => simp [step_escaped h, h]
  | backslash h hc => subst c; simp [step_backslash h, h]
  | quote h hq => simp [step_quote h hq, h, ne_backslash_of_isQuote hq]
  | cut h =>
    have hc := ne_backslash_of_isSeparator (isSeparator_of_cuts h)
    simp [step_cut h, escaped_of_cuts h, hc]
  | plain h hc hq hcut => simp [step_plain h hc hq hcut, h, hc]

theorem quoted_step (s : Scan) (c : Char) :
    (s.step c).quoted = (s.quoted ^^ (isQuote c && !s.escaped)) := by
  cases kind s c with
  | escaped h => simp [step_escaped h, h]
  | backslash h hc => subst c; simp [step_backslash h]
  | quote h hq => simp [step_quote h hq, h, hq]
  | cut h => simp [step_cut h, not_isQuote_of_isSeparator (isSeparator_of_cuts h)]
  | plain h hc hq hcut => simp [step_plain h hc hq hcut, hq]

theorem done_step {s : Scan} {c : Char} (h : s.cuts c = false) : (s.step c).done = s.done := by
  cases kind s c with
  | escaped hesc => simp [step_escaped hesc]
  | backslash hesc hc => subst c; simp [step_backslash hesc]
  | quote hesc hq => simp [step_quote hesc hq]
  | cut hcut => simp [h] at hcut
  | plain hesc hc hq hcut => simp [step_plain hesc hc hq hcut]

theorem word_step {s : Scan} {c : Char} (h : s.cuts c = false) :
    (s.step c).word = if s.keeps c then c :: s.word else s.word := by
  cases kind s c with
  | escaped hesc => simp [step_escaped hesc, keeps, hesc]
  | backslash hesc hc => subst c; simp [step_backslash hesc, keeps, hesc]
  | quote hesc hq => simp [step_quote hesc hq, keeps, hesc, hq]
  | cut hcut => simp [h] at hcut
  | plain hesc hc hq hcut => simp [step_plain hesc hc hq hcut, keeps, hesc, hc, hq]

end Scan

/-- No finished word is empty. -/
theorem scan_done_ne_nil (text : List Char) : ∀ word ∈ (scan text).done, word ≠ [] := by
  induction text using List.reverseRecOn with
  | nil => simp
  | append_singleton text c ih =>
    rw [scan_concat]
    cases hcut : (scan text).cuts c
    · rw [Scan.done_step hcut]
      exact ih
    · rw [Scan.step_cut hcut, Scan.cut]
      split
      · exact ih
      · next hword =>
        intro word hmem
        rcases List.mem_cons.mp hmem with rfl | hmem
        · simpa using hword
        · exact ih word hmem

theorem ne_nil_of_mem_wordsOf {text word : List Char} (h : word ∈ wordsOf text) : word ≠ [] := by
  rw [wordsOf, Scan.words_eq, List.mem_append] at h
  rcases h with h | h
  · exact scan_done_ne_nil text word (List.mem_reverse.mp h)
  · simpa using (List.mem_filter.mp h).2

end LineShell
