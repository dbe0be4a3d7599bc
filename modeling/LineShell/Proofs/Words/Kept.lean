import LineShell.Proofs.Words.Blank

/-! What a scan keeps of a text.  Outside quotes a text comes out as a word of its own just when a word
begins where it stands and no character of it is anything but itself. -/
namespace LineShell

/-- Outside quotes such a character stands for itself. -/
def isPlain (c : Char) : Bool := !(isSeparator c || isQuote c || c == '\\')

theorem eq_of_cons_eq_concat {α : Type} {a b : α} {rest : List α} (h : a :: rest = rest ++ [b]) :
    a = b := by
  induction rest generalizing a with
  | nil => exact List.head_eq_of_cons_eq h
  | cons c rest ih =>
    obtain ⟨rfl, hrest⟩ := List.cons.inj h
    exact ih hrest

namespace Scan
variable {s : Scan} {c : Char}

/-- Nothing is open: neither quotes nor an escape. -/
structure Settled (s : Scan) : Prop where
  quoted : s.quoted = false
  escaped : s.escaped = false

/-- Of a text the characters that come into words. -/
def kept (s : Scan) : List Char → List Char
  | [] => []
  | c :: rest => (if s.keeps c && !s.cuts c then [c] else []) ++ (s.step c).kept rest

theorem kept_sublist (s : Scan) (text : List Char) : (s.kept text).Sublist text := by
  induction text generalizing s with
  | nil => exact .slnil
  | cons c rest ih =>
    rw [kept]
    split
    · exact (ih (s.step c)).cons_cons c
    · exact (ih (s.step c)).cons c

theorem flatten_words (s : Scan) : s.words.flatten = s.done.reverse.flatten ++ s.word.reverse := by
  rw [words_eq, List.flatten_append]
  cases s.word <;> simp

theorem flatten_words_step (s : Scan) (c : Char) : (s.step c).words.flatten =
    s.words.flatten ++ if s.keeps c && !s.cuts c then [c] else [] := by
  cases hcut : s.cuts c with
  | true =>
    rw [step_cut hcut, words_cut]
    simp
  | false =>
    rw [flatten_words, flatten_words, done_step hcut, word_step hcut]
    cases s.keeps c <;> simp

/-- The words hold what was kept, in the order of the text. -/
theorem flatten_words_foldl (s : Scan) (text : List Char) :
    (text.foldl step s).words.flatten = s.words.flatten ++ s.kept text := by
  induction text generalizing s with
  | nil => simp [kept]
  | cons c rest ih => rw [List.foldl_cons, ih, flatten_words_step, kept, List.append_assoc]

namespace Settled

theorem keeps_and_not_cuts (h : s.Settled) (c : Char) :
    (s.keeps c && !s.cuts c) = isPlain c := by
  rw [keeps, cuts, h.escaped, h.quoted, isPlain]
  cases isSeparator c <;> cases isQuote c <;> cases c == '\\' <;> rfl

theorem step_plain (h : s.Settled) (hc : isPlain c = true) :
    s.step c = { s with word := c :: s.word } := by
  have hplain : (isSeparator c = false ∧ isQuote c = false) ∧ c ≠ '\\' := by
    simpa [isPlain] using hc
  obtain ⟨⟨hsep, hquote⟩, hne⟩ := hplain
  exact Scan.step_plain h.escaped hne hquote (by simp [cuts, hsep])

theorem step_separator (h : s.Settled) (hc : isSeparator c = true) : s.step c = s.cut :=
  step_cut (by simp [cuts, hc, h.escaped, h.quoted])

theorem push (h : s.Settled) (word : List Char) : Settled { s with word } :=
  ⟨h.quoted, h.escaped⟩

theorem cut (h : s.Settled) : s.cut.Settled :=
  ⟨s.cut_quoted.trans h.quoted, s.cut_escaped.trans h.escaped⟩

theorem foldl_plain (h : s.Settled) {word : List Char} (hword : ∀ c ∈ word, isPlain c = true) :
    word.foldl step s = { s with word := word.reverse ++ s.word } := by
  induction word generalizing s with
  | nil => rfl
  | cons c rest ih =>
    rw [List.foldl_cons, h.step_plain (hword c (by simp)), ih (h.push _) fun d hd =>
      hword d (by simp [hd])]
    simp

/-- A text that is kept whole, but for a space at its end, has nothing in it that could be lost. -/
theorem isPlain_of_kept (h : s.Settled) {word tail : List Char} (htail : tail = [] ∨ tail = [' '])
    (hkept : s.kept (word ++ tail) = word) : ∀ c ∈ word, isPlain c = true := by
  induction word generalizing s with
  | nil => simp
  | cons c rest ih =>
    rw [List.cons_append, kept, h.keeps_and_not_cuts] at hkept
    cases hc : isPlain c with
    | true =>
      rw [hc, h.step_plain hc] at hkept
      have hrest := ih (h.push _) (List.cons.inj hkept).2
      rintro d (_ | ⟨_, hd⟩)
      · exact hc
      · exact hrest d hd
    | false =>
      have hkept' : (s.step c).kept (rest ++ tail) = c :: rest := by simpa [hc] using hkept
      have hlost := (s.step c).kept_sublist (rest ++ tail)
      rw [hkept'] at hlost
      rcases htail with rfl | rfl
      · exact absurd hlost.length_le (by simp)
      · have hshift : c :: rest = rest ++ [' '] := hlost.eq_of_length (by simp)
        obtain rfl : c = ' ' := eq_of_cons_eq_concat hshift
        have hspace : isPlain ' ' = false := by decide
        rw [← hshift, h.step_separator (by decide), kept, h.cut.keeps_and_not_cuts, hspace] at hkept'
        have hshort := (s.cut.step ' ').kept_sublist rest
        rw [show (s.cut.step ' ').kept rest = ' ' :: rest from hkept'] at hshort
        exact absurd hshort.length_le (by simp)

theorem words_foldl_plain (h : s.Settled) {word tail : List Char}
    (htail : tail = [] ∨ tail = [' ']) (hword : ∀ c ∈ word, isPlain c = true) :
    ((word ++ tail).foldl step s).words =
      s.done.reverse ++ [s.word.reverse ++ word].filter fun w => !w.isEmpty := by
  have hfold : ((word ++ tail).foldl step s).words =
      words { s with word := word.reverse ++ s.word } := by
    rw [List.foldl_append, h.foldl_plain hword]
    rcases htail with rfl | rfl
    · rfl
    · rw [List.foldl_cons, (h.push _).step_separator (by decide)]
      exact words_cut _
  rw [hfold, words_eq, List.reverse_append, List.reverse_reverse]

/-- A text and what is put after it come out as one more word, the text itself, just when the text
begins a word and is plain. -/
theorem words_foldl_eq_concat_iff (h : s.Settled) {word tail : List Char}
    (htail : tail = [] ∨ tail = [' ']) :
    ((word ++ tail).foldl step s).words = s.words ++ [word] ↔
      s.word = [] ∧ word ≠ [] ∧ ∀ c ∈ word, isPlain c = true := by
  constructor
  · intro hwords
    have hkept : s.kept (word ++ tail) = word := by
      have hflat := congrArg List.flatten hwords
      rw [flatten_words_foldl, List.flatten_append, List.flatten_singleton] at hflat
      exact List.append_cancel_left hflat
    have hplain := h.isPlain_of_kept htail hkept
    rw [h.words_foldl_plain htail hplain, words_eq, List.append_assoc] at hwords
    have hlast := List.append_cancel_left hwords
    cases hs : s.word <;> cases word <;> simp_all
  · rintro ⟨hbegins, hne, hplain⟩
    rw [h.words_foldl_plain htail hplain, words_eq, hbegins]
    simp [hne]

end Settled

end Scan
end LineShell
