import LineShell.Proofs.Words.Scan
import LineShell.Words.Writing
import Mathlib.Data.Set.Operations

/-! Reading back what was written.  Strokes that are well placed bring the scan from between two
words to the end of a word, whatever quotes were opened and closed on the way. -/
namespace LineShell

/-- Between two words nothing is open and no character is at hand. -/
def Scan.between (done : List (List Char)) : Scan := { done }

def Scan.atEnd (done : List (List Char)) (word : List Char) : Scan :=
  { done, word := word.reverse }

theorem Scan.cuts_of_quoted {s : Scan} {c : Char} (h : isSeparator c = true → s.quoted = true) :
    s.cuts c = false := by
  unfold Scan.cuts
  cases hc : isSeparator c
  · simp
  · simp [h hc]

/-- The strokes of a word add what they mean, and leave no quote open. -/
theorem foldl_written {quoted : Bool} {strokes : List Stroke} (h : Stroke.Placed quoted strokes)
    (s : Scan) (hquo : s.quoted = quoted) (hesc : s.escaped = false) :
    (strokes.flatMap Stroke.written).foldl Scan.step s =
      { s with word := (strokes.flatMap Stroke.meant).reverse ++ s.word, quoted := false } := by
  induction strokes generalizing quoted s with
  | nil =>
    have hq : s.quoted = false := hquo.trans h
    cases s
    simp_all
  | cons stroke rest ih =>
    cases stroke with
    | plain c =>
      obtain ⟨hc, hquote, hsep, hrest⟩ := h
      have hcut : s.cuts c = false := Scan.cuts_of_quoted (by rwa [hquo])
      have hstep := Scan.step_plain hesc hc hquote hcut
      have htail := ih hrest { s with word := c :: s.word } hquo hesc
      simpa [Stroke.written, Stroke.meant, hstep] using htail
    | escaped c =>
      have hfirst := Scan.step_backslash hesc
      have hsecond := @Scan.step_escaped { s with escaped := true } rfl c
      have htail := ih h { s with word := c :: s.word, escaped := false } hquo rfl
      simpa [Stroke.written, Stroke.meant, hfirst, hsecond, hesc] using htail
    | mark c =>
      obtain ⟨hquote, hrest⟩ := h
      have hstep := Scan.step_quote hesc hquote
      have htail := ih hrest { s with quoted := !s.quoted } (by simp [hquo]) hesc
      simpa [Stroke.written, Stroke.meant, hstep] using htail

theorem foldl_writes {word text : List Char} (h : Writes word text) (done : List (List Char)) :
    text.foldl Scan.step (.between done) = .atEnd done word := by
  obtain ⟨strokes, hplaced, rfl, rfl⟩ := h
  rw [foldl_written hplaced (.between done) rfl rfl]
  simp [Scan.between, Scan.atEnd]

theorem step_separator {c : Char} (hc : isSeparator c = true) {word : List Char}
    (hword : word ≠ []) (done : List (List Char)) :
    (Scan.atEnd done word).step c = .between (word :: done) := by
  rw [Scan.step_cut (by simp [Scan.cuts, Scan.atEnd, hc])]
  simp [Scan.cut, Scan.atEnd, Scan.between, hword]

theorem foldl_gap {gap : List Char} (h : AreSeparators gap) (done : List (List Char)) :
    gap.foldl Scan.step (.between done) = .between done := by
  induction gap with
  | nil => rfl
  | cons c rest ih =>
    have hc : isSeparator c = true := h c (by simp)
    have hstep : (Scan.between done).step c = .between done := by
      rw [Scan.step_cut (by simp [Scan.cuts, Scan.between, hc])]
      rfl
    rw [List.foldl_cons, hstep]
    exact ih fun d hd => h d (by simp [hd])

theorem words_foldl_after {after : List Char} (h : AreSeparators after) {word : List Char}
    (hword : word ≠ []) (done : List (List Char)) :
    (after.foldl Scan.step (.atEnd done word)).words = done.reverse ++ [word] := by
  cases after with
  | nil => simp [Scan.words_eq, Scan.atEnd, hword]
  | cons c rest =>
    rw [List.foldl_cons, step_separator (h c (by simp)) hword,
      foldl_gap fun d hd => h d (by simp [hd])]
    simp [Scan.words_eq, Scan.between]

/-- From between two words on, the scan finds the words that were written. -/
theorem words_foldl_writesAll {ws : List (List Char)} {text : List Char} (h : WritesAll ws text)
    (hne : ∀ word ∈ ws, word ≠ []) (done : List (List Char)) :
    (text.foldl Scan.step (.between done)).words = done.reverse ++ ws := by
  induction h generalizing done with
  | gap hgap =>
    rw [foldl_gap hgap]
    simp [Scan.words_eq, Scan.between]
  | @last gap word text after hgap hword hafter =>
    rw [List.foldl_append, List.foldl_append, foldl_gap hgap, foldl_writes hword]
    exact words_foldl_after hafter (hne word (by simp)) done
  | @more gap word text rest c ws hgap hword hc hrest ih =>
    rw [List.foldl_append, List.foldl_append, List.foldl_cons, foldl_gap hgap,
      foldl_writes hword, step_separator hc (hne word (by simp)),
      ih (fun w hw => hne w (by simp [hw]))]
    simp

theorem writes_escaped (word : List Char) :
    Writes word ((word.map Stroke.escaped).flatMap Stroke.written) := by
  refine ⟨word.map Stroke.escaped, ?_, ?_, rfl⟩
  · induction word with
    | nil => rfl
    | cons c rest ih => exact ih
  · induction word with
    | nil => rfl
    | cons c rest ih => simpa [Stroke.meant] using ih

theorem exists_writesAll (ws : List (List Char)) : ∃ text, WritesAll ws text := by
  induction ws with
  | nil => exact ⟨[], .gap (by simp [AreSeparators])⟩
  | cons word rest ih =>
    obtain ⟨text, hrest⟩ := ih
    have hgap : AreSeparators [] := by simp [AreSeparators]
    have hspace : isSeparator ' ' = true := by decide
    exact ⟨_, .more hgap (writes_escaped word) hspace hrest⟩

theorem words_of_writesAll {ws : List String} {line : String}
    (h : WritesAll (ws.map String.toList) line.toList) (hne : ∀ word ∈ ws, word ≠ "") :
    words line = ws := by
  have hchars : ∀ word ∈ ws.map String.toList, word ≠ [] := by
    intro word hword
    obtain ⟨w, hw, rfl⟩ := List.mem_map.mp hword
    simpa using hne w hw
  have hwords : wordsOf line.toList = ws.map String.toList := words_foldl_writesAll h hchars []
  rw [words, hwords, List.map_map]
  simp [Function.comp_def]

/-- Every way of writing a list of words reads back as that list, and the lists that lines read as
are those without an empty word. -/
theorem words_writing :
    (∀ (ws : List String) (line : String), (∀ word ∈ ws, word ≠ "") →
      WritesAll (ws.map String.toList) line.toList → words line = ws) ∧
    Set.range words = {ws | ∀ word ∈ ws, word ≠ ""} := by
  constructor
  · intro ws line hne h
    exact words_of_writesAll h hne
  · ext ws
    constructor
    · rintro ⟨line, rfl⟩ word hword
      obtain ⟨chars, hchars, rfl⟩ := List.mem_map.mp hword
      simpa using ne_nil_of_mem_wordsOf hchars
    · intro hne
      obtain ⟨text, htext⟩ := exists_writesAll (ws.map String.toList)
      exact ⟨String.ofList text, words_of_writesAll (by simpa using htext) hne⟩

/-- Quotes of both kinds around a blank, an escaped quote beside an empty pair, and blanks around. -/
theorem words_writing_mixed :
    WritesAll (["a b", "\""].map String.toList) " 'a b\" \\\"''\t".toList ∧
      words " 'a b\" \\\"''\t" = ["a b", "\""] := by
  have hfirst : Writes ['a', ' ', 'b'] ['\'', 'a', ' ', 'b', '"'] := by
    refine ⟨[.mark '\'', .plain 'a', .plain ' ', .plain 'b', .mark '"'], ?_, rfl, rfl⟩
    simp [Stroke.Placed, isQuote]
  have hsecond : Writes ['"'] ['\\', '"', '\'', '\''] :=
    ⟨[.escaped '"', .mark '\'', .mark '\''], by simp [Stroke.Placed, isQuote], rfl, rfl⟩
  have hblank : AreSeparators [' '] := by simp [AreSeparators, isSeparator]
  have htab : AreSeparators ['\t'] := by simp [AreSeparators, isSeparator]
  have hnone : AreSeparators [] := by simp [AreSeparators]
  have hrest : WritesAll [['"']] (['\\', '"', '\'', '\''] ++ ['\t']) := .last hnone hsecond htab
  have hspace : isSeparator ' ' = true := by decide
  have h : WritesAll (["a b", "\""].map String.toList) " 'a b\" \\\"''\t".toList :=
    .more hblank hfirst hspace hrest
  exact ⟨h, words_writing.1 _ _ (by decide) h⟩
end LineShell
