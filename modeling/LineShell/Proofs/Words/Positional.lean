import LineShell.Proofs.Words.Scan
import LineShell.Words.Positional
import Mathlib.Data.List.Basic

/-! The scan of a line finds the words that the line has by position.  The scan's two flags are the
two parities at the end of what was read, and its word is what is kept of the last piece. -/
namespace LineShell.Positional

/-! Cutting a list that grows at its end. -/

section Cutting
variable {α : Type} {p q : α → Bool} {xs : List α} {closed : List (List α)} {opened : List α}

theorem splitOnP_congr (h : ∀ x ∈ xs, p x = q x) : xs.splitOnP p = xs.splitOnP q := by
  induction xs with
  | nil => rfl
  | cons x rest ih =>
    have hx : p x = q x := h x (by simp)
    have hrest : rest.splitOnP p = rest.splitOnP q := ih fun y hy => h y (by simp [hy])
    rw [List.splitOnP_cons_eq_if_modifyHead, List.splitOnP_cons_eq_if_modifyHead, hx, hrest]

theorem mem_of_mem_splitOnP {piece : List α} {x : α} (hpiece : piece ∈ xs.splitOnP p)
    (hx : x ∈ piece) : x ∈ xs := by
  induction xs generalizing piece with
  | nil =>
    have hnil : piece = [] := by simpa using hpiece
    simp [hnil] at hx
  | cons y rest ih =>
    obtain ⟨first, more, hsplit⟩ := List.exists_cons_of_ne_nil (List.splitOnP_ne_nil p rest)
    rw [List.splitOnP_cons_eq_if_modifyHead] at hpiece
    by_cases hy : p y = true
    · rw [if_pos hy, List.mem_cons] at hpiece
      rcases hpiece with rfl | hpiece
      · simp at hx
      · exact List.mem_cons_of_mem _ (ih hpiece hx)
    · rw [if_neg hy, hsplit, List.modifyHead_cons, List.mem_cons] at hpiece
      rcases hpiece with rfl | hpiece
      · rcases List.mem_cons.mp hx with rfl | hx
        · exact List.mem_cons_self
        · exact List.mem_cons_of_mem _ (ih (by simp [hsplit]) hx)
      · exact List.mem_cons_of_mem _ (ih (by simp [hsplit, hpiece]) hx)

theorem splitOnP_concat_of_pos {x : α} (hx : p x = true) :
    (xs ++ [x]).splitOnP p = xs.splitOnP p ++ [[]] := by
  rw [List.splitOnP_append_cons xs [] hx, List.splitOnP_nil]

theorem splitOnP_concat_of_neg {x : α} (hx : p x = false)
    (hxs : xs.splitOnP p = closed ++ [opened]) :
    (xs ++ [x]).splitOnP p = closed ++ [opened ++ [x]] := by
  induction xs generalizing closed opened with
  | nil =>
    have hnil : closed = [] ∧ opened = [] := by
      rw [List.splitOnP_nil] at hxs
      cases closed <;> simp_all
    simp [hnil, List.splitOnP_cons_eq_if_modifyHead, hx]
  | cons y rest ih =>
    rw [List.splitOnP_cons_eq_if_modifyHead] at hxs
    rw [List.cons_append, List.splitOnP_cons_eq_if_modifyHead]
    by_cases hy : p y = true
    · rw [if_pos hy] at hxs ⊢
      cases closed with
      | nil => simp at hxs
      | cons first more =>
        have hparts : [] = first ∧ rest.splitOnP p = more ++ [opened] := by simpa using hxs
        rw [ih hparts.2, ← hparts.1, List.cons_append]
    · obtain ⟨first, more, hsplit⟩ := List.exists_cons_of_ne_nil (List.splitOnP_ne_nil p rest)
      rw [if_neg hy, hsplit, List.modifyHead_cons] at hxs
      cases closed with
      | nil =>
        have hparts : y :: first = opened ∧ more = [] := by simpa using hxs
        have htail : (rest ++ [x]).splitOnP p = [first ++ [x]] :=
          @ih [] first (by simp [hsplit, hparts.2])
        simp [hy, htail, ← hparts.1]
      | cons head tail =>
        have hparts : y :: first = head ∧ more = tail ++ [opened] := by simpa using hxs
        have htail : (rest ++ [x]).splitOnP p = (first :: tail) ++ [opened ++ [x]] :=
          ih (by simp [hsplit, hparts.2])
        simp [hy, htail, ← hparts.1]

end Cutting

/-! A longer line has the same escapes, quotes and cuts where the shorter one had them. -/

section Locality
variable {text : List Char} (more : List Char) {i : Nat}

theorem isEscaped_append (h : i ≤ text.length) :
    isEscaped (text ++ more) i = isEscaped text i := by
  simp [isEscaped, List.take_append_of_le_length h]

theorem holdsAt_append (p : Char → Bool) (h : i < text.length) :
    holdsAt p (text ++ more) i = holdsAt p text i := by
  simp [holdsAt, List.getElem?_append_left h]

theorem isMark_append (h : i < text.length) : isMark (text ++ more) i = isMark text i := by
  rw [isMark, isMark, holdsAt_append more _ h, isEscaped_append more (by omega)]

theorem isQuoted_append (h : i ≤ text.length) :
    isQuoted (text ++ more) i = isQuoted text i := by
  have hcount : (List.range i).countP (isMark (text ++ more)) =
      (List.range i).countP (isMark text) := by
    apply List.countP_congr
    intro j hj
    have hji : j < i := List.mem_range.mp hj
    rw [isMark_append more (by omega)]
  rw [isQuoted, isQuoted, hcount]

theorem isCut_append (h : i < text.length) : isCut (text ++ more) i = isCut text i := by
  rw [isCut, isCut, holdsAt_append more _ h, isEscaped_append more (by omega),
    isQuoted_append more (by omega)]

theorem isDropped_append (h : i < text.length) :
    isDropped (text ++ more) i = isDropped text i := by
  rw [isDropped, isDropped, holdsAt_append more _ h, isEscaped_append more (by omega)]

theorem kept_append {piece : List Nat} (h : ∀ i ∈ piece, i < text.length) :
    kept (text ++ more) piece = kept text piece := by
  have hfilter : (piece.filter fun i => !isDropped (text ++ more) i) =
      piece.filter fun i => !isDropped text i := by
    apply List.filter_congr
    intro i hi
    rw [isDropped_append more (h i hi)]
  rw [kept, kept, hfilter]
  apply List.filterMap_congr
  intro i hi
  exact List.getElem?_append_left (h i (List.mem_filter.mp hi).1)

end Locality

/-! What the last character of a line adds. -/

section LastCharacter
variable (text : List Char) (c : Char)

theorem holdsAt_last (p : Char → Bool) : holdsAt p (text ++ [c]) text.length = p c := by
  simp [holdsAt]

theorem isEscaped_concat :
    isEscaped (text ++ [c]) (text ++ [c]).length =
      (c == '\\' && !isEscaped text text.length) := by
  simp only [isEscaped, List.take_length, List.reverse_append, List.reverse_singleton,
    List.singleton_append]
  by_cases hc : c = '\\'
  · rw [List.takeWhile_cons_of_pos (by simp [hc]), List.length_cons]
    generalize (text.reverse.takeWhile (· == '\\')).length = n
    simp only [hc, beq_self_eq_true, Bool.true_and]
    apply Bool.eq_iff_iff.mpr
    simp only [beq_iff_eq, Bool.not_eq_true', beq_eq_false_iff_ne]
    omega
  · simp [hc]

theorem isMark_last :
    isMark (text ++ [c]) text.length = (isQuote c && !isEscaped text text.length) := by
  rw [isMark, holdsAt_last, isEscaped_append [c] (Nat.le_refl _)]

theorem isQuoted_concat :
    isQuoted (text ++ [c]) (text ++ [c]).length =
      (isQuoted text text.length ^^ (isQuote c && !isEscaped text text.length)) := by
  have hbefore := isQuoted_append [c] (Nat.le_refl text.length)
  rw [← hbefore, ← isMark_last, isQuoted, isQuoted, List.length_append, List.length_singleton,
    List.range_succ, List.countP_append, List.countP_singleton]
  generalize (List.range text.length).countP (isMark (text ++ [c])) = n
  cases isMark (text ++ [c]) text.length
  · simp
  · apply Bool.eq_iff_iff.mpr
    simp only [if_true, beq_iff_eq, Bool.xor_true, Bool.not_eq_true', beq_eq_false_iff_ne]
    omega

theorem isCut_last :
    isCut (text ++ [c]) text.length =
      (isSeparator c && !isEscaped text text.length && !isQuoted text text.length) := by
  rw [isCut, holdsAt_last, isEscaped_append [c] (Nat.le_refl _), isQuoted_append [c] (Nat.le_refl _)]

theorem isDropped_last :
    isDropped (text ++ [c]) text.length =
      (!isEscaped text text.length && (isQuote c || c == '\\')) := by
  rw [isDropped, holdsAt_last, isEscaped_append [c] (Nat.le_refl _)]

theorem kept_last (piece : List Nat) (h : ∀ i ∈ piece, i < text.length) :
    kept (text ++ [c]) (piece ++ [text.length]) =
      kept text piece ++ if isDropped (text ++ [c]) text.length then [] else [c] := by
  rw [← kept_append [c] h]
  cases hdrop : isDropped (text ++ [c]) text.length <;> simp [kept, hdrop]

end LastCharacter

theorem lt_of_mem_pieces {text : List Char} {piece : List Nat} (h : piece ∈ pieces text) :
    ∀ i ∈ piece, i < text.length :=
  fun _ hi => List.mem_range.mp (mem_of_mem_splitOnP h hi)

theorem range_splitOnP (text : List Char) (c : Char) :
    (List.range text.length).splitOnP (isCut (text ++ [c])) = pieces text :=
  splitOnP_congr fun _ hi => isCut_append [c] (List.mem_range.mp hi)

theorem pieces_of_cut {text : List Char} {c : Char}
    (h : isCut (text ++ [c]) text.length = true) :
    pieces (text ++ [c]) = pieces text ++ [[]] := by
  rw [pieces, List.length_append, List.length_singleton, List.range_succ,
    splitOnP_concat_of_pos h, range_splitOnP]

theorem pieces_of_not_cut {text : List Char} {c : Char} {closed : List (List Nat)}
    {opened : List Nat} (h : isCut (text ++ [c]) text.length = false)
    (hpieces : pieces text = closed ++ [opened]) :
    pieces (text ++ [c]) = closed ++ [opened ++ [text.length]] := by
  rw [pieces, List.length_append, List.length_singleton, List.range_succ]
  exact splitOnP_concat_of_neg h ((range_splitOnP text c).trans hpieces)

/-! The scan and the positions. -/

theorem scan_escaped (text : List Char) : (scan text).escaped = isEscaped text text.length := by
  induction text using List.reverseRecOn with
  | nil => rfl
  | append_singleton text c ih => rw [scan_concat, Scan.escaped_step, isEscaped_concat, ih]

theorem scan_quoted (text : List Char) : (scan text).quoted = isQuoted text text.length := by
  induction text using List.reverseRecOn with
  | nil => rfl
  | append_singleton text c ih =>
    rw [scan_concat, Scan.quoted_step, isQuoted_concat, ih, scan_escaped]

theorem scan_cuts (text : List Char) (c : Char) :
    (scan text).cuts c = isCut (text ++ [c]) text.length := by
  rw [Scan.cuts, isCut_last, scan_escaped, scan_quoted]

theorem scan_keeps (text : List Char) (c : Char) :
    (scan text).keeps c = !isDropped (text ++ [c]) text.length := by
  rw [Scan.keeps, isDropped_last, scan_escaped]
  simp

/-- The scan's word is what is kept of the piece at the line's end, and its finished words are those
of the pieces before that. -/
structure Agrees (text : List Char) (closed : List (List Nat)) (opened : List Nat) : Prop where
  pieces_eq : pieces text = closed ++ [opened]
  word_eq : (scan text).word.reverse = kept text opened
  done_eq : (scan text).done.reverse = (closed.map (kept text)).filter fun word => !word.isEmpty

theorem Agrees.of_cut {text : List Char} {c : Char} {closed : List (List Nat)}
    {opened : List Nat} (h : Agrees text closed opened)
    (hcut : isCut (text ++ [c]) text.length = true) :
    Agrees (text ++ [c]) (closed ++ [opened]) [] := by
  have hscan : scan (text ++ [c]) = (scan text).cut := by
    rw [scan_concat, Scan.step_cut ((scan_cuts text c).trans hcut)]
  have hkept : (closed ++ [opened]).map (kept (text ++ [c])) =
      (closed ++ [opened]).map (kept text) := by
    apply List.map_congr_left
    intro piece hpiece
    exact kept_append [c] (lt_of_mem_pieces (h.pieces_eq ▸ hpiece))
  constructor
  · rw [pieces_of_cut hcut, h.pieces_eq]
  · rw [hscan, Scan.cut_word]
    rfl
  · rw [hscan, Scan.cut_done_reverse, h.done_eq, h.word_eq, hkept, List.map_append,
      List.filter_append]
    rfl

theorem Agrees.of_not_cut {text : List Char} {c : Char} {closed : List (List Nat)}
    {opened : List Nat} (h : Agrees text closed opened)
    (hcut : isCut (text ++ [c]) text.length = false) :
    Agrees (text ++ [c]) closed (opened ++ [text.length]) := by
  have hcuts : (scan text).cuts c = false := (scan_cuts text c).trans hcut
  have hclosed : closed.map (kept (text ++ [c])) = closed.map (kept text) := by
    apply List.map_congr_left
    intro piece hpiece
    exact kept_append [c] (lt_of_mem_pieces (by simp [h.pieces_eq, hpiece]))
  constructor
  · exact pieces_of_not_cut hcut h.pieces_eq
  · have hbound : ∀ i ∈ opened, i < text.length := lt_of_mem_pieces (by simp [h.pieces_eq])
    rw [scan_concat, Scan.word_step hcuts, scan_keeps, kept_last text c opened hbound, ← h.word_eq]
    cases isDropped (text ++ [c]) text.length <;> simp
  · rw [scan_concat, Scan.done_step hcuts, h.done_eq, hclosed]

theorem exists_agrees (text : List Char) : ∃ closed opened, Agrees text closed opened := by
  induction text using List.reverseRecOn with
  | nil => exact ⟨[], [], rfl, rfl, rfl⟩
  | append_singleton text c ih =>
    obtain ⟨closed, opened, h⟩ := ih
    cases hcut : isCut (text ++ [c]) text.length
    · exact ⟨closed, opened ++ [text.length], h.of_not_cut hcut⟩
    · exact ⟨closed ++ [opened], [], h.of_cut hcut⟩

theorem wordsOf_eq (text : List Char) : LineShell.wordsOf text = wordsOf text := by
  obtain ⟨closed, opened, h⟩ := exists_agrees text
  rw [LineShell.wordsOf, Scan.words_eq, h.done_eq, h.word_eq, wordsOf, h.pieces_eq,
    List.map_append, List.filter_append]
  rfl

/-- The words of a line are what is kept of its pieces, empty ones left out. -/
theorem words_eq_positional (line : String) :
    words line = (Positional.wordsOf line.toList).map String.ofList := by
  rw [words, wordsOf_eq]

end LineShell.Positional
