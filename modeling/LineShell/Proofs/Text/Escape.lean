import LineShell.Text.Escape

/-! Taking styling sequences out of a text.  They go one by one, and a text without the escape character
is left as it is whatever brackets and letters it holds. -/
namespace LineShell
variable {text parameters : List Char}

theorem unstyledFrom_true (h : 'm' ∉ parameters) (rest : List Char) :
    unstyledFrom true (parameters ++ 'm' :: rest) = unstyled rest := by
  induction parameters with
  | nil => rfl
  | cons c parameters ih =>
    have hc : (c != 'm') = true := bne_iff_ne.mpr (List.ne_of_not_mem_cons h).symm
    rw [List.cons_append, unstyledFrom, hc]
    exact ih (List.not_mem_of_not_mem_cons h)

theorem unstyled_styleSequence {parameters : String} (h : 'm' ∉ parameters.toList)
    (rest : List Char) : unstyled (styleSequence parameters ++ rest) = unstyled rest := by
  have hsequence : styleSequence parameters ++ rest =
      escape :: '[' :: (parameters.toList ++ 'm' :: rest) := by simp [styleSequence]
  rw [hsequence, unstyled, unstyledFrom]
  exact unstyledFrom_true h rest

theorem unstyled_styleSequences {codes : List String} (h : ∀ code ∈ codes, 'm' ∉ code.toList)
    (rest : List Char) : unstyled (codes.flatMap styleSequence ++ rest) = unstyled rest := by
  induction codes with
  | nil => rfl
  | cons code codes ih =>
    rw [List.flatMap_cons, List.append_assoc, unstyled_styleSequence (h code List.mem_cons_self)]
    exact ih fun other hother => h other (List.mem_cons_of_mem _ hother)

theorem unstyled_cons {c : Char} (h : c ≠ escape) (rest : List Char) :
    unstyled (c :: rest) = c :: unstyled rest := by
  cases rest with
  | nil => rfl
  | cons d rest => simp [unstyled, unstyledFrom, h]

theorem unstyled_append (h : escape ∉ text) (rest : List Char) :
    unstyled (text ++ rest) = text ++ unstyled rest := by
  induction text with
  | nil => rfl
  | cons c text ih =>
    rw [List.cons_append, unstyled_cons (List.ne_of_not_mem_cons h).symm,
      ih (List.not_mem_of_not_mem_cons h), List.cons_append]

end LineShell
