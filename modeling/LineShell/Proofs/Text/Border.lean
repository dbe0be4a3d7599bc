/-! Where the first stretch of a list ends on which a test holds. -/
namespace LineShell
variable {α : Type} {p : α → Bool} {first rest : List α}

theorem head?_dropWhile_of_neg (p : α → Bool) (xs : List α) :
    ∀ a ∈ (xs.dropWhile p).head?, p a = false := by
  intro a ha
  have hhead := List.head?_dropWhile_not p xs
  rw [Option.mem_def.mp ha] at hhead
  simpa using hhead

/-- The stretch ends where the test first fails. -/
theorem takeWhile_append_of_border (hfirst : ∀ a ∈ first, p a = true)
    (hrest : ∀ a ∈ rest.head?, p a = false) :
    (first ++ rest).takeWhile p = first ∧ (first ++ rest).dropWhile p = rest := by
  rw [List.takeWhile_append_of_pos hfirst, List.dropWhile_append_of_pos hfirst]
  cases rest with
  | nil => simp
  | cons a rest => simp [hrest a rfl]

end LineShell
