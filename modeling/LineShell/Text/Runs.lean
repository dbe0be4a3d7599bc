/-! The maximal runs of a sequence with respect to a test. -/
namespace LineShell

/-- Adjacent elements on which the test agrees, each run with the test's answer on it. -/
def runs {α : Type} (p : α → Bool) : List α → List (Bool × List α)
  | [] => []
  | a :: rest =>
    match runs p rest with
    | (kind, run) :: more =>
      if p a = kind then (kind, a :: run) :: more else (p a, [a]) :: (kind, run) :: more
    | [] => [(p a, [a])]

def Alternating {α : Type} : List (Bool × List α) → Prop
  | r :: s :: rest => r.1 ≠ s.1 ∧ Alternating (s :: rest)
  | _ => True

/-- The stretches make up the sequence, each is uniform and not empty, and none could be longer. -/
structure AreRuns {α : Type} (p : α → Bool) (xs : List α) (rs : List (Bool × List α)) : Prop where
  flatten : rs.flatMap (·.2) = xs
  nonempty : ∀ r ∈ rs, r.2 ≠ []
  uniform : ∀ r ∈ rs, ∀ a ∈ r.2, p a = r.1
  alternating : Alternating rs

@[simp] theorem runs_nil {α : Type} (p : α → Bool) : runs p [] = [] := rfl

end LineShell
