import LineShell.Text.Utf8

/-! Lists of names in the order of their bytes, each name once. -/
namespace LineShell

/-- Names are ordered by their UTF-8 bytes. -/
def precedes (a b : String) : Bool := decide (utf8 a < utf8 b)

def insertName (name : String) : List String → List String
  | [] => [name]
  | first :: rest =>
    if precedes name first then name :: first :: rest
    else if name = first then first :: rest
    else first :: insertName name rest

/-- The given names in order, without repetition. -/
def sortedNames (names : List String) : List String := names.foldr insertName []

theorem mem_insertName {a name : String} {names : List String} :
    a ∈ insertName name names ↔ a = name ∨ a ∈ names := by
  induction names with
  | nil => simp [insertName]
  | cons first rest ih =>
    simp only [insertName]
    split
    · simp
    · split
      · next h => simp [h]
      · simp only [List.mem_cons, ih]
        grind

@[simp] theorem mem_sortedNames {a : String} {names : List String} :
    a ∈ sortedNames names ↔ a ∈ names := by
  induction names with
  | nil => simp [sortedNames]
  | cons name rest ih =>
    simp only [sortedNames, List.foldr_cons, mem_insertName, List.mem_cons]
    rw [← ih, sortedNames]

end LineShell
