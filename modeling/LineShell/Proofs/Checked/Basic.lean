import LineShell.Proofs.Text.Border
import LineShell.Proofs.Text.Bytes

/-! Steps that have an answer only for some of what they are given.  A text can be cut only between
two characters, and the result of a calculation has to fit its word.  Elsewhere such a step breaks
off, and what was built on it has no answer either. -/
namespace LineShell

/-- What a step broke off at: a position that is not between two characters of a text, a result that
does not fit its word, a variable that the system cannot keep, or a program without a name. -/
inductive Breach
  | position
  | overflow
  | binding (name : String)
  | noProgram
  deriving DecidableEq, Repr

/-- The outcome of steps any of which may break off. -/
abbrev Checked (α : Type) := Except Breach α

namespace Checked

@[simp] theorem ok_bind {α β : Type} (a : α) (f : α → Checked β) :
    ((.ok a : Checked α) >>= f) = f a := rfl

@[simp] theorem error_bind {α β : Type} (b : Breach) (f : α → Checked β) :
    ((.error b : Checked α) >>= f) = .error b := rfl

@[simp] theorem return_eq_ok {α : Type} (a : α) : (pure a : Checked α) = .ok a := rfl

/-! Words of 64 bits. -/

/-- The least and the greatest number of a word with a sign, `-2 ^ 63` and `2 ^ 63 - 1`. -/
def least : Int := -9223372036854775808
def greatest : Int := 9223372036854775807

def saturated (n : Int) : Int := max least (min n greatest)

def negated (n : Int) : Checked Int :=
  if least ≤ -n ∧ -n ≤ greatest then .ok (-n) else .error .overflow

/-- The difference of two words without a sign. -/
def difference (a b : Nat) : Checked Nat :=
  if b ≤ a then .ok (a - b) else .error .overflow

theorem difference_of_le {a b : Nat} (h : b ≤ a) : difference a b = .ok (a - b) := if_pos h

theorem negated_of_le {n : Int} (hnonneg : 0 ≤ n) (h : n ≤ greatest) : negated n = .ok (-n) := by
  rw [greatest] at h
  refine if_pos ⟨?_, ?_⟩
  · rw [least]
    omega
  · rw [greatest]
    omega

/-! Positions in a text, counted in bytes. -/

/-- The two parts of a text before and after a position. -/
def cutAt (text : List Char) (position : Nat) : Checked (List Char × List Char) :=
  if position = 0 then .ok ([], text)
  else match text with
    | [] => .error .position
    | c :: rest =>
      if c.utf8Size ≤ position then do
        let (first, more) ← cutAt rest (position - c.utf8Size)
        return (c :: first, more)
      else .error .position

@[simp] theorem cutAt_zero (text : List Char) : cutAt text 0 = .ok ([], text) := by
  unfold cutAt
  exact if_pos rfl

theorem cutAt_append (first rest : List Char) :
    cutAt (first ++ rest) (byteCount first) = .ok (first, rest) := by
  induction first with
  | nil => simp
  | cons c first ih =>
    have hpos := c.utf8Size_pos
    rw [cutAt.eq_def, byteCount_cons, if_neg (by omega)]
    simp [ih]

theorem cutAt_eq_error {text : List Char} {position : Nat}
    (h : ∀ first rest, text = first ++ rest → byteCount first ≠ position) :
    cutAt text position = .error .position := by
  induction text generalizing position with
  | nil =>
    have hne : position ≠ 0 := (h [] [] rfl).symm
    rw [cutAt.eq_def, if_neg hne]
  | cons c text ih =>
    have hne : position ≠ 0 := (h [] (c :: text) rfl).symm
    rw [cutAt.eq_def, if_neg hne]
    by_cases hsize : c.utf8Size ≤ position
    · have hrest : cutAt text (position - c.utf8Size) = .error .position := by
        refine ih fun first rest htext hcount => h (c :: first) rest (by simp [htext]) ?_
        rw [byteCount_cons]
        omega
      simp [hsize, hrest]
    · simp [hsize]

example : cutAt ['é', '/'] 1 = .error .position := rfl

/-- The part of a text between two positions. -/
def between (text : List Char) (start stop : Nat) : Checked (List Char) := do
  let (_, rest) ← cutAt text start
  let (part, _) ← cutAt rest (← difference stop start)
  return part

theorem between_append (first part rest : List Char) :
    between (first ++ (part ++ rest)) (byteCount first) (byteCount (first ++ part)) =
      .ok part := by
  simp [between, cutAt_append, difference_of_le]

/-- Where the last character begins that passes a test. -/
def lastWhere? (p : Char → Bool) : List Char → Option Nat
  | [] => none
  | c :: rest =>
    match lastWhere? p rest with
    | some position => some (c.utf8Size + position)
    | none => if p c then some 0 else none

variable {p : Char → Bool}

theorem lastWhere?_eq_none {text : List Char} (h : ∀ c ∈ text, p c = false) :
    lastWhere? p text = none := by
  induction text with
  | nil => rfl
  | cons c rest ih => simp [lastWhere?, ih fun d hd => h d (by simp [hd]), h c (by simp)]

theorem lastWhere?_append {before after : List Char} {c : Char} (hc : p c = true)
    (hafter : ∀ d ∈ after, p d = false) :
    lastWhere? p (before ++ c :: after) = some (byteCount before) := by
  induction before with
  | nil => simp [lastWhere?, lastWhere?_eq_none hafter, hc]
  | cons d before ih => simp [lastWhere?, ih]

theorem exists_last (p : Char → Bool) (text : List Char) :
    (∀ c ∈ text, p c = false) ∨
      ∃ before c after, text = before ++ c :: after ∧ p c = true ∧ ∀ d ∈ after, p d = false := by
  induction text with
  | nil => simp
  | cons c rest ih =>
    rcases ih with hnone | ⟨before, d, after, rfl, hd, hafter⟩
    · by_cases hc : p c = true
      · exact .inr ⟨[], c, rest, rfl, hc, hnone⟩
      · exact .inl (by simpa [hc] using hnone)
    · exact .inr ⟨c :: before, d, after, rfl, hd, hafter⟩

/-- What lies after the last such character, and the text up to it, when one looks from the end. -/
theorem lastWhere?_spec (p : Char → Bool) (text : List Char) :
    (lastWhere? p text = none ∧ (text.reverse.takeWhile fun d => !p d).reverse = text ∧
        (text.reverse.dropWhile fun d => !p d).reverse = []) ∨
      ∃ before c after, text = before ++ c :: after ∧ p c = true ∧
        lastWhere? p text = some (byteCount before) ∧
        (text.reverse.takeWhile fun d => !p d).reverse = after ∧
        (text.reverse.dropWhile fun d => !p d).reverse = before ++ [c] := by
  rcases exists_last p text with hnone | ⟨before, c, after, rfl, hc, hafter⟩
  · have hall : ∀ d ∈ text.reverse, (!p d) = true := by simpa using hnone
    have hborder : ∀ d ∈ ([] : List Char).head?, (!p d) = false := by simp
    have hsplit := takeWhile_append_of_border hall hborder
    rw [List.append_nil] at hsplit
    refine .inl ⟨lastWhere?_eq_none hnone, ?_, ?_⟩
    · rw [hsplit.1, List.reverse_reverse]
    · rw [hsplit.2, List.reverse_nil]
  · have hreverse : (before ++ c :: after).reverse = after.reverse ++ c :: before.reverse := by
      simp
    have hfirst : ∀ d ∈ after.reverse, (!p d) = true := by simpa using hafter
    have hborder : ∀ d ∈ (c :: before.reverse).head?, (!p d) = false := by simp [hc]
    have hsplit := takeWhile_append_of_border hfirst hborder
    refine .inr ⟨before, c, after, rfl, hc, lastWhere?_append hc hafter, ?_, ?_⟩
    · rw [hreverse, hsplit.1, List.reverse_reverse]
    · rw [hreverse, hsplit.2, List.reverse_cons, List.reverse_reverse]

end Checked
end LineShell
