import LineShell.Names
import LineShell.Proofs.Text.Bytes
import Mathlib.Data.List.Sort

/-! The order of names.  Different names have different bytes, so that of two of them one comes first, and
a list that increases is told by what is in it. -/
namespace LineShell

theorem utf8_injective : Function.Injective utf8 := by
  intro a b h
  have ha : ofUtf8? (utf8 a) = some a := ofUtf8?_eq_some_iff.mpr rfl
  have hb : ofUtf8? (utf8 b) = some b := ofUtf8?_eq_some_iff.mpr rfl
  rw [h] at ha
  exact Option.some.inj (ha.symm.trans hb)

theorem precedes_eq_false_iff {a b : String} : precedes a b = false ↔ utf8 b ≤ utf8 a :=
  decide_eq_false_iff_not.trans List.not_lt

theorem utf8_lt_of_le_of_ne {a b : String} (h : utf8 a ≤ utf8 b) (hne : a ≠ b) : utf8 a < utf8 b := by
  by_contra hlt
  exact hne (utf8_injective (List.le_antisymm h (List.not_lt.mp hlt)))

section Keyed
variable {α : Type} {key : α → String} {xs ys : List α}

/-- The names by which these are known come one after the other. -/
def Increasing (key : α → String) (xs : List α) : Prop :=
  xs.Pairwise fun a b => utf8 (key a) < utf8 (key b)

instance (key : α → String) (xs : List α) : Decidable (Increasing key xs) :=
  inferInstanceAs (Decidable (xs.Pairwise _))

/-- Sorting what is known by different names makes the names increase. -/
theorem increasing_mergeSort (h : (xs.map key).Nodup) :
    Increasing key (xs.mergeSort fun a b => !precedes (key b) (key a)) := by
  have hsorted : (xs.mergeSort fun a b => !precedes (key b) (key a)).Pairwise
      fun a b => (!precedes (key b) (key a)) = true := by
    apply List.pairwise_mergeSort
    · intro a b c hab hbc
      simp only [Bool.not_eq_true', precedes_eq_false_iff] at hab hbc ⊢
      exact List.le_trans hab hbc
    · intro a b
      simpa [precedes_eq_false_iff] using List.le_total (utf8 (key a)) (utf8 (key b))
  have hdistinct : (xs.mergeSort fun a b => !precedes (key b) (key a)).Pairwise
      fun a b => key a ≠ key b :=
    List.pairwise_map.mp (((List.mergeSort_perm xs _).map key).nodup_iff.mpr h)
  refine (hsorted.and hdistinct).imp ?_
  intro a b hab
  exact utf8_lt_of_le_of_ne (by simpa [precedes_eq_false_iff] using hab.1) hab.2

theorem Increasing.eq_of_perm (hx : Increasing key xs) (hy : Increasing key ys) (h : xs.Perm ys) :
    xs = ys := by
  refine h.eq_of_pairwise ?_ hx hy
  intro a b _ _ hab hba
  exact absurd (List.lt_trans hab hba) (List.lt_irrefl _)

theorem Increasing.nodup (h : Increasing key xs) : xs.Nodup := by
  refine h.imp ?_
  rintro a b hab rfl
  exact List.lt_irrefl _ hab

theorem Increasing.eq_of_mem_iff (hx : Increasing key xs) (hy : Increasing key ys)
    (h : ∀ a, a ∈ xs ↔ a ∈ ys) : xs = ys :=
  hx.eq_of_perm hy ((List.perm_ext_iff_of_nodup hx.nodup hy.nodup).mpr h)

end Keyed

theorem increasing_insertName {name : String} {names : List String} (h : Increasing id names) :
    Increasing id (insertName name names) := by
  induction names with
  | nil => exact List.pairwise_singleton _ _
  | cons first rest ih =>
    obtain ⟨hfirst, hrest⟩ := List.pairwise_cons.mp h
    rw [insertName]
    split
    · next hprecedes =>
      have hlt : utf8 name < utf8 first := of_decide_eq_true hprecedes
      refine List.pairwise_cons.mpr ⟨fun other hother => ?_, h⟩
      rcases List.mem_cons.mp hother with rfl | hother
      · exact hlt
      · exact List.lt_trans hlt (hfirst other hother)
    · next hprecedes =>
      split
      · exact h
      · next hne =>
        have hle : utf8 first ≤ utf8 name := precedes_eq_false_iff.mp (by simpa using hprecedes)
        have hlt : utf8 first < utf8 name := utf8_lt_of_le_of_ne hle (Ne.symm hne)
        refine List.pairwise_cons.mpr ⟨fun other hother => ?_, ih hrest⟩
        rcases mem_insertName.mp hother with rfl | hother
        · exact hlt
        · exact hfirst other hother

theorem increasing_sortedNames (names : List String) : Increasing id (sortedNames names) := by
  induction names with
  | nil => exact List.Pairwise.nil
  | cons name rest ih => exact increasing_insertName ih

end LineShell
