import LineShell.Environment
import Mathlib.Data.List.Basic
import Mathlib.Data.List.Nodup

/-! The shape of an environment, and what it is good for.  The system looks for a name in the texts
that it keeps; when names are distinct and hold no equals sign, it finds what is bound to the name. -/
namespace LineShell

theorem isName_iff {name : String} :
    isName name = true ↔ name ≠ "" ∧ '=' ∉ name.toList ∧ nul ∉ name.toList := by
  simp [isName, and_assoc]

theorem isValue_iff {value : String} : isValue value = true ↔ nul ∉ value.toList := by
  simp [isValue]

/-- A text is cut at its first mark in one way only. -/
theorem append_cons_inj {α : Type} {mark : α} {before before' after after' : List α}
    (h : mark ∉ before) (h' : mark ∉ before')
    (heq : before ++ mark :: after = before' ++ mark :: after') :
    before = before' ∧ after = after' := by
  induction before generalizing before' with
  | nil =>
    cases before' with
    | nil => simpa using heq
    | cons y rest' =>
      rw [List.nil_append, List.cons_append, List.cons.injEq] at heq
      simp [heq.1] at h'
  | cons x rest ih =>
    cases before' with
    | nil =>
      rw [List.nil_append, List.cons_append, List.cons.injEq] at heq
      simp [heq.1] at h
    | cons y rest' =>
      rw [List.cons_append, List.cons_append, List.cons.injEq] at heq
      rw [List.mem_cons, not_or] at h h'
      obtain ⟨hrest, hafter⟩ := ih h.2 h'.2 heq.2
      exact ⟨by rw [heq.1, hrest], hafter⟩

namespace Environment

def names (env : Environment) : List String := env.bindings.map Prod.fst

/-- Each name is bound once, and each binding is one that can be made. -/
structure Proper (env : Environment) : Prop where
  distinct : env.names.Nodup
  bindable : ∀ b ∈ env.bindings, isName b.1 = true ∧ isValue b.2 = true

/-- The text that is kept for a binding answers for its own name and for no other. -/
theorem isPrefixOf?_entry {name : String} {b : String × String} (h : '=' ∉ name.toList)
    (hb : '=' ∉ b.1.toList) :
    ((name.toList ++ ['=']).isPrefixOf? (entry b)).map String.ofList =
      if b.1 = name then some b.2 else none := by
  cases hrest : (name.toList ++ ['=']).isPrefixOf? (entry b) with
  | none =>
    have hne : b.1 ≠ name := by
      rintro rfl
      have hself : (b.1.toList ++ ['=']).isPrefixOf? (entry b) = some b.2.toList :=
        List.isPrefixOf?_eq_some_iff_append_eq.mpr (by simp [entry])
      rw [hrest] at hself
      cases hself
    rw [if_neg hne]
    rfl
  | some rest =>
    have hentry : name.toList ++ '=' :: rest = b.1.toList ++ '=' :: b.2.toList := by
      simpa [entry] using List.isPrefixOf?_eq_some_iff_append_eq.mp hrest
    obtain ⟨hname, hvalue⟩ := append_cons_inj h hb hentry
    rw [if_pos (String.toList_inj.mp hname.symm), hvalue]
    simp

variable {env : Environment} {name value : String}

theorem Proper.get?_eq_some_iff (h : env.Proper) (hname : isName name = true) :
    env.get? name = some value ↔ (name, value) ∈ env.bindings := by
  obtain ⟨hne, heq, hnul⟩ := isName_iff.mp hname
  obtain ⟨bindings⟩ := env
  obtain ⟨hdistinct, hbindable⟩ := h
  rw [get?, if_neg (by simp [hne, hnul])]
  simp only [names] at hdistinct hbindable ⊢
  induction bindings with
  | nil => simp
  | cons b rest ih =>
    obtain ⟨hfresh, hrest⟩ := List.nodup_cons.mp hdistinct
    have hb := (isName_iff.mp (hbindable b List.mem_cons_self).1).2.1
    have ih := ih hrest fun c hc => hbindable c (List.mem_cons_of_mem _ hc)
    rw [List.findSome?_cons, isPrefixOf?_entry heq hb]
    by_cases hsame : b.1 = name
    · have hother : (name, value) ∉ rest := by
        intro hmem
        exact hfresh (hsame ▸ List.mem_map_of_mem (f := Prod.fst) hmem)
      simp [hsame, hother, Prod.ext_iff, eq_comm]
    · have hdiffers : (name, value) ≠ b := by
        rintro rfl
        exact hsame rfl
      simp only [if_neg hsame, List.mem_cons, hdiffers, false_or]
      exact ih

theorem Proper.get?_eq_none_iff (h : env.Proper) (hname : isName name = true) :
    env.get? name = none ↔ name ∉ env.names := by
  rw [Option.eq_none_iff_forall_ne_some, names, List.mem_map]
  simp [h.get?_eq_some_iff hname]

end Environment
end LineShell
