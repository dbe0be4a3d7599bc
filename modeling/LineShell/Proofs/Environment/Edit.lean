import LineShell.Builtin
import LineShell.Proofs.Environment.Proper
import Mathlib.Data.List.TakeWhile

/-! The single changes of an environment, and the commands that make them.  An environment is edited
as an ordered map is, without a word on how its bindings are kept. -/
namespace LineShell

/-- A name is bound to a value, or it is no longer bound. -/
inductive Edit
  | bind (name value : String)
  | unbind (name : String)
  deriving DecidableEq, Repr

/-- The name and the value of a text that assigns one to the other.  They are parted by its first
equals sign, which is not its first character, and it holds no NUL. -/
def assignment? (text : String) : Option (String × String) :=
  let i := text.toList.idxOf '='
  if '=' ∈ text.toList ∧ 0 < i ∧ nul ∉ text.toList then
    some (String.ofList (text.toList.take i), String.ofList (text.toList.drop (i + 1)))
  else none

namespace Edit

/-- The edit that a command makes when it is called with these arguments.  One that would bind or
unbind what cannot be bound makes none. -/
def ofCall? : Builtin → List String → Option Edit
  | .assign, args => (args[1]?.bind assignment?).map fun p => bind p.1 p.2
  | .remove, args => (args[1]?.filter isName).map unbind
  | .exit, _ | .cd, _ | .pwd, _ | .help, _ | .echo, _ | .env, _ | .history, _ => none

def Valid : Edit → Prop
  | bind name value => isName name = true ∧ isValue value = true
  | unbind name => isName name = true

end Edit

/-! How a text is cut at its first equals sign. -/

section Assignment
variable {text : String}

theorem splitAssignment?_of_not_mem (h : '=' ∉ text.toList) :
    Builtin.splitAssignment? text = none := by
  have hnone : text.toList.dropWhile (· != '=') = [] := by
    rw [List.dropWhile_eq_nil_iff]
    intro c hc
    rw [bne_iff_ne]
    rintro rfl
    exact h hc
  rw [Builtin.splitAssignment?, hnone]

theorem splitAssignment?_of_eq {name value : List Char} (h : '=' ∉ name)
    (htext : text.toList = name ++ '=' :: value) :
    Builtin.splitAssignment? text = some (String.ofList name, String.ofList value) := by
  have hplain : ∀ c ∈ name, (c != '=') = true := by
    intro c hc
    rw [bne_iff_ne]
    rintro rfl
    exact h hc
  rw [Builtin.splitAssignment?, htext, List.dropWhile_append_of_pos hplain,
    List.takeWhile_append_of_pos hplain]
  simp

theorem assignment?_eq_filter (text : String) :
    assignment? text =
      (Builtin.splitAssignment? text).filter fun p => isName p.1 && isValue p.2 := by
  by_cases h : '=' ∈ text.toList
  · obtain ⟨name, value, htext, hname⟩ := List.eq_append_cons_of_mem h
    have hi : text.toList.idxOf '=' = name.length := by
      rw [htext, List.idxOf_append_of_notMem hname, List.idxOf_cons_self, Nat.add_zero]
    have hnul : nul ∉ text.toList ↔ nul ∉ name ∧ nul ∉ value := by
      have hmark : nul ≠ '=' := by decide
      simp [htext, hmark]
    have htake : text.toList.take name.length = name := by simp [htext]
    have hdrop : text.toList.drop (name.length + 1) = value := by simp [htext, List.drop_append]
    have hbindable : (isName (String.ofList name) && isValue (String.ofList value)) = true ↔
        0 < name.length ∧ nul ∉ name ∧ nul ∉ value := by
      rw [Bool.and_eq_true, isName_iff, isValue_iff]
      simp [hname, List.length_pos_iff, and_assoc]
    rw [splitAssignment?_of_eq hname htext, assignment?]
    simp only [hi, hnul, htake, hdrop, h, true_and, ← hbindable, Option.filter_some]
  · rw [splitAssignment?_of_not_mem h, assignment?, if_neg (by simp [h])]
    rfl

end Assignment

namespace Edit

theorem ofCall?_assign (args : List String) :
    ofCall? .assign args = ((args[1]?.bind Builtin.splitAssignment?).filter fun p =>
      isName p.1 && isValue p.2).map fun p => bind p.1 p.2 := by
  cases harg : args[1]? with
  | none => simp [ofCall?, harg]
  | some text => simp [ofCall?, harg, assignment?_eq_filter]

theorem valid_of_ofCall? {b : Builtin} {args : List String} {change : Edit}
    (h : ofCall? b args = some change) : change.Valid := by
  cases b with
  | assign =>
    rw [ofCall?_assign] at h
    obtain ⟨p, hp, rfl⟩ := Option.map_eq_some_iff.mp h
    simpa [Valid] using (Option.filter_eq_some_iff.mp hp).2
  | remove =>
    obtain ⟨name, hname, rfl⟩ := Option.map_eq_some_iff.mp h
    exact (Option.filter_eq_some_iff.mp hname).2
  | exit | cd | pwd | help | echo | env | history => cases h

end Edit

namespace Environment
variable {env : Environment} {name value : String}

/-- The environment with one change made.  A bound name keeps its place, a new one comes last, and
one that is taken away leaves no gap. -/
def edit (env : Environment) : Edit → Environment
  | .bind name value =>
    if name ∈ env.names then
      ⟨env.bindings.map fun b => if b.1 = name then (name, value) else b⟩
    else ⟨env.bindings ++ [(name, value)]⟩
  | .unbind name => ⟨env.bindings.eraseP fun b => b.1 = name⟩

theorem fst_ne_of_not_mem {bindings : List (String × String)} (h : name ∉ bindings.map Prod.fst)
    {b : String × String} (hb : b ∈ bindings) : b.1 ≠ name := by
  rintro rfl
  exact h (List.mem_map_of_mem hb)

theorem put_eq_map {bindings : List (String × String)} (hdistinct : (bindings.map Prod.fst).Nodup)
    (hname : name ∈ bindings.map Prod.fst) :
    put name value bindings = bindings.map fun b => if b.1 = name then (name, value) else b := by
  induction bindings with
  | nil => simp at hname
  | cons b rest ih =>
    obtain ⟨hfresh, hrest⟩ := List.nodup_cons.mp hdistinct
    by_cases hb : b.1 = name
    · have hothers : rest.map (fun b => if b.1 = name then (name, value) else b) = rest := by
        refine (List.map_congr_left fun c hc => ?_).trans (List.map_id rest)
        exact if_neg (fst_ne_of_not_mem (hb ▸ hfresh) hc)
      simp [put, hb, hothers]
    · have hlater : name ∈ rest.map Prod.fst := by
        simpa [Ne.symm hb] using hname
      simp [put, hb, ih hrest hlater]

theorem put_eq_append {bindings : List (String × String)} (hname : name ∉ bindings.map Prod.fst) :
    put name value bindings = bindings ++ [(name, value)] := by
  induction bindings with
  | nil => rfl
  | cons b rest ih =>
    rw [List.map_cons, List.mem_cons, not_or] at hname
    simp [put, Ne.symm hname.1, ih hname.2]

theorem filter_eq_eraseP {bindings : List (String × String)}
    (hdistinct : (bindings.map Prod.fst).Nodup) :
    bindings.filter (·.1 != name) = bindings.eraseP fun b => b.1 = name := by
  induction bindings with
  | nil => rfl
  | cons b rest ih =>
    obtain ⟨hfresh, hrest⟩ := List.nodup_cons.mp hdistinct
    by_cases hb : b.1 = name
    · have hothers : rest.filter (·.1 != name) = rest := by
        rw [List.filter_eq_self]
        intro c hc
        exact bne_iff_ne.mpr (fst_ne_of_not_mem (hb ▸ hfresh) hc)
      simp [hb, hothers]
    · simp [hb, ih hrest]

theorem Proper.assign_eq (h : env.Proper) (hname : isName name = true)
    (hvalue : isValue value = true) :
    env.assign name value = .ok (env.edit (.bind name value)) := by
  rw [assign, if_neg (by simp [hname]), if_neg (by simp [hvalue]), edit]
  split
  · next hbound => rw [put_eq_map h.distinct hbound]
  · next hfree => rw [put_eq_append hfree]

theorem Proper.remove_eq (h : env.Proper) (hname : isName name = true) :
    env.remove name = .ok (env.edit (.unbind name)) := by
  rw [remove, if_neg (by simp [hname]), edit, filter_eq_eraseP h.distinct]

theorem names_edit_bind (env : Environment) (name value : String) :
    (env.edit (.bind name value)).names =
      if name ∈ env.names then env.names else env.names ++ [name] := by
  rw [edit]
  split
  · rw [names, names, List.map_map]
    apply List.map_congr_left
    intro b _
    by_cases hb : b.1 = name <;> simp [hb]
  · simp [names]

/-- Edits that could be made keep the shape of an environment. -/
theorem Proper.edit (h : env.Proper) {change : Edit} (hvalid : change.Valid) :
    (env.edit change).Proper := by
  cases change with
  | bind name value =>
    constructor
    · rw [names_edit_bind]
      split
      · exact h.distinct
      · next hname => exact h.distinct.append (List.nodup_singleton name) (by simpa using hname)
    · rw [Environment.edit]
      split
      · intro b hb
        obtain ⟨c, hc, rfl⟩ := List.mem_map.mp hb
        by_cases hname : c.1 = name
        · simpa [hname, Edit.Valid] using hvalid
        · simpa [hname] using h.bindable c hc
      · intro b hb
        rcases List.mem_append.mp hb with hb | hb
        · exact h.bindable b hb
        · exact List.mem_singleton.mp hb ▸ hvalid
  | unbind name =>
    have hsub : (env.bindings.eraseP fun b => b.1 = name).Sublist env.bindings := List.eraseP_sublist
    exact ⟨(hsub.map Prod.fst).nodup h.distinct, fun b hb => h.bindable b (hsub.subset hb)⟩

theorem Proper.foldl_edit (h : env.Proper) {edits : List Edit} (hvalid : ∀ e ∈ edits, e.Valid) :
    (edits.foldl Environment.edit env).Proper := by
  induction edits generalizing env with
  | nil => exact h
  | cons e rest ih =>
    exact ih (h.edit (hvalid e (by simp))) fun e he => hvalid e (by simp [he])

end Environment
end LineShell
