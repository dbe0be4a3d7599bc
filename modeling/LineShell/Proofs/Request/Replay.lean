import LineShell.Proofs.Request.Bindings
import LineShell.Proofs.Words.Resumption
import LineShell.Proofs.Words.Writing

/-! An environment written out as lines.  Typing a line for each of its bindings, in their order,
builds the environment up from nothing, and changes nothing in the environment itself. -/
namespace LineShell

namespace Environment
variable {env : Environment} {name value : String}

theorem edit_bind_of_mem (h : env.Proper) (hmem : (name, value) ∈ env.bindings) :
    env.edit (.bind name value) = env := by
  have hname : name ∈ env.names := List.mem_map_of_mem (f := Prod.fst) hmem
  have hsame : ∀ b ∈ env.bindings, (if b.1 = name then (name, value) else b) = b := by
    intro b hb
    by_cases hb' : b.1 = name
    · have hvalue : (name, value) = b := List.inj_on_of_nodup_map h.distinct hmem hb hb'.symm
      simp [hvalue]
    · simp [hb']
  rw [edit, if_pos hname, List.map_congr_left hsame, List.map_id']

theorem edit_bind_of_not_mem (h : name ∉ env.names) :
    env.edit (.bind name value) = ⟨env.bindings ++ [(name, value)]⟩ := by
  rw [edit, if_neg h]

/-- Binding one after another what is not bound yet adds it as it stands. -/
theorem foldl_bind_of_nodup (bound new : List (String × String))
    (h : ((bound ++ new).map Prod.fst).Nodup) :
    (new.map fun b => Edit.bind b.1 b.2).foldl edit ⟨bound⟩ = ⟨bound ++ new⟩ := by
  induction new generalizing bound with
  | nil => simp
  | cons b rest ih =>
    have hfresh : b.1 ∉ names ⟨bound⟩ := by
      rw [List.map_append, List.map_cons, List.nodup_append] at h
      intro hmem
      exact h.2.2 b.1 hmem b.1 List.mem_cons_self rfl
    rw [List.map_cons, List.foldl_cons, edit_bind_of_not_mem hfresh, ih _ (by simpa using h),
      List.append_assoc, List.singleton_append]

theorem foldl_bind_of_subset (h : env.Proper) {again : List (String × String)}
    (hagain : ∀ b ∈ again, b ∈ env.bindings) :
    (again.map fun b => Edit.bind b.1 b.2).foldl edit env = env := by
  induction again with
  | nil => rfl
  | cons b rest ih =>
    rw [List.map_cons, List.foldl_cons, edit_bind_of_mem h (hagain b List.mem_cons_self)]
    exact ih fun c hc => hagain c (List.mem_cons_of_mem b hc)

theorem assign_remove (h : name ∉ env.names) (hname : isName name = true)
    (hvalue : isValue value = true) :
    (env.assign name value).bind (·.remove name) = .ok env := by
  have hothers : env.bindings.filter (·.1 != name) = env.bindings := by
    rw [List.filter_eq_self]
    intro b hb
    exact bne_iff_ne.mpr (fst_ne_of_not_mem h hb)
  rw [assign, if_neg (by simp [hname]), if_neg (by simp [hvalue]), put_eq_append h]
  simp [Except.bind, remove, hname, hothers]

end Environment

/-- A line that binds a name to a value: `export`, a separator, and a text that reads as the one
word `name=value`. -/
def Binds (b : String × String) (line : String) : Prop :=
  ∃ (c : Char) (text : String), isSeparator c = true ∧ words text = [b.1 ++ "=" ++ b.2] ∧
    line.toList = Builtin.assign.name.toList ++ c :: text.toList

theorem Binds.words_eq {b : String × String} {line : String} (h : Binds b line) :
    words line = [Builtin.assign.name, b.1 ++ "=" ++ b.2] := by
  obtain ⟨c, text, hc, htext, hline⟩ := h
  have hcuts : (scan Builtin.assign.name.toList).cuts c = true := by
    have hopen : (scan Builtin.assign.name.toList).escaped = false ∧
        (scan Builtin.assign.name.toList).quoted = false := by decide
    simp [Scan.cuts, hc, hopen]
  have hname : wordsOf Builtin.assign.name.toList = [Builtin.assign.name.toList] := by decide
  rw [words, hline, wordsOf_append_cons hcuts, hname, List.map_append]
  exact congrArg ([Builtin.assign.name] ++ ·) htext

theorem Binds.of_writes {b : String × String} {c : Char} {text line : String}
    (hc : isSeparator c = true) (htext : Writes (b.1 ++ "=" ++ b.2).toList text.toList)
    (hline : line.toList = Builtin.assign.name.toList ++ c :: text.toList) : Binds b line := by
  refine ⟨c, text, hc, ?_, hline⟩
  have hnone : AreSeparators [] := by simp [AreSeparators]
  have hall : WritesAll ([b.1 ++ "=" ++ b.2].map String.toList) text.toList := by
    simpa using WritesAll.last hnone htext hnone
  refine words_of_writesAll hall ?_
  intro word hword
  rw [List.mem_singleton.mp hword]
  simp

theorem splitAssignment?_append {name : String} (h : isName name = true) (value : String) :
    Builtin.splitAssignment? (name ++ "=" ++ value) = some (name, value) := by
  have htext : (name ++ "=" ++ value).toList = name.toList ++ '=' :: value.toList := by simp
  simpa using splitAssignment?_of_eq (isName_iff.mp h).2.1 htext

namespace Edit

theorem ofCall?_assign_of_valid {name value : String} (hname : isName name = true)
    (hvalue : isValue value = true) (command : String) :
    ofCall? .assign [command, name ++ "=" ++ value] = some (bind name value) := by
  rw [ofCall?_assign]
  simp [splitAssignment?_append hname, hname, hvalue]

end Edit

namespace Shell
variable {ω ε σ : Type} [Sink ω] [Sink ε] [Host σ] {s : Shell ω ε σ} {env : Environment}

theorem typed_of_binds (hs : s.env.Proper) {b : String × String} {line : String}
    (hb : isName b.1 = true ∧ isValue b.2 = true) (h : Binds b line) :
    s.typed line = (.proceed, { s.remember line with env := s.env.edit (.bind b.1 b.2) }) := by
  have hcall := Edit.ofCall?_assign_of_valid hb.1 hb.2 Builtin.assign.name
  have hrun := Builtin.run_of_ofCall?_some (s := s.remember line) hs hcall
  rw [typed, h.words_eq, if_neg (by simp)]
  exact perform_of_ok (Builtin.ofName?_name .assign) hrun

theorem replay_of_binds (hs : s.env.Proper) {bindings : List (String × String)}
    {lines : List String} (hvalid : ∀ b ∈ bindings, isName b.1 = true ∧ isValue b.2 = true)
    (h : List.Forall₂ Binds bindings lines) :
    s.answers (lines.map .line) = lines.map (fun _ => .ok .proceed) ∧
      s.afterAll (lines.map .line) = { s with
        env := (bindings.map fun b => Edit.bind b.1 b.2).foldl Environment.edit s.env
        history := lines.foldl History.record s.history } := by
  induction h generalizing s with
  | nil => exact ⟨rfl, rfl⟩
  | @cons b line bindings lines hfirst hrest ih =>
    have hb := hvalid b List.mem_cons_self
    have hserve : s.serve (.line line) =
        (.ok .proceed, { s.remember line with env := s.env.edit (.bind b.1 b.2) }) := by
      rw [serve, typed_of_binds hs hb hfirst]
    have hnext : (s.env.edit (.bind b.1 b.2)).Proper := hs.edit hb
    obtain ⟨hanswers, hafter⟩ :=
      ih (s := { s.remember line with env := s.env.edit (.bind b.1 b.2) }) hnext
        fun c hc => hvalid c (List.mem_cons_of_mem b hc)
    rw [List.map_cons, answers, afterAll_cons, hserve, hanswers, hafter]
    exact ⟨rfl, rfl⟩

/-- A new name is bound and taken away by two commands that succeed, and nothing has changed. -/
theorem bound_and_removed {name value : String} (hname : isName name = true)
    (hvalue : isValue value = true) (h : name ∉ s.env.names) :
    s.answers [.perform ["export", name ++ "=" ++ value], .perform ["unset", name]] =
        [.ok .proceed, .ok .proceed] ∧
      s.afterAll [.perform ["export", name ++ "=" ++ value], .perform ["unset", name]] = s := by
  obtain ⟨bound, hassign, hremove⟩ :
      ∃ bound, s.env.assign name value = .ok bound ∧ bound.remove name = .ok s.env := by
    have hboth := Environment.assign_remove h hname hvalue
    cases hassign : s.env.assign name value with
    | error error =>
      rw [hassign] at hboth
      cases hboth
    | ok bound =>
      rw [hassign] at hboth
      exact ⟨bound, rfl, hboth⟩
  have hexport : s.perform ["export", name ++ "=" ++ value] =
      (.proceed, { s with env := bound }) := by
    refine perform_of_ok (Builtin.ofName?_name .assign) ?_
    simp [Builtin.run, Builtin.runAssign, splitAssignment?_append hname, hassign]
  have hunset : Shell.perform { s with env := bound } ["unset", name] = (.proceed, s) := by
    refine perform_of_ok (Builtin.ofName?_name .remove) ?_
    simp [Builtin.run, Builtin.runRemove, hremove]
  simp [answers, serve, hexport, hunset]

/-- Lines that bind what an environment binds, in its order and each written in any way, build it up
from nothing, and change nothing once it is there.  They are carried out without a word to either
stream.  A name that is not bound can be bound and taken away again as if nothing had been. -/
theorem env_replayed (env : Environment) (henv : env.Proper) (lines : List String)
    (hlines : List.Forall₂ Binds env.bindings lines) :
    (∀ s : Shell ω ε σ, s.env = {} ∨ s.env = env →
      s.answers (lines.map .line) = lines.map (fun _ => .ok .proceed) ∧
        s.afterAll (lines.map .line) =
          { s with env, history := lines.foldl History.record s.history }) ∧
    (∀ (b : String × String) (c : Char) (text line : String), isSeparator c = true →
      Writes (b.1 ++ "=" ++ b.2).toList text.toList →
      line.toList = Builtin.assign.name.toList ++ c :: text.toList → Binds b line) ∧
    ∀ (s : Shell ω ε σ) (name value : String), s.env = env → isName name = true →
      isValue value = true → name ∉ env.names →
      s.answers [.perform ["export", name ++ "=" ++ value], .perform ["unset", name]] =
          [.ok .proceed, .ok .proceed] ∧
        s.afterAll [.perform ["export", name ++ "=" ++ value], .perform ["unset", name]] = s := by
  refine ⟨?_, fun b c text line => .of_writes, ?_⟩
  · intro s hs
    have hproper : s.env.Proper := by
      rcases hs with hs | hs
      · rw [hs]
        exact ⟨List.nodup_nil, by simp⟩
      · rwa [hs]
    have hbuilt : (env.bindings.map fun b => Edit.bind b.1 b.2).foldl Environment.edit s.env =
        env := by
      rcases hs with hs | hs
      · rw [hs]
        exact Environment.foldl_bind_of_nodup [] env.bindings henv.distinct
      · rw [hs]
        exact Environment.foldl_bind_of_subset henv fun b hb => hb
    obtain ⟨hanswers, hafter⟩ := replay_of_binds hproper henv.bindable hlines
    rw [hbuilt] at hafter
    exact ⟨hanswers, hafter⟩
  · rintro s name value rfl hname hvalue hfree
    exact bound_and_removed hname hvalue hfree

/-- Values with an equals sign, a quote, a backslash and a line break in them, and an empty one. -/
def motley : Environment := ⟨[("A", "1=\"2"), ("B C", ""), ("D", "\\\n e")]⟩

/-- Each binding of it on a line, with characters as they are, escaped and quoted. -/
def motleyLines : List String :=
  ["export A=1=\\\"2", "export\t'B C=\"", "export 'D=\\\\\n \"\\e"]

def mute : Shell Limited Limited Sandbox where
  dir := "/"
  host := {}
  out := { room := some 0 }
  err := { room := some 0 }

theorem env_replayed_motley :
    motley.Proper ∧ List.Forall₂ Binds motley.bindings motleyLines ∧
      (mute.afterAll (motleyLines.map .line)).env = motley ∧
      (mute.afterAll (motleyLines.map .line)).transcript = [] ∧
      mute.answers (motleyLines.map .line) = [.ok .proceed, .ok .proceed, .ok .proceed] ∧
      Shell.afterAll { mute with env := motley }
          [.perform ["export", "B=="], .perform ["unset", "B"]] = { mute with env := motley } := by
  have hproper : motley.Proper := ⟨by decide, by decide⟩
  have hlines : List.Forall₂ Binds motley.bindings motleyLines :=
    .cons ⟨' ', "A=1=\\\"2", by decide, by decide, rfl⟩ <|
      .cons ⟨'\t', "'B C=\"", by decide, by decide, rfl⟩ <|
        .cons ⟨' ', "'D=\\\\\n \"\\e", by decide, by decide, rfl⟩ .nil
  obtain ⟨hreplay, -, hremoved⟩ :=
    env_replayed (ω := Limited) (ε := Limited) (σ := Sandbox) motley hproper motleyLines hlines
  obtain ⟨hanswers, hafter⟩ := hreplay mute (.inl rfl)
  refine ⟨hproper, hlines, ?_, ?_, hanswers, ?_⟩
  · rw [hafter]
  · rw [hafter]
    rfl
  · exact (hremoved { mute with env := motley } "B" "=" rfl rfl rfl (by decide)).2

end Shell
end LineShell
