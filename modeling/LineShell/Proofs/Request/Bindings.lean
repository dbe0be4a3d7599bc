import LineShell.Proofs.Command.Outcome
import LineShell.Proofs.Environment.Edit
import LineShell.Proofs.Request.Basic
import LineShell.Sandbox
import Mathlib

/-! The environment of a shell.  Whatever the shell is asked, its environment is the first one with
the edits made that came through, in order; so its shape is kept, and what the system finds for a
name is what is listed for it. -/
namespace LineShell
variable {ω ε σ : Type} {s t u : Shell ω ε σ}

namespace Edit

/-- The edit that words make when they are carried out. -/
def ofWords? (argv : List String) : Option Edit :=
  (argv.head?.bind Builtin.ofName?).bind fun b => ofCall? b argv

theorem ofWords?_of_program {name : String} (h : Builtin.ofName? name = none)
    (args : List String) : ofWords? (name :: args) = none := by
  simp [ofWords?, h]

theorem ofWords?_of_builtin {name : String} {b : Builtin} (h : Builtin.ofName? name = some b)
    (args : List String) : ofWords? (name :: args) = ofCall? b (name :: args) := by
  simp [ofWords?, h]

end Edit

namespace Builtin
variable {b : Builtin} {args : List String}

theorem runAssign_of_ofCall?_none (h : Edit.ofCall? .assign args = none) :
    ∃ error, runAssign s args = (.error error, s) := by
  rw [Edit.ofCall?_assign, Option.map_eq_none_iff] at h
  rw [runAssign]
  split
  · exact ⟨_, rfl⟩
  · next name value hsplit =>
    have hunfit : ¬ (isName name && isValue value) = true := by
      simpa [hsplit] using h
    by_cases hname : isName name = true
    · have hvalue : isValue value = false := by simpa [hname] using hunfit
      exact ⟨_, by rw [Environment.assign, if_neg (by simp [hname]), if_pos (by simp [hvalue])]⟩
    · exact ⟨_, by rw [Environment.assign, if_pos (by simp [hname])]⟩

theorem runAssign_of_ofCall?_some (hs : s.env.Proper) {change : Edit}
    (h : Edit.ofCall? .assign args = some change) :
    runAssign s args = (.ok .proceed, { s with env := s.env.edit change }) := by
  rw [Edit.ofCall?_assign] at h
  obtain ⟨⟨name, value⟩, hpair, rfl⟩ := Option.map_eq_some_iff.mp h
  obtain ⟨hsplit, hfit⟩ := Option.filter_eq_some_iff.mp hpair
  obtain ⟨hname, hvalue⟩ := Bool.and_eq_true_iff.mp hfit
  rw [runAssign, hsplit]
  simp only [hs.assign_eq hname hvalue]

theorem runRemove_of_ofCall?_none (h : Edit.ofCall? .remove args = none) :
    ∃ error, runRemove s args = (.error error, s) := by
  rw [runRemove]
  split
  · exact ⟨_, rfl⟩
  · next name harg =>
    have hname : isName name = false := by simpa [Edit.ofCall?, harg] using h
    exact ⟨_, by rw [Environment.remove, if_pos (by simp [hname])]⟩

theorem runRemove_of_ofCall?_some (hs : s.env.Proper) {change : Edit}
    (h : Edit.ofCall? .remove args = some change) :
    runRemove s args = (.ok .proceed, { s with env := s.env.edit change }) := by
  obtain ⟨name, harg, rfl⟩ := Option.map_eq_some_iff.mp h
  obtain ⟨harg, hname⟩ := Option.filter_eq_some_iff.mp harg
  rw [runRemove, harg]
  simp only [hs.remove_eq hname]

theorem env_runCd [Host σ] (s : Shell ω ε σ) (args : List String) :
    (runCd s args).2.env = s.env := by
  rw [runCd]
  split <;> rfl

variable [Sink ω]

theorem env_runExit (s : Shell ω ε σ) (args : List String) : (runExit s args).2.env = s.env := by
  have hprint := congrArg State.env (s.toState_print "Goodbye!\n")
  rw [runExit]
  split
  · next heq => rwa [heq] at hprint
  · next heq =>
    rw [heq] at hprint
    split <;> exact hprint

variable [Host σ]

/-- A command that makes no edit leaves the environment as it was. -/
theorem env_run_of_ofCall?_none (h : Edit.ofCall? b args = none) (s : Shell ω ε σ) :
    (b.run s args).2.env = s.env := by
  cases b with
  | exit => exact env_runExit s args
  | cd => exact env_runCd s args
  | assign =>
    obtain ⟨error, hrun⟩ := runAssign_of_ofCall?_none (s := s) h
    rw [run, hrun]
  | remove =>
    obtain ⟨error, hrun⟩ := runRemove_of_ofCall?_none (s := s) h
    rw [run, hrun]
  | pwd | help | echo | env | history => exact congrArg State.env (toState_runListing s _)

/-- A command that makes an edit succeeds, and changes nothing else. -/
theorem run_of_ofCall?_some (hs : s.env.Proper) {change : Edit}
    (h : Edit.ofCall? b args = some change) :
    b.run s args = (.ok .proceed, { s with env := s.env.edit change }) := by
  cases b with
  | assign => exact runAssign_of_ofCall?_some hs h
  | remove => exact runRemove_of_ofCall?_some hs h
  | exit | cd | pwd | help | echo | env | history => cases h

/-- The commands that are there to edit succeed just when they make an edit. -/
theorem isOk_run_iff (hs : s.env.Proper) (hb : b = .assign ∨ b = .remove) :
    (b.run s args).1.isOk = true ↔ (Edit.ofCall? b args).isSome = true := by
  cases hcall : Edit.ofCall? b args with
  | some change => simp [run_of_ofCall?_some hs hcall, Except.isOk, Except.toBool]
  | none =>
    have hfails : ∃ error, b.run s args = (.error error, s) := by
      rcases hb with rfl | rfl
      · exact runAssign_of_ofCall?_none hcall
      · exact runRemove_of_ofCall?_none hcall
    obtain ⟨error, hrun⟩ := hfails
    simp [hrun, Except.isOk, Except.toBool]

end Builtin

namespace Shell

/-- The second shell has the environment of the first with these edits made, and each of them is one
that can be made. -/
structure Edited (edits : List Edit) (s t : Shell ω ε σ) : Prop where
  valid : ∀ change ∈ edits, change.Valid
  env : s.env.Proper → t.env = edits.foldl Environment.edit s.env

namespace Edited

theorem of_env (h : t.env = s.env) : Edited [] s t := ⟨by simp, fun _ => h⟩

theorem proper {edits : List Edit} (h : Edited edits s t) (hs : s.env.Proper) :
    t.env.Proper := by
  rw [h.env hs]
  exact hs.foldl_edit h.valid

theorem trans {edits edits' : List Edit} (h : Edited edits s t) (h' : Edited edits' t u) :
    Edited (edits ++ edits') s u where
  valid change hmem := (List.mem_append.mp hmem).elim (h.valid change) (h'.valid change)
  env hs := by rw [h'.env (h.proper hs), h.env hs, List.foldl_append]

theorem congr_env {edits : List Edit} (h : Edited edits s t) (ht : u.env = t.env) :
    Edited edits s u := ⟨h.valid, fun hs => ht.trans (h.env hs)⟩

end Edited

variable [Sink ω] [Host σ]

theorem edited_run (b : Builtin) (s : Shell ω ε σ) (args : List String) :
    Edited (Edit.ofCall? b args).toList s (b.run s args).2 := by
  cases hcall : Edit.ofCall? b args with
  | none => exact .of_env (Builtin.env_run_of_ofCall?_none hcall s)
  | some change =>
    constructor
    · simpa using Edit.valid_of_ofCall? hcall
    · intro hs
      rw [Builtin.run_of_ofCall?_some hs hcall]
      rfl

variable [Sink ε]

theorem edited_perform (s : Shell ω ε σ) (argv : List String) :
    Edited (Edit.ofWords? argv).toList s (s.perform argv).2 := by
  cases argv with
  | nil => exact .of_env rfl
  | cons name args =>
    cases hb : Builtin.ofName? name with
    | none =>
      obtain ⟨t, hperform, ht⟩ := perform_of_program hb s args
      have henv := congrArg State.env ht
      rw [Edit.ofWords?_of_program hb, hperform]
      exact .of_env henv
    | some b =>
      have hrun := edited_run b s (name :: args)
      rw [Edit.ofWords?_of_builtin hb]
      simp only [perform, hb]
      split
      · next heq => rwa [heq] at hrun
      · next heq =>
        rw [heq] at hrun
        exact hrun.congr_env rfl

theorem edited_typed (s : Shell ω ε σ) (line : String) :
    Edited (Edit.ofWords? (words line)).toList s (s.typed line).2 := by
  rw [typed]
  by_cases h : words line = []
  · rw [h]
    exact .of_env rfl
  · rw [if_neg (by simpa using h)]
    have hremember : Edited [] s (s.remember line) := .of_env rfl
    exact hremember.trans (edited_perform (s.remember line) (words line))

/-- The commands that are carried out of those in a file: all up to one that ends the session, with
that one. -/
def sourced (s : Shell ω ε σ) : List String → List String
  | [] => []
  | line :: rest =>
    line :: match s.perform (words line) with
      | (.leave _, _) => []
      | (.proceed, s) => if s.running then s.sourced rest else []

theorem edited_source (s : Shell ω ε σ) {lines : List String}
    (hlines : ∀ line ∈ lines, StartupFile.isCommand line = true) :
    Edited ((s.sourced lines).flatMap fun line => (Edit.ofWords? (words line)).toList) s
      (s.source lines).2 := by
  induction lines generalizing s with
  | nil => exact .of_env rfl
  | cons line rest ih =>
    have hfirst := edited_perform s (words line)
    have hrest := fun t : Shell ω ε σ => ih t fun l hl => hlines l (List.mem_cons_of_mem _ hl)
    rw [source_cons_of_isCommand (hlines line List.mem_cons_self), sourced, List.flatMap_cons]
    cases hperform : s.perform (words line) with
    | mk next t =>
      rw [hperform] at hfirst
      cases next with
      | leave status => simpa using hfirst
      | proceed =>
        cases hrunning : t.running with
        | true => simpa [hrunning] using hfirst.trans (hrest t)
        | false => simpa [hrunning] using hfirst

theorem edited_load (s : Shell ω ε σ) (file : StartupFile) :
    Edited ((s.sourced (StartupFile.commands s.host (some file))).flatMap
      fun line => (Edit.ofWords? (words line)).toList) s (s.load file).2 := by
  rw [load_eq_read]
  cases hread : file.read s.host with
  | ok lines =>
    simp only [StartupFile.commands, Option.map_some, hread]
    exact edited_source s (StartupFile.isCommand_of_mem_read hread)
  | error error =>
    simp only [StartupFile.commands, Option.map_some, hread]
    exact .of_env rfl

/-- The edits that come through when a shell serves a request. -/
def edits (s : Shell ω ε σ) : Request σ → List Edit
  | .line text => (Edit.ofWords? (words text)).toList
  | .perform argv => (Edit.ofWords? argv).toList
  | .call b args => (Edit.ofCall? b args).toList
  | .startup file => (s.sourced (StartupFile.commands s.host (some file))).flatMap
      fun line => (Edit.ofWords? (words line)).toList
  | .meanwhile _ => []

def editsAll (s : Shell ω ε σ) : List (Request σ) → List Edit
  | [] => []
  | request :: rest => s.edits request ++ (s.serve request).2.editsAll rest

theorem edited_serve (s : Shell ω ε σ) (request : Request σ) :
    Edited (s.edits request) s (s.serve request).2 := by
  cases request with
  | line text => exact edited_typed s text
  | perform argv => exact edited_perform s argv
  | call b args => exact edited_run b s args
  | startup file => exact edited_load s file
  | meanwhile host => exact .of_env rfl

theorem edited_afterAll (s : Shell ω ε σ) (requests : List (Request σ)) :
    Edited (s.editsAll requests) s (s.afterAll requests) := by
  induction requests generalizing s with
  | nil => exact .of_env rfl
  | cons request rest ih => exact (edited_serve s request).trans (ih (s.serve request).2)

/-- An environment of the right shape keeps it, whatever the shell is asked.  It is then what comes
of the first one by the edits that came through, in order.  A name is found to have the value that
is listed for it, if there is one; and the commands that are there to edit succeed just when they
make an edit. -/
theorem env_afterAll (s : Shell ω ε σ) (hs : s.env.Proper) (requests : List (Request σ)) :
    (s.afterAll requests).env.Proper ∧
      (s.afterAll requests).env = (s.editsAll requests).foldl Environment.edit s.env ∧
      (∀ name : String, isName name = true →
        (∀ value, (s.afterAll requests).env.get? name = some value ↔
          (name, value) ∈ (s.afterAll requests).env.bindings) ∧
        ((s.afterAll requests).env.get? name = none ↔
          ∀ value, (name, value) ∉ (s.afterAll requests).env.bindings)) ∧
      ∀ (b : Builtin) (args : List String), b = .assign ∨ b = .remove →
        ((b.run (s.afterAll requests) args).1.isOk = true ↔
          (Edit.ofCall? b args).isSome = true) := by
  have hedited := edited_afterAll s requests
  have hproper := hedited.proper hs
  refine ⟨hproper, hedited.env hs, ?_, fun b args hb => Builtin.isOk_run_iff hproper hb⟩
  intro name hname
  refine ⟨fun value => hproper.get?_eq_some_iff hname, ?_⟩
  rw [hproper.get?_eq_none_iff hname, Environment.names, List.mem_map]
  simp

/-- A startup file that edits, fails to, and ends before its last line. -/
def furnishingText : String := "export B=1=2\nexport =x\nunset AB\nexit\nunset A\n"

/-- A shell with that file, and with names of which one begins the other. -/
def furnished : Shell Limited Limited Sandbox where
  dir := "/"
  host := { tree := { nodes := #[.directory 0 [("rc", 1)], .file (utf8 furnishingText) 0o644] } }
  env := ⟨[("A", "B=x"), ("AB", "")]⟩
  out := {}
  err := {}

def errands : List (Request Sandbox) :=
  [.startup { path := "/rc", named := true }, .line "unset A=B",
    .perform ["export", "A=y", "C=z"], .call .assign [], .line "export AB="]

theorem env_afterAll_furnished : furnished.env.Proper ∧
    (furnished.afterAll errands).env = ⟨[("A", "y"), ("B", "1=2"), ("AB", "")]⟩ ∧
    (furnished.afterAll errands).env.get? "C" = none := by
  have hproper : furnished.env.Proper := ⟨by decide, by decide⟩
  have hfile : Host.readFile furnished.host "/rc" = .ok (utf8 furnishingText) := by cbv
  have htext : ofUtf8? (utf8 furnishingText) = some furnishingText := by decide
  have hcommands : StartupFile.commands furnished.host (some { path := "/rc", named := true }) =
      (textLines furnishingText).filter StartupFile.isCommand := by
    simp only [StartupFile.commands, StartupFile.read, Option.map_some, hfile, htext]
  have hstartup : furnished.edits (.startup { path := "/rc", named := true }) =
      [.bind "B" "1=2", .unbind "AB"] := by
    rw [edits, hcommands]
    decide +kernel
  have hedits : furnished.editsAll errands =
      [.bind "B" "1=2", .unbind "AB", .bind "A" "y", .bind "AB" ""] := by
    rw [errands, editsAll, hstartup]
    decide +kernel
  obtain ⟨-, henv, hget, -⟩ := env_afterAll furnished hproper errands
  rw [hedits] at henv
  have hbindings : (furnished.afterAll errands).env = ⟨[("A", "y"), ("B", "1=2"), ("AB", "")]⟩ :=
    henv.trans (by decide)
  refine ⟨hproper, hbindings, (hget "C" (by decide)).2.mpr ?_⟩
  rw [hbindings]
  simp

end Shell
end LineShell
