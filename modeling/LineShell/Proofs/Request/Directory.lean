import LineShell.Proofs.Command.Outcome
import LineShell.Proofs.Command.Output
import LineShell.Proofs.Request.Basic
import LineShell.Sandbox
import Mathlib

/-! The directory that a shell remembers.  It is the working directory of the system, under the name
that the system had for it when the shell went there, as long as nothing outside the shell renames it. -/
namespace LineShell

/-- A change of the system's state: the shell went to another directory, or something outside the
shell was at work, a program or another process. -/
inductive Shift (σ : Type)
  | cd (host : σ)
  | outside (host : σ)

namespace Shift
variable {σ : Type} [Host σ]

/-- The shift that a command makes when it is called with these arguments.  Only a `cd` that the
system lets through makes one. -/
def ofCall? (s : State σ) : Builtin → List String → Option (Shift σ)
  | .cd, args => (Host.changeDir s.host (Builtin.destination s.env args)).toOption.map cd
  | .exit, _ | .pwd, _ | .help, _ | .echo, _ | .env, _ | .assign, _ | .remove, _
  | .history, _ => none

def ofWords? (s : State σ) (argv : List String) : Option (Shift σ) :=
  match argv with
  | [] => none
  | name :: _ =>
    match Builtin.ofName? name with
    | some b => ofCall? s b argv
    | none => some (outside (Host.launch s.host s.env argv).host)

def after (place : σ × String) : Shift σ → σ × String
  | cd host => (host, (Host.workingDir host).getD place.2)
  | outside host => (host, place.2)

end Shift

section Unmoved
variable {σ : Type} [Host σ]

/-- Nothing outside the shell renames the working directory: from one `cd` to the next the system has
no two names for it, though it may have none at times.  `known` is the name that it has had, if any. -/
def Unmoved : Option String → List (Shift σ) → Prop
  | _, [] => True
  | _, .cd host :: rest => Unmoved (Host.workingDir host) rest
  | known, .outside host :: rest =>
    (∀ dir ∈ known, ∀ now ∈ Host.workingDir host, now = dir) ∧
      Unmoved (known <|> Host.workingDir host) rest

/-- The name that the system had for the working directory when the shell last went to one; `named` is
that of the first. -/
def nameAtStop : Option String → List (Shift σ) → Option String
  | named, [] => named
  | _, .cd host :: rest => nameAtStop (Host.workingDir host) rest
  | named, .outside _ :: rest => nameAtStop named rest

/-- A name that the system had for the working directory when the shell went there is remembered, and
it is the only name that the system has had for it since. -/
def Coherent (known named : Option String) (place : σ × String) : Prop :=
  ∀ dir ∈ named, place.2 = dir ∧ known = some dir ∧ ∀ now ∈ Host.workingDir place.1, now = dir

theorem coherent_at_stop {host : σ} {dir : String}
    (h : ∀ now ∈ Host.workingDir host, dir = now) :
    Coherent (Host.workingDir host) (Host.workingDir host) (host, dir) := by
  intro now hnow
  refine ⟨h now hnow, hnow, fun other hother => ?_⟩
  rw [← h now hnow, h other hother]

theorem Coherent.outside {known named : Option String} {host host' : σ} {dir : String}
    (h : Coherent known named (host, dir))
    (hname : ∀ dir ∈ known, ∀ now ∈ Host.workingDir host', now = dir) :
    Coherent (known <|> Host.workingDir host') named (host', dir) := by
  intro now hnow
  obtain ⟨hdir, hknown, -⟩ := h now hnow
  exact ⟨hdir, by rw [hknown]; rfl, hname now hknown⟩

theorem Coherent.foldl_after {known named : Option String} {p : σ × String}
    (h : Coherent known named p) {shifts : List (Shift σ)} (hunmoved : Unmoved known shifts) :
    ∃ known', Coherent known' (nameAtStop named shifts) (shifts.foldl Shift.after p) := by
  induction shifts generalizing known named p with
  | nil => exact ⟨known, h⟩
  | cons shift rest ih =>
    cases shift with
    | cd host =>
      refine ih (p := (host, (Host.workingDir host).getD p.2)) (coherent_at_stop ?_) hunmoved
      intro now hnow
      rw [Option.mem_def.mp hnow]
      rfl
    | outside host => exact ih (p := (host, p.2)) (h.outside hunmoved.1) hunmoved.2

/-- Without a `cd` a name that the working directory has had is the only one it may have. -/
theorem foldl_after_of_no_cd {known : Option String} {p : σ × String} {shifts : List (Shift σ)}
    (hunmoved : Unmoved known shifts) (hcd : ∀ host, .cd host ∉ shifts) {dir : String}
    (hdir : dir ∈ known) (hnow : ∀ now ∈ Host.workingDir p.1, now = dir) :
    ∀ now ∈ Host.workingDir (shifts.foldl Shift.after p).1, now = dir := by
  induction shifts generalizing known p with
  | nil => exact hnow
  | cons shift rest ih =>
    have hrest (host : σ) : .cd host ∉ rest := fun hmem => hcd host (List.mem_cons_of_mem _ hmem)
    cases shift with
    | cd host => exact absurd List.mem_cons_self (hcd host)
    | outside host =>
      have hknown : dir ∈ (known <|> Host.workingDir host) := by
        rw [Option.mem_def.mp hdir]
        rfl
      exact ih (p := (host, p.2)) hunmoved.2 hrest hknown (hunmoved.1 dir hdir)

theorem snd_foldl_after {p : σ × String} {shifts : List (Shift σ)}
    (hcd : ∀ host, .cd host ∉ shifts) : (shifts.foldl Shift.after p).2 = p.2 := by
  induction shifts generalizing p with
  | nil => rfl
  | cons shift rest ih =>
    have hrest (host : σ) : .cd host ∉ rest := fun hmem => hcd host (List.mem_cons_of_mem _ hmem)
    cases shift with
    | cd host => exact absurd List.mem_cons_self (hcd host)
    | outside host => exact ih (p := (host, p.2)) hrest

end Unmoved

/-! The last name of a path. -/

theorem shortDir_of_last {dir : String} {before last : List Char}
    (h : dir.toList = before ++ '/' :: last) (hlast : '/' ∉ last) :
    shortDir dir = if before = [] then dir else String.ofList last := by
  have hplain : ∀ c ∈ last.reverse, (c != '/') = true := by
    intro c hc
    rw [bne_iff_ne]
    rintro rfl
    exact hlast (List.mem_reverse.mp hc)
  have hfinal : (dir.toList.reverse.takeWhile (· != '/')).reverse = last := by
    rw [h, List.reverse_append, List.reverse_cons, List.append_assoc,
      List.takeWhile_append_of_pos hplain]
    simp
  rw [shortDir, hfinal, h, List.length_append, List.length_cons]
  cases before with
  | nil => simp
  | cons c rest => simp

namespace Shell
variable {ω ε σ : Type} {s t u : Shell ω ε σ}

def place (s : Shell ω ε σ) : σ × String := (s.host, s.dir)

theorem place_of_toState (h : t.toState = s.toState) : t.place = s.place :=
  congrArg (fun state : State σ => (state.host, state.dir)) h

theorem place_runExit [Sink ω] (s : Shell ω ε σ) (args : List String) :
    (Builtin.runExit s args).2.place = s.place := by
  have hprint := place_of_toState (s.toState_print "Goodbye!\n")
  rw [Builtin.runExit]
  split
  · next heq => rwa [heq] at hprint
  · next heq =>
    rw [heq] at hprint
    split <;> exact hprint

variable [Host σ]

theorem coherent_start (env : Environment) (out : ω) (err : ε) (host : σ) :
    Coherent (Host.workingDir host) (Host.workingDir host) (start env out err host).place := by
  show Coherent _ _ (host, (Host.workingDir host).getD "/")
  refine coherent_at_stop fun now hnow => ?_
  rw [Option.mem_def.mp hnow]
  rfl

def Shifted (shifts : List (Shift σ)) (s t : Shell ω ε σ) : Prop :=
  t.place = shifts.foldl Shift.after s.place

namespace Shifted

theorem of_place (h : t.place = s.place) : Shifted [] s t := h

theorem trans {shifts shifts' : List (Shift σ)} (h : Shifted shifts s t)
    (h' : Shifted shifts' t u) : Shifted (shifts ++ shifts') s u := by
  rw [Shifted, h', h, List.foldl_append]

end Shifted

theorem shifted_runCd (s : Shell ω ε σ) (args : List String) :
    Shifted (Shift.ofCall? s.toState .cd args).toList s (Builtin.runCd s args).2 := by
  rw [Builtin.runCd, Shift.ofCall?]
  cases Host.changeDir s.host (Builtin.destination s.env args) with
  | error fault => exact .of_place rfl
  | ok host => rfl

theorem shifted_run [Sink ω] (b : Builtin) (s : Shell ω ε σ) (args : List String) :
    Shifted (Shift.ofCall? s.toState b args).toList s (b.run s args).2 := by
  cases b with
  | exit => exact place_runExit s args
  | cd => exact shifted_runCd s args
  | assign =>
    rw [Builtin.run, Builtin.runAssign]
    split
    · exact .of_place rfl
    · split <;> exact .of_place rfl
  | remove =>
    rw [Builtin.run, Builtin.runRemove]
    split
    · exact .of_place rfl
    · split <;> exact .of_place rfl
  | pwd | help | echo | env | history =>
    exact place_of_toState (Builtin.toState_runListing s _)

variable [Sink ε]

theorem place_runProgram (s : Shell ω ε σ) {argv : List String} (h : argv ≠ []) :
    (s.runProgram argv).2.place = ((Host.launch s.host s.env argv).host, s.dir) := by
  have hlaunch : (s.launch argv).2.place = ((Host.launch s.host s.env argv).host, s.dir) := by
    rw [launch_eq s h]
    rfl
  rw [runProgram]
  split
  · next heq => rwa [heq] at hlaunch
  · next heq =>
    rw [heq] at hlaunch
    split <;> exact hlaunch

variable [Sink ω]

theorem shifted_perform (s : Shell ω ε σ) (argv : List String) :
    Shifted (Shift.ofWords? s.toState argv).toList s (s.perform argv).2 := by
  cases argv with
  | nil => exact .of_place rfl
  | cons name args =>
    cases hb : Builtin.ofName? name with
    | none =>
      have hprogram := s.place_runProgram (List.cons_ne_nil name args)
      simp only [Shift.ofWords?, perform, hb]
      split <;> next heq =>
        rw [heq] at hprogram
        exact hprogram
    | some b =>
      have hrun := shifted_run b s (name :: args)
      simp only [Shift.ofWords?, perform, hb]
      split <;> next heq =>
        rw [heq] at hrun
        exact hrun

theorem shifted_typed (s : Shell ω ε σ) (line : String) :
    Shifted (Shift.ofWords? s.toState (words line)).toList s (s.typed line).2 := by
  rw [typed]
  by_cases h : words line = []
  · rw [h]
    exact .of_place rfl
  · rw [if_neg (by simpa using h)]
    exact shifted_perform (s.remember line) (words line)

/-- The shifts made by lines that are carried out one after another, up to one that ends the
session. -/
def shiftsOf (s : Shell ω ε σ) : List String → List (Shift σ)
  | [] => []
  | line :: rest =>
    (Shift.ofWords? s.toState (words line)).toList ++ match s.perform (words line) with
      | (.leave _, _) => []
      | (.proceed, s) => if s.running then s.shiftsOf rest else []

theorem shifted_source (s : Shell ω ε σ) {lines : List String}
    (hlines : ∀ line ∈ lines, StartupFile.isCommand line = true) :
    Shifted (s.shiftsOf lines) s (s.source lines).2 := by
  induction lines generalizing s with
  | nil => exact .of_place rfl
  | cons line rest ih =>
    have hfirst := shifted_perform s (words line)
    have hrest (t : Shell ω ε σ) := ih t fun l hl => hlines l (List.mem_cons_of_mem _ hl)
    rw [source_cons_of_isCommand (hlines line List.mem_cons_self), shiftsOf]
    cases hperform : s.perform (words line) with
    | mk next t =>
      rw [hperform] at hfirst
      cases next with
      | leave status => simpa using hfirst
      | proceed =>
        cases hrunning : t.running with
        | true => simpa [hrunning] using hfirst.trans (hrest t)
        | false => simpa [hrunning] using hfirst

theorem shifted_load (s : Shell ω ε σ) (file : StartupFile) :
    Shifted (s.shiftsOf (StartupFile.commands s.host (some file))) s (s.load file).2 := by
  rw [load_eq_read, StartupFile.commands, Option.map_some]
  cases hread : file.read s.host with
  | ok lines => exact shifted_source s (StartupFile.isCommand_of_mem_read hread)
  | error error => exact .of_place rfl

def shifts (s : Shell ω ε σ) : Request σ → List (Shift σ)
  | .line text => (Shift.ofWords? s.toState (words text)).toList
  | .perform argv => (Shift.ofWords? s.toState argv).toList
  | .call b args => (Shift.ofCall? s.toState b args).toList
  | .startup file => s.shiftsOf (StartupFile.commands s.host (some file))
  | .meanwhile host => [.outside host]

def shiftsAll (s : Shell ω ε σ) : List (Request σ) → List (Shift σ)
  | [] => []
  | request :: rest => s.shifts request ++ (s.serve request).2.shiftsAll rest

theorem shifted_serve (s : Shell ω ε σ) (request : Request σ) :
    Shifted (s.shifts request) s (s.serve request).2 := by
  cases request with
  | line text => exact shifted_typed s text
  | perform argv => exact shifted_perform s argv
  | call b args => exact shifted_run b s args
  | startup file => exact shifted_load s file
  | meanwhile host => rfl

theorem shifted_afterAll (s : Shell ω ε σ) (requests : List (Request σ)) :
    Shifted (s.shiftsAll requests) s (s.afterAll requests) := by
  induction requests generalizing s with
  | nil => exact .of_place rfl
  | cons request rest ih => exact (shifted_serve s request).trans (ih (s.serve request).2)

theorem outBytes_pwd (s : Shell ω ε σ) (args : List String) :
    (s.perform (Builtin.pwd.name :: args)).2.outBytes =
      s.outBytes ++ (Sink.offer s.out (utf8 (s.dir ++ "\n"))).taken (utf8 (s.dir ++ "\n")) := by
  have hprint := s.outBytes_print (s.dir ++ "\n")
  simp only [perform, Builtin.ofName?_name, Builtin.run, Builtin.runListing, printLines]
  cases hp : s.print (s.dir ++ "\n") with
  | mk fault t =>
    rw [hp] at hprint
    cases fault with
    | none => exact hprint
    | some fault => exact (outBytes_complain t _).trans hprint

/-- A shell that knows where it is: what it remembers is the working directory, `pwd` prints that,
and the prompt shows its last name, or all of it when its only slash comes first. -/
structure Oriented (s : Shell ω ε σ) : Prop where
  dir {dir : String} : Host.workingDir s.host = some dir → s.dir = dir
  pwd {dir : String} (args : List String) : Host.workingDir s.host = some dir →
    (s.perform (Builtin.pwd.name :: args)).2.outBytes =
      s.outBytes ++ (Sink.offer s.out (utf8 (dir ++ "\n"))).taken (utf8 (dir ++ "\n"))
  prompt {dir : String} {before last : List Char} : Host.workingDir s.host = some dir →
    dir.toList = before ++ '/' :: last → '/' ∉ last →
    s.prompt = "[shell:" ++ (if before = [] then dir else String.ofList last) ++ "]$ "

theorem oriented_of_name (h : ∀ dir ∈ Host.workingDir s.host, s.dir = dir) : Oriented s where
  dir hdir := h _ hdir
  pwd {dir} args hdir := by
    have hknown : s.dir = dir := h dir hdir
    rw [outBytes_pwd, hknown]
  prompt {dir before last} hdir hlast hplain := by
    have hknown : s.dir = dir := h dir hdir
    rw [Shell.prompt, hknown, shortDir_of_last hlast hplain]

def upland : Sandbox.Tree where
  nodes := #[.directory 0 [("d", 1)], .directory 0 [("e", 2)], .directory 1 []]

/-- A directory within another, after the inner one is removed. -/
def razed : Sandbox.Tree where
  nodes := #[.directory 0 [("d", 1)], .directory 0 [], .directory 1 []]

/-- A shell that starts in the outer directory. -/
def outset : Shell Limited Limited Sandbox := start {} {} {} { tree := upland, here := 1 }

/-- It goes to the inner directory, which is removed, stays there, fails to go elsewhere, and goes
back. -/
def wandering : List (Request Sandbox) :=
  [.call .cd ["cd", "e"], .meanwhile { tree := razed, here := 2 }, .call .cd ["cd", "."],
    .call .cd ["cd", "/f"], .call .cd ["cd", "/d"]]

/-- A system with a directory that can be entered, but not named until it is opened. -/
structure Gate where
  inside : Bool := false
  opened : Bool := false

instance : Host Gate where
  workingDir gate :=
    if gate.inside then if gate.opened then some "/cellar" else none else some "/"
  changeDir gate path :=
    if path = "/cellar" then .ok { gate with inside := true } else .error .noEntry
  readFile _ _ := .error .noEntry
  readDir _ _ := .error .noEntry
  stat _ _ := .error .noEntry
  launch gate _ _ := { outcome := .exited 0, host := { gate with opened := true } }

def locked : Shell Limited Limited Gate := start {} {} {} {}

def entering : List (Request Gate) := [.line "cd /cellar", .line "open"]

def brimful : Shell Limited Limited Gate := start {} { room := some 0 } {} {}

end Shell
end LineShell
