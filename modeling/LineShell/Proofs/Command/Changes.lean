import LineShell.Startup
import Mathlib.Logic.Relation

/-! What commands can do to a shell, said once.  Whatever is carried out comes down to six single
changes; a property that each of them keeps is kept by every command and by every startup file. -/
namespace LineShell

/-- A listing prints its lines and does nothing else. -/
theorem Builtin.snd_runListing {ω ε σ : Type} [Sink ω] (s : Shell ω ε σ) (lines : List String) :
    (runListing s lines).2 = (s.printLines lines).2 := by
  rw [runListing]
  split <;> next heq => rw [heq]

namespace Shell
variable {ω ε σ : Type}

theorem foldl_note_signal (numbers : List Nat) (s : Shell ω ε σ) :
    numbers.foldl (fun s n => s.note (.signal n)) s =
      { s with transcript := s.transcript ++ numbers.map .signal } := by
  induction numbers generalizing s with
  | nil => simp
  | cons n rest ih =>
    rw [List.foldl_cons, ih]
    simp [note]

/-- The shell after a program was launched and had ended. -/
def afterLaunch (s : Shell ω ε σ) (argv : List String) (launched : Launched σ) : Shell ω ε σ :=
  { s with
    host := launched.host
    signals := s.signals ++ launched.signals
    transcript :=
      s.transcript ++ .launch argv launched.printed :: launched.signals.map .signal }

theorem launch_eq [Host σ] (s : Shell ω ε σ) {argv : List String} (h : argv ≠ []) :
    s.launch argv = ((Host.launch s.host s.env argv).outcome.status,
      s.afterLaunch argv (Host.launch s.host s.env argv)) := by
  have hempty : argv.isEmpty = false := by simpa using h
  rw [launch, if_neg (by simp [hempty])]
  simp only [foldl_note_signal]
  simp [note, afterLaunch]

section Change
variable [Sink ω] [Sink ε]

/-- A single change: a text is printed, a line is shown to the user, the shell stops running, it
moves, its environment is rebound, or a program is run. -/
inductive Change : Shell ω ε σ → Shell ω ε σ → Prop
  | print (s : Shell ω ε σ) (text : String) : Change s (s.print text).2
  | complain (s : Shell ω ε σ) (line : String) : Change s (s.complain line)
  | stop (s : Shell ω ε σ) : Change s { s with running := false }
  | move (s : Shell ω ε σ) (host : σ) (dir : String) : Change s { s with host, dir }
  | bind (s : Shell ω ε σ) (env : Environment) : Change s { s with env }
  | launch (s : Shell ω ε σ) {argv : List String} (h : argv ≠ []) (launched : Launched σ) :
    Change s (s.afterLaunch argv launched)

abbrev Changes : Shell ω ε σ → Shell ω ε σ → Prop := Relation.ReflTransGen Change

/-- What every change keeps is kept by any number of them. -/
theorem Changes.keeps {P : Shell ω ε σ → Prop} (hP : ∀ {s t}, Change s t → P s → P t)
    {s t : Shell ω ε σ} (h : Changes s t) (hs : P s) : P t := by
  induction h with
  | refl => exact hs
  | tail _ hlast ih => exact hP hlast ih

theorem Change.history {s t : Shell ω ε σ} (h : Change s t) : t.history = s.history := by
  cases h <;> rfl

theorem Changes.history {s t : Shell ω ε σ} (h : Changes s t) : t.history = s.history :=
  h.keeps (P := fun u => u.history = s.history) (fun hchange hu => hchange.history.trans hu) rfl

theorem Change.running {s t : Shell ω ε σ} (h : Change s t) (ht : t.running = true) :
    s.running = true := by
  cases h with
  | stop => exact absurd ht (by simp)
  | print | complain | move | bind | launch => exact ht

/-- Nothing sets a stopped shell running again. -/
theorem Changes.running {s t : Shell ω ε σ} (h : Changes s t) (ht : t.running = true) :
    s.running = true :=
  h.keeps (P := fun u => u.running = true → s.running = true)
    (fun hchange hu ht => hu (hchange.running ht)) id ht

/-! Every command comes down to single changes. -/

theorem changes_printLines (s : Shell ω ε σ) (lines : List String) :
    Changes s (s.printLines lines).2 := by
  induction lines generalizing s with
  | nil => exact .refl
  | cons line rest ih =>
    have hfirst : Change s (s.print (line ++ "\n")).2 := .print s _
    rw [printLines]
    split
    · next t h =>
      rw [h] at hfirst
      exact .head hfirst (ih t)
    · next fault t h =>
      rw [h] at hfirst
      exact .single hfirst

theorem changes_printLines_cons (s : Shell ω ε σ) (line : String) (rest : List String) :
    Changes (s.print (line ++ "\n")).2 (s.printLines (line :: rest)).2 := by
  rw [printLines]
  cases s.print (line ++ "\n") with
  | mk fault t =>
    cases fault with
    | none => exact changes_printLines t rest
    | some fault => exact .refl

theorem changes_runListing (s : Shell ω ε σ) (lines : List String) :
    Changes s (Builtin.runListing s lines).2 := by
  rw [Builtin.snd_runListing]
  exact changes_printLines s lines

theorem changes_goodbye (s : Shell ω ε σ) (args : List String) :
    Changes (s.print "Goodbye!\n").2 (Builtin.runExit s args).2 := by
  rw [Builtin.runExit]
  cases s.print "Goodbye!\n" with
  | mk fault t =>
    cases fault with
    | some fault => exact .refl
    | none =>
      cases args[1]? with
      | some status => exact .refl
      | none => exact .single (.stop t)

theorem changes_runExit (s : Shell ω ε σ) (args : List String) :
    Changes s (Builtin.runExit s args).2 :=
  .head (.print s _) (changes_goodbye s args)

theorem changes_runAssign (s : Shell ω ε σ) (args : List String) :
    Changes s (Builtin.runAssign s args).2 := by
  rw [Builtin.runAssign]
  split
  · exact .refl
  · split
    · exact .refl
    · next bound _ => exact .single (.bind s bound)

theorem changes_runRemove (s : Shell ω ε σ) (args : List String) :
    Changes s (Builtin.runRemove s args).2 := by
  rw [Builtin.runRemove]
  split
  · exact .refl
  · split
    · exact .refl
    · next bound _ => exact .single (.bind s bound)

variable [Host σ]

theorem changes_runCd (s : Shell ω ε σ) (args : List String) :
    Changes s (Builtin.runCd s args).2 := by
  rw [Builtin.runCd]
  split
  · exact .refl
  · next host _ => exact .single (.move s host _)

theorem changes_run (b : Builtin) (s : Shell ω ε σ) (args : List String) :
    Changes s (b.run s args).2 := by
  cases b with
  | exit => exact changes_runExit s args
  | cd => exact changes_runCd s args
  | assign => exact changes_runAssign s args
  | remove => exact changes_runRemove s args
  | pwd | help | echo | env | history => exact changes_runListing s _

theorem changes_launch (s : Shell ω ε σ) (argv : List String) :
    Changes s (s.launch argv).2 := by
  by_cases h : argv = []
  · subst h
    exact .refl
  · rw [launch_eq s h]
    exact .single (.launch s h _)

theorem changes_runProgram (s : Shell ω ε σ) (argv : List String) :
    Changes s (s.runProgram argv).2 := by
  have hlaunch := changes_launch s argv
  rw [runProgram]
  split
  · next heq => rw [heq] at hlaunch; exact hlaunch
  · next status t heq =>
    rw [heq] at hlaunch
    split
    · exact hlaunch
    · next line _ => exact hlaunch.tail (.complain t line)

/-- After a command of its own the shell has at most a failure to tell of. -/
theorem changes_told {name : String} {b : Builtin} (hb : Builtin.ofName? name = some b)
    (s : Shell ω ε σ) (args : List String) :
    Changes (b.run s (name :: args)).2 (s.perform (name :: args)).2 := by
  simp only [perform, hb]
  cases b.run s (name :: args) with
  | mk answer t =>
    cases answer with
    | ok next => exact .refl
    | error error => exact .single (.complain t _)

/-- Carrying out words comes down to single changes. -/
theorem changes_perform (s : Shell ω ε σ) (argv : List String) :
    Changes s (s.perform argv).2 := by
  cases argv with
  | nil => exact .refl
  | cons name args =>
    cases hb : Builtin.ofName? name with
    | some b => exact (changes_run b s (name :: args)).trans (changes_told hb s args)
    | none =>
      have hrun := changes_runProgram s (name :: args)
      simp only [perform, hb]
      split
      · next heq => rw [heq] at hrun; exact hrun
      · next error t heq =>
        rw [heq] at hrun
        exact hrun.tail (.complain t _)

/-- A typed line is recorded if it has words, and then comes down to single changes. -/
theorem changes_typed (s : Shell ω ε σ) (line : String) :
    (s.typed line).2 = s ∨ Changes (s.remember line) (s.typed line).2 := by
  rw [typed]
  split
  · exact .inl rfl
  · exact .inr (changes_perform _ _)

theorem changes_source (s : Shell ω ε σ) (lines : List String) :
    Changes s (s.source lines).2 := by
  induction lines generalizing s with
  | nil => exact .refl
  | cons line rest ih =>
    have hperform := changes_perform s (words line)
    rw [source]
    split
    · exact ih s
    · split
      · next heq => rw [heq] at hperform; exact hperform
      · next t heq =>
        rw [heq] at hperform
        split
        · exact hperform.trans (ih t)
        · exact hperform

/-- What becomes of the other lines once one has been carried out. -/
theorem changes_source_cons {line : String} (h : (isComment line || (words line).isEmpty) = false)
    (s : Shell ω ε σ) (rest : List String) :
    Changes (s.perform (words line)).2 (s.source (line :: rest)).2 := by
  rw [source, h, if_neg (by simp)]
  cases s.perform (words line) with
  | mk next t =>
    cases next with
    | leave status => exact .refl
    | proceed =>
      simp only
      split
      · exact changes_source t rest
      · exact .refl

theorem changes_load (s : Shell ω ε σ) (file : StartupFile) :
    Changes s (s.load file).2 := by
  rw [load]
  split
  · split
    · exact changes_source s _
    · exact .refl
  · split
    · split <;> exact .refl
    · exact .refl

end Change
end Shell
end LineShell
