import LineShell.Proofs.Command.Complaints
import LineShell.Sandbox
import Mathlib.Tactic.Tauto

/-! The programs that a shell launches.  Words are handed to the launcher as they stand when the first
of them names no command of the shell's own, and of what became of the program the user is told at most
one line. -/
namespace LineShell

namespace Builtin

def names : List String :=
  ["exit", "cd", "pwd", "help", "echo", "env", "export", "unset", "history"]

theorem ofName?_eq_none_iff {name : String} : ofName? name = none ↔ name ∉ names := by
  have hnames : names = all.map Builtin.name := rfl
  simp [hnames, ofName?]

end Builtin

def Event.launch? : Event → Option (List String × Printed)
  | .launch argv printed => some (argv, printed)
  | .out _ | .err _ | .signal _ | .read _ => none

/-- The refusals that are about the program to be run, by kind or by number: it is of a wrong format, on
its path there is something that is no directory, it is a directory, its name is too long, or there are
too many links. -/
def Fault.NotRunnable (fault : Fault) : Prop :=
  fault.kind ∈ [FaultKind.notFound, .permissionDenied, .invalidInput] ∨
    fault ∈ [Fault.os 8, .os 20, .os 21, .os 36, .os 40]

instance (fault : Fault) : Decidable fault.NotRunnable := inferInstanceAs (Decidable (_ ∨ _))

theorem Fault.isAboutProgram_iff (fault : Fault) :
    fault.isAboutProgram = true ↔ fault.NotRunnable := by
  simp [isAboutProgram, NotRunnable, badFormat, notDirectory, isDirectory, nameTooLong, tooManyLinks]
  tauto

namespace Outcome

/-- What the user is told of a program that was to be run under a name. -/
def told (name : String) : Outcome → List String
  | .exited _ => []
  | .signaled number => ["Process terminated by signal " ++ toString number]
  | .refused fault =>
    if fault.NotRunnable then ["shell: " ++ name ++ ": command not found"]
    else ["shell: spawn: " ++ fault.message]
  | .lost fault => ["shell: waitpid: " ++ fault.message]

/-- What the status and the error of a program tell the user is just that. -/
theorem told_eq (name : String) (outcome : Outcome) :
    outcome.told name = match outcome.status with
      | .ok status => (status.report? name).toList
      | .error error => [(CommandError.process error).message] := by
  cases outcome with
  | exited code => rfl
  | signaled number => rfl
  | lost fault =>
    simp [told, status, CommandError.message, ProcessError.message, ← String.append_assoc]
  | refused fault =>
    rw [told, status]
    by_cases h : fault.NotRunnable
    · rw [if_pos h, if_pos (fault.isAboutProgram_iff.mpr h)]
      rfl
    · rw [if_neg h, if_neg (mt fault.isAboutProgram_iff.mp h)]
      simp [CommandError.message, ProcessError.message, ← String.append_assoc]

/-- The code that is reported for a program: none if a signal ended it. -/
theorem code?_eq_none_iff {outcome : Outcome} {status : Status} (h : outcome.status = .ok status) :
    status.code? = none ↔ ∃ number, outcome = .signaled number := by
  cases outcome with
  | exited code => cases h; simp [Status.code?]
  | signaled number => cases h; simp [Status.code?]
  | lost fault => cases h
  | refused fault =>
    rw [Outcome.status] at h
    split at h <;> cases h
    simp [Status.code?]

theorem told_eq_nil_or_singleton (name : String) (outcome : Outcome) :
    outcome.told name = [] ∨ ∃ line, outcome.told name = [line] := by
  cases outcome with
  | exited code => exact .inl rfl
  | signaled number => exact .inr ⟨_, rfl⟩
  | lost fault => exact .inr ⟨_, rfl⟩
  | refused fault =>
    rw [told]
    split <;> exact .inr ⟨_, rfl⟩

end Outcome

namespace Shell
variable {ω ε σ : Type} {s : Shell ω ε σ}

def launches (s : Shell ω ε σ) : List (List String × Printed) :=
  s.transcript.filterMap Event.launch?

theorem launches_afterLaunch (s : Shell ω ε σ) (argv : List String) (launched : Launched σ) :
    (s.afterLaunch argv launched).launches = s.launches ++ [(argv, launched.printed)] := by
  simp [launches, afterLaunch, Event.launch?]

theorem launches_print [Sink ω] (s : Shell ω ε σ) (text : String) :
    (s.print text).2.launches = s.launches := by
  simp [launches, print, note, Event.launch?]

theorem launches_printLines [Sink ω] (s : Shell ω ε σ) (lines : List String) :
    (s.printLines lines).2.launches = s.launches := by
  induction lines generalizing s with
  | nil => rfl
  | cons line rest ih =>
    have hfirst := launches_print s (line ++ "\n")
    rw [printLines]
    split
    · next t h =>
      rw [h] at hfirst
      exact (ih t).trans hfirst
    · next fault t h => rwa [h] at hfirst

theorem launches_runListing [Sink ω] (s : Shell ω ε σ) (lines : List String) :
    (Builtin.runListing s lines).2.launches = s.launches := by
  rw [Builtin.snd_runListing, launches_printLines]

theorem launches_runExit [Sink ω] (s : Shell ω ε σ) (args : List String) :
    (Builtin.runExit s args).2.launches = s.launches := by
  have hprint := launches_print s "Goodbye!\n"
  rw [Builtin.runExit]
  split
  · next h => rwa [h] at hprint
  · next h =>
    rw [h] at hprint
    split <;> exact hprint

theorem launches_run [Sink ω] [Host σ] (b : Builtin) (s : Shell ω ε σ) (args : List String) :
    (b.run s args).2.launches = s.launches := by
  cases b with
  | exit => exact launches_runExit s args
  | cd =>
    rw [Builtin.run, Builtin.runCd]
    split <;> rfl
  | assign =>
    rw [Builtin.run, Builtin.runAssign]
    split
    · rfl
    · split <;> rfl
  | remove =>
    rw [Builtin.run, Builtin.runRemove]
    split
    · rfl
    · split <;> rfl
  | pwd | help | echo | env | history => exact launches_runListing s _

theorem launches_complain [Sink ε] (s : Shell ω ε σ) (line : String) :
    (s.complain line).launches = s.launches := by
  simp [launches, complain, note, Event.launch?]

theorem launches_foldl_complain [Sink ε] (s : Shell ω ε σ) (lines : List String) :
    (lines.foldl complain s).launches = s.launches :=
  foldl_complain_eq launches_complain s lines

variable [Sink ε] [Host σ]

theorem runProgram_eq (s : Shell ω ε σ) {argv : List String} (h : argv ≠ []) :
    s.runProgram argv = ((Host.launch s.host s.env argv).outcome.status,
      match (Host.launch s.host s.env argv).outcome.status with
      | .ok status => (status.report? (argv.headD "")).toList.foldl complain
          (s.afterLaunch argv (Host.launch s.host s.env argv))
      | .error _ => s.afterLaunch argv (Host.launch s.host s.env argv)) := by
  rw [runProgram, launch_eq s h]
  cases (Host.launch s.host s.env argv).outcome.status with
  | error error => rfl
  | ok status =>
    simp only
    cases status.report? (argv.headD "") <;> rfl

variable [Sink ω]

/-- A word that names no command of the shell's own is the name of a program. -/
theorem perform_program {name : String} (h : Builtin.ofName? name = none) (s : Shell ω ε σ)
    (args : List String) : s.perform (name :: args) = (.proceed,
      ((Host.launch s.host s.env (name :: args)).outcome.told name).foldl complain
        (s.afterLaunch (name :: args) (Host.launch s.host s.env (name :: args)))) := by
  simp only [perform, h, runProgram_eq s (List.cons_ne_nil name args), Outcome.told_eq]
  cases (Host.launch s.host s.env (name :: args)).outcome.status with
  | error error => rfl
  | ok status => rfl

theorem launches_perform (s : Shell ω ε σ) (name : String) (args : List String) :
    (s.perform (name :: args)).2.launches = s.launches ++ if name ∈ Builtin.names then [] else
      [(name :: args, (Host.launch s.host s.env (name :: args)).printed)] := by
  cases hb : Builtin.ofName? name with
  | none =>
    rw [perform_program hb, if_neg (Builtin.ofName?_eq_none_iff.mp hb), launches_foldl_complain,
      launches_afterLaunch]
  | some b =>
    have hname : name ∈ Builtin.names := by
      apply Decidable.byContradiction
      intro hnone
      rw [Builtin.ofName?_eq_none_iff.mpr hnone] at hb
      cases hb
    have hlaunches := launches_run b s (name :: args)
    rw [if_pos hname, List.append_nil]
    simp only [perform, hb]
    split
    · next h => rwa [h] at hlaunches
    · next h =>
      rw [h] at hlaunches
      exact (launches_complain _ _).trans hlaunches

/-- Words whose first names no command of the shell's own are handed to the launcher once, and that is
all that happens, but for what the user is told. -/
structure Entrusted (s : Shell ω ε σ) (name : String) (args : List String)
    (launched : Launched σ) : Prop where
  proceeds : (s.perform (name :: args)).1 = .proceed
  shell : (s.perform (name :: args)).2 =
    (launched.outcome.told name).foldl complain (s.afterLaunch (name :: args) launched)
  state : (s.perform (name :: args)).2.toState = { s.toState with host := launched.host }
  out : (s.perform (name :: args)).2.out = s.out ∧
    (s.perform (name :: args)).2.outBytes = s.outBytes
  /-- An error stream that takes what the user is told gets it with a newline, and nothing else. -/
  err : (∀ line ∈ launched.outcome.told name,
      (Sink.offer s.err (utf8 (line ++ "\n"))).fault? = none) →
    (s.perform (name :: args)).2.errBytes =
      s.errBytes ++ (launched.outcome.told name).flatMap fun line => utf8 (line ++ "\n")

theorem entrusted {name : String} (h : name ∉ Builtin.names) (s : Shell ω ε σ)
    (args : List String) : Entrusted s name args (Host.launch s.host s.env (name :: args)) := by
  have hperform := perform_program (Builtin.ofName?_eq_none_iff.mpr h) s args
  have htold := (Host.launch s.host s.env (name :: args)).outcome.told_eq_nil_or_singleton name
  generalize Host.launch s.host s.env (name :: args) = launched at hperform htold
  refine ⟨congrArg Prod.fst hperform, congrArg Prod.snd hperform, ?_, ?_, ?_⟩
  · rw [hperform]
    exact toState_foldl_complain _ _
  · rw [hperform]
    exact ⟨out_foldl_complain _ _,
      (outBytes_foldl_complain _ _).trans (outBytes_afterLaunch s (name :: args) launched)⟩
  · intro htakes
    rw [hperform, ← errBytes_afterLaunch s (name :: args) launched]
    rcases htold with hnone | ⟨line, hline⟩
    · simp [hnone]
    · rw [hline, List.flatMap_singleton]
      exact errBytes_complain_of_takes (htakes line (by simp [hline]))

/-- A program is launched if and only if the first word is none of the shell's own, and then once and
with all the words as they stand.  The session goes on, nothing but the system has changed, and the user
is told what there is to tell.  A status has no code just when a signal ended the program, and the code
is 127 when there was none to run. -/
theorem perform_launches (s : Shell ω ε σ) (name : String) (args : List String) :
    let launched : Launched σ := Host.launch s.host s.env (name :: args)
    (s.perform (name :: args)).2.launches = s.launches ++
        (if name ∈ Builtin.names then [] else [(name :: args, launched.printed)]) ∧
      (name ∉ Builtin.names → Entrusted s name args launched) ∧
      (∀ status, (s.runProgram (name :: args)).1 = .ok status →
        (status.code? = none ↔ ∃ number, launched.outcome = .signaled number)) ∧
      (∀ fault, launched.outcome = .refused fault → fault.NotRunnable →
        ∃ status, (s.runProgram (name :: args)).1 = .ok status ∧ status.code? = some 127) := by
  intro launched
  have hrun : (s.runProgram (name :: args)).1 = launched.outcome.status := by
    rw [runProgram_eq s (List.cons_ne_nil name args)]
  refine ⟨?_, fun h => entrusted h s args, ?_, ?_⟩
  · exact launches_perform s name args
  · intro status hstatus
    exact Outcome.code?_eq_none_iff (hrun.symm.trans hstatus)
  · intro fault hfault hrunnable
    refine ⟨.notFound, ?_, rfl⟩
    rw [hrun, hfault, Outcome.status, if_pos (fault.isAboutProgram_iff.mpr hrunnable)]

def unequipped : Shell Limited Limited Sandbox where
  dir := "/"
  host := {}
  out := {}
  err := {}

/-- Words that no program can be given count as the name of one that is not there. -/
theorem perform_launches_unequipped :
    (Host.launch unequipped.host unequipped.env ["Exit", "\x00"]).outcome =
        .refused .nulInArgument ∧
      Fault.nulInArgument.NotRunnable ∧ "Exit" ∉ Builtin.names ∧
      (unequipped.perform ["Exit", "\x00"]).2.launches = [(["Exit", "\x00"], {})] ∧
      (unequipped.perform ["Exit", "\x00"]).2.running = true ∧
      (unequipped.perform ["Exit", "\x00"]).2.errBytes = utf8 "shell: Exit: command not found\n" ∧
      ∃ status, (unequipped.runProgram ["Exit", "\x00"]).1 = .ok status ∧
        status.code? = some 127 ∧ (status.code? = none ↔ ∃ number,
          (Host.launch unequipped.host unequipped.env ["Exit", "\x00"]).outcome =
            .signaled number) := by
  have hlaunch : Host.launch unequipped.host unequipped.env ["Exit", "\x00"] =
      { outcome := .refused .nulInArgument, host := {} } := by rfl
  have hfault : Fault.nulInArgument.NotRunnable := by decide
  have hname : "Exit" ∉ Builtin.names := by decide
  have htold : (Outcome.refused .nulInArgument).told "Exit" =
      ["shell: Exit: command not found"] := by decide
  have htakes : Sink.Reliable unequipped.err := Limited.reliable rfl
  obtain ⟨hlaunches, hentrusted, hcode, hmissing⟩ := perform_launches unequipped "Exit" ["\x00"]
  rw [if_neg hname] at hlaunches
  have hrun := hentrusted hname
  have herr := hrun.err fun line _ => htakes.offer_fault? _
  simp only [hlaunch, htold] at hlaunches herr
  have houtcome := congrArg Launched.outcome hlaunch
  obtain ⟨status, hstatus, h127⟩ := hmissing .nulInArgument houtcome hfault
  exact ⟨houtcome, hfault, hname, hlaunches, congrArg State.running hrun.state, herr, status,
    hstatus, h127, hcode status hstatus⟩

end Shell
end LineShell
