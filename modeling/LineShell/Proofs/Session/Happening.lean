import LineShell.Proofs.Command.Outcome
import LineShell.Session

/-! What a session meets with, and what can end it.  Happenings come one after another, first the
lines of the startup file and then what the readings bring. -/
namespace LineShell

/-- The prompt of an event that asks for a line. -/
def Event.prompt? : Event → Option String
  | .read prompt => some prompt
  | .out _ | .err _ | .launch _ _ | .signal _ => none

/-- The prompts that were shown, one for each line that was asked for. -/
def Shell.prompts {ω ε σ : Type} (s : Shell ω ε σ) : List String :=
  s.transcript.filterMap Event.prompt?

/-- What ends a session: a line that leaves the shell with a status, a line after which the shell no
longer runs, the end of the input, or trouble with reading. -/
inductive Ending
  | left (status : Int32)
  | stopped
  | inputOver
  | broken (error : ShellError)
  deriving DecidableEq, Repr

namespace Ending

def result : Ending → Except ShellError Int32
  | left status => .ok status
  | stopped | inputOver => .ok 0
  | broken error => .error error

/-- What is still written when a session ends so. -/
def farewell : Ending → List Event
  | inputOver => [.out (utf8 "\n")]
  | left _ | stopped | broken _ => []

def ofCommand {ω ε σ : Type} : Next × Shell ω ε σ → Option Ending
  | (.leave status, _) => some (left status)
  | (.proceed, s) => if s.running then none else some stopped

theorem running_of_ofCommand {ω ε σ : Type} {outcome : Next × Shell ω ε σ}
    (h : ofCommand outcome = none) : outcome.2.running = true := by
  obtain ⟨next, s⟩ := outcome
  cases next with
  | leave status => cases h
  | proceed =>
    rw [ofCommand] at h
    split at h
    · assumption
    · cases h

theorem eq_stopped {ω ε σ : Type} {s : Shell ω ε σ} {ending : Ending}
    (h : ofCommand (.proceed, s) = some ending) : ending = stopped := by
  rw [ofCommand] at h
  split at h <;> cases h
  rfl

/-- How words end a session by themselves, if they do. -/
def ofWords : List String → Option Ending
  | [] => none
  | name :: args =>
    if name = Builtin.exit.name then
      match args.head? with
      | some status => some (left (Int32.ofInt (leadingInt status)))
      | none => some stopped
    else none

section Command
variable {ω ε σ : Type} [Sink ω] [Sink ε] [Host σ] {s : Shell ω ε σ}

/-- For a shell that runs, and whose output never fails, the words alone decide. -/
theorem ofCommand_perform (hout : Sink.Reliable s.out) (hrun : s.running = true)
    (argv : List String) : ofCommand (s.perform argv) = ofWords argv := by
  cases argv with
  | nil => simp [Shell.perform, ofCommand, ofWords, hrun]
  | cons name args =>
    by_cases hname : name = Builtin.exit.name
    · obtain ⟨t, ht, hperform⟩ := Shell.perform_exit (Shell.takesGoodbye_of_reliable hout) args
      subst hname
      rw [hperform, ofWords, if_pos rfl]
      cases args with
      | nil => rfl
      | cons status rest => rfl
    · obtain ⟨t, hperform, ht⟩ := Shell.perform_of_ne_exit hname s args
      rw [hperform, ofWords, if_neg hname, ofCommand, ht, if_pos hrun]

theorem ofCommand_typed (hout : Sink.Reliable s.out) (hrun : s.running = true) (line : String) :
    ofCommand (s.typed line) = ofWords (words line) := by
  rw [Shell.typed]
  split
  · next hempty =>
    have hwords : words line = [] := List.isEmpty_iff.mp hempty
    rw [hwords, ofCommand, if_pos hrun]
    rfl
  · exact ofCommand_perform (s := s.remember line) hout hrun (words line)

end Command
end Ending

/-- A line of the startup file, or what comes of asking for a line. -/
inductive Happening
  | sourced (line : String)
  | read (reading : Reading)
  deriving DecidableEq, Repr

namespace Happening

/-- How a happening ends the session of a shell that runs, if it does. -/
def ending? : Happening → Option Ending
  | .sourced line => Ending.ofWords (words line)
  | .read r =>
    match r.reply with
    | .line text => Ending.ofWords (words text)
    | .interrupted => none
    | .endOfInput => some .inputOver
    | .failed error => some (.broken error)

/-- The end of the input comes back for ever. -/
def inputOver : Happening := .read { reply := .endOfInput }

def nth (lines : List String) (readings : List Reading) (n : Nat) : Happening :=
  ((lines.map sourced ++ readings.map read)[n]?).getD inputOver

@[simp] theorem nth_nil (n : Nat) : nth [] [] n = inputOver := rfl

@[simp] theorem nth_line_zero (line : String) (lines : List String) (readings : List Reading) :
    nth (line :: lines) readings 0 = sourced line := rfl

theorem nth_of_lt {lines : List String} (readings : List Reading) {n : Nat}
    (h : n < lines.length) : nth lines readings n = sourced lines[n] := by
  simp [nth, List.getElem?_append, h]

theorem nth_of_le {lines : List String} (readings : List Reading) {n : Nat}
    (h : lines.length ≤ n) : ∃ r, nth lines readings n = read r := by
  have hn : ¬ n < lines.length := by omega
  cases hr : readings[n - lines.length]? with
  | none => exact ⟨_, by simp [nth, List.getElem?_append, hn, hr, inputOver]; rfl⟩
  | some r => exact ⟨r, by simp [nth, List.getElem?_append, hn, hr]⟩

theorem nth_past (lines : List String) (readings : List Reading) :
    nth lines readings (lines.length + readings.length) = inputOver := by
  simp [nth]

end Happening

namespace Shell
variable {ω ε σ : Type} {s t : Shell ω ε σ}

theorem prompts_print [Sink ω] (s : Shell ω ε σ) (text : String) :
    (s.print text).2.prompts = s.prompts := by
  simp [prompts, print, note, Event.prompt?]

theorem prompts_complain [Sink ε] (s : Shell ω ε σ) (line : String) :
    (s.complain line).prompts = s.prompts := by
  simp [prompts, complain, note, Event.prompt?]

theorem prompts_afterLaunch (s : Shell ω ε σ) (argv : List String) (launched : Launched σ) :
    (s.afterLaunch argv launched).prompts = s.prompts := by
  simp [prompts, afterLaunch, Event.prompt?]

theorem prompts_note_read (s : Shell ω ε σ) (prompt : String) :
    (s.note (.read prompt)).prompts = s.prompts ++ [prompt] := by
  simp [prompts, note, Event.prompt?]

variable [Sink ω] [Sink ε]

theorem Change.prompts (h : Change s t) : t.prompts = s.prompts := by
  cases h with
  | print text => exact prompts_print s text
  | complain line => exact prompts_complain s line
  | launch _ launched => exact prompts_afterLaunch s _ launched
  | stop | move | bind => rfl

theorem Changes.prompts (h : Changes s t) : t.prompts = s.prompts :=
  h.keeps (P := fun u => u.prompts = s.prompts) (fun hchange hu => hchange.prompts.trans hu) rfl

variable [Host σ]

theorem reliable_typed (h : Sink.Reliable s.out) (line : String) :
    Sink.Reliable (s.typed line).2.out := by
  rcases changes_typed s line with hsame | hchanges
  · rwa [hsame]
  · exact hchanges.reliable h

theorem running_of_typed {line : String} (h : (s.typed line).2.running = true) :
    s.running = true := by
  rcases changes_typed s line with hsame | hchanges
  · rwa [hsame] at h
  · exact hchanges.running h

theorem prompts_typed (s : Shell ω ε σ) (line : String) :
    (s.typed line).2.prompts = s.prompts := by
  rcases changes_typed s line with hsame | hchanges
  · rw [hsame]
  · exact hchanges.prompts

end Shell

end LineShell
