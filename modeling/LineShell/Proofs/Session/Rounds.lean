import LineShell.Session

/-! A session put together from its pieces.  Each piece either ends the session or hands the shell
on to the next. -/
namespace LineShell.Session
variable {ω ε σ : Type}

/-- A piece of a session: where it leads from a shell. -/
abbrev Piece (ω ε σ : Type) : Type := Shell ω ε σ → Interrupt → Stage ω ε σ

namespace Stage

def shell : Stage ω ε σ → Shell ω ε σ
  | .finished ended => ended.shell
  | .ready s _ => s

/-- The interrupt and, of what is over, the result, with the shell. -/
def outcome : Stage ω ε σ → (Interrupt × Option (Except ShellError Int32)) × Shell ω ε σ
  | .finished ended => ((ended.interrupt, some ended.result), ended.shell)
  | .ready s i => ((i, none), s)

theorem snd_outcome (stage : Stage ω ε σ) : stage.outcome.2 = stage.shell := by cases stage <;> rfl

/-- What is over stays as it is; anything else goes on. -/
def andThen : Stage ω ε σ → Piece ω ε σ → Stage ω ε σ
  | .finished ended, _ => .finished ended
  | .ready s i, next => next s i

end Stage

/-- After something was written the session goes on, unless the output has refused it. -/
def onward (i : Interrupt) : Option Fault × Shell ω ε σ → Stage ω ε σ
  | (none, s) => .ready s i
  | (some fault, s) => .finished ⟨s, i, .error (.io fault)⟩

theorem shell_onward (i : Interrupt) (written : Option Fault × Shell ω ε σ) :
    (onward i written).shell = written.2 := by
  obtain ⟨_ | fault, s⟩ := written <;> rfl

variable [Sink ω]

/-- Prints a text, unless it is to be kept quiet. -/
def say (quiet : Bool) (text : String) : Piece ω ε σ := fun s i =>
  onward i (if quiet then (none, s) else s.print text)

/-- A prompt that follows an interrupt is moved to a fresh line. -/
def freshLine : Piece ω ε σ := fun s i =>
  onward i.take.2 (if i.take.1 then s.print "\n" else (none, s))

def prompted : Piece ω ε σ := fun s i =>
  (onward i s.flush).andThen fun s i => .ready (s.note (.read s.prompt)) i

def asking : Piece ω ε σ := fun s i => (freshLine s i).andThen prompted

theorem asking_eq (s : Shell ω ε σ) (i : Interrupt) :
    asking s i = match ask s i with
      | (some fault, s, i) => .finished ⟨s, i, .error (.io fault)⟩
      | (none, s, i) => .ready s i := by
  rw [asking, freshLine, ask]
  simp only
  cases if i.take.1 then s.print "\n" else (none, s) with
  | mk fault t =>
    cases fault with
    | some fault => rfl
    | none =>
      simp only [onward, Stage.andThen, prompted]
      cases t.flush with
      | mk fault u => cases fault <;> rfl

theorem ask_of_asking {s t : Shell ω ε σ} {i j : Interrupt} (h : asking s i = .ready t j) :
    ask s i = (none, t, j) := by
  rw [asking_eq] at h
  split at h
  · cases h
  · next hask =>
    cases h
    exact hask

theorem finished_endOfInput (s : Shell ω ε σ) (i : Interrupt) :
    .finished (endOfInput s i) = (say false "\n" s i).andThen fun s i => .finished (leave s i 0) := by
  rw [endOfInput, say, if_neg (by simp)]
  cases s.print "\n" with
  | mk fault t => cases fault <;> rfl

variable [Sink ε] [Host σ]

def respond (quiet : Bool) (s : Shell ω ε σ) (i : Interrupt) : Reply → Stage ω ε σ
  | .line text =>
    match s.typed text with
    | (.leave status, s) => .finished (leave s i status)
    | (.proceed, s) => .ready (heed s i).1 (heed s i).2
  | .interrupted => say quiet (interruptHint ++ "\n") s i
  | .endOfInput => .finished (endOfInput s i)
  | .failed error => .finished ⟨s, i, .error error⟩

def round (quiet : Bool) (reading : Reading) : Piece ω ε σ := fun s i =>
  if s.running then
    (asking s i).andThen fun s i => respond quiet s (i.raiseIf reading.raises) reading.reply
  else .finished (leave s i 0)

/-- Where a session stands after it has read so much. -/
def upTo (quiet : Bool) (file? : Option StartupFile) (readings : List Reading) : Piece ω ε σ :=
  fun s i => (start quiet file? s i).andThen (converse quiet readings)

def begin (quiet : Bool) (file? : Option StartupFile) : Piece ω ε σ := fun s i =>
  match startUp quiet s file? with
  | (.leave status, s) => .finished ⟨(heed s i).1, (heed s i).2, .ok status⟩
  | (.proceed, s) => .ready (heed s i).1 (heed s i).2

theorem start_eq (quiet : Bool) (file? : Option StartupFile) (s : Shell ω ε σ) (i : Interrupt) :
    start quiet file? s i = (say quiet (banner ++ "\n") s i).andThen (begin quiet file?) := by
  rw [start, say]
  cases if quiet then (none, s) else s.print (banner ++ "\n") with
  | mk fault t => cases fault <;> rfl

theorem converse_cons (quiet : Bool) (reading : Reading) (rest : List Reading) (s : Shell ω ε σ)
    (i : Interrupt) : converse quiet (reading :: rest) s i =
      (round quiet reading s i).andThen (converse quiet rest) := by
  rw [converse, round]
  cases s.running with
  | false => rfl
  | true =>
    simp only [if_true, asking_eq]
    rcases ask s i with ⟨fault, t, j⟩
    cases fault with
    | some fault => rfl
    | none =>
      simp only [Stage.andThen, respond]
      cases reading.reply with
      | line text =>
        dsimp only
        rcases t.typed text with ⟨_ | status, u⟩ <;> rfl
      | interrupted =>
        simp only [say]
        cases if quiet then (none, t) else t.print (interruptHint ++ "\n") with
        | mk fault u => cases fault <;> rfl
      | endOfInput | failed => rfl

theorem finished_close (quiet : Bool) (s : Shell ω ε σ) (i : Interrupt) :
    .finished (close s i) = round quiet { reply := .endOfInput } s i := by
  rw [close, round]
  cases s.running with
  | false => rfl
  | true =>
    simp only [if_true, asking_eq]
    rcases ask s i with ⟨fault, t, j⟩
    cases fault <;> rfl

theorem finished_run (quiet : Bool) (file? : Option StartupFile) (readings : List Reading)
    (s : Shell ω ε σ) (i : Interrupt) : .finished (run quiet file? readings s i) =
      (upTo quiet file? readings s i).andThen fun s i => .finished (close s i) := by
  rw [run, upTo]
  cases start quiet file? s i with
  | finished ended => rfl
  | ready t j =>
    simp only [talk, Stage.andThen]
    cases converse quiet readings t j <;> rfl

end LineShell.Session
