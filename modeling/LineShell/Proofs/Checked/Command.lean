import LineShell.Proofs.Checked.Integer
import LineShell.Proofs.Checked.Line
import LineShell.Startup

/-! Everything that is done for the user, with each step that need not have an answer written out as
such.  None of them is given what it has no answer for, so all comes out as in the shell itself. -/
namespace LineShell.Checked

/-! Variables, as the system keeps them. -/

/-- A name has bytes, and neither an equals sign nor a NUL is among them. -/
def admits (name : String) : Bool :=
  !(utf8 name).isEmpty && !(utf8 name).contains 61 && !(utf8 name).contains 0

def setVariable (env : Environment) (name value : String) : Checked Environment :=
  if admits name && !(utf8 value).contains 0 then
    return ⟨Environment.put name value env.bindings⟩
  else .error (.binding name)

def removeVariable (env : Environment) (name : String) : Checked Environment :=
  if admits name then return ⟨env.bindings.filter (·.1 != name)⟩ else .error (.binding name)

def assign (env : Environment) (name value : String) : Checked (Except EnvError Environment) :=
  if !isName name then return .error (.invalidName name)
  else if !isValue value then return .error .nulInValue
  else do
    let bound ← setVariable env name value
    return .ok bound

def remove (env : Environment) (name : String) : Checked (Except EnvError Environment) :=
  if !isName name then return .error (.invalidName name)
  else do
    let bound ← removeVariable env name
    return .ok bound

theorem contains_byte {c : Char} (h : c.toNat < 128) (text : String) :
    (utf8 text).contains (UInt8.ofNat c.toNat) = text.toList.contains c := by
  rw [Bool.eq_iff_iff, List.contains_iff_mem, List.contains_iff_mem, mem_utf8_iff h]

/-- What is asked of the characters of a name is asked of its bytes. -/
theorem admits_eq_isName (name : String) : admits name = isName name := by
  have hequals : (utf8 name).contains 61 = name.toList.contains '=' :=
    contains_byte (c := '=') (by decide) name
  have hnul : (utf8 name).contains 0 = name.toList.contains nul :=
    contains_byte (c := nul) (by decide) name
  have hempty : (utf8 name).isEmpty = name.isEmpty := by
    rw [Bool.eq_iff_iff, List.isEmpty_iff, utf8_eq_nil_iff, String.isEmpty_iff]
  rw [admits, isName, hequals, hnul, hempty]

theorem assign_eq (env : Environment) (name value : String) :
    assign env name value = .ok (env.assign name value) := by
  have hnul : (utf8 value).contains 0 = value.toList.contains nul :=
    contains_byte (c := nul) (by decide) value
  rw [assign, Environment.assign, setVariable, admits_eq_isName, hnul, ← isValue]
  cases isName name <;> cases isValue value <;> rfl

theorem remove_eq (env : Environment) (name : String) :
    remove env name = .ok (env.remove name) := by
  rw [remove, Environment.remove, removeVariable, admits_eq_isName]
  cases isName name <;> rfl

/-! The window of the log. -/

def skipped (size : Nat) : Option Int → Checked Nat
  | some count =>
    if 0 < count && count < size then difference size count.toNat else return 0
  | none => return 0

def numbered (h : History) (count : Option Int) : Checked (List (Nat × String)) := do
  let skipped ← skipped h.lines.length count
  return ((h.lines.zipIdx 1).map fun e => (e.2, e.1)).drop skipped

theorem skipped_eq (h : History) (count : Option Int) :
    skipped h.lines.length count = .ok (h.skipped count) := by
  cases count with
  | none => rfl
  | some count =>
    rw [skipped, History.skipped]
    split
    · next hwithin =>
      have hbounds : 0 < count ∧ count < h.lines.length := by simpa using hwithin
      exact difference_of_le (by omega)
    · rfl

theorem numbered_eq (h : History) (count : Option Int) :
    numbered h count = .ok (h.numbered count) := by
  rw [numbered, skipped_eq, History.numbered]
  rfl

/-! The shell's own commands. -/

section Builtin
variable {ω ε σ : Type}

def runExit [Sink ω] (s : Shell ω ε σ) (args : List String) :
    Checked (Except CommandError Next × Shell ω ε σ) :=
  match s.print "Goodbye!\n" with
  | (some fault, s) => return (.error (.write fault), s)
  | (none, s) =>
    match args[1]? with
    | none => return (.ok .proceed, { s with running := false })
    | some status => do
      let status ← leadingInt status
      return (.ok (.leave (Int32.ofInt status)), s)

def runAssign (s : Shell ω ε σ) (args : List String) :
    Checked (Except CommandError Next × Shell ω ε σ) :=
  match args[1]?.bind Builtin.splitAssignment? with
  | none => return (.error (.usage "export: usage: export VAR=value"), s)
  | some (name, value) => do
    match ← assign s.env name value with
    | .error error => return (.error (.environment "export" error), s)
    | .ok bound => return (.ok .proceed, { s with env := bound })

def runRemove (s : Shell ω ε σ) (args : List String) :
    Checked (Except CommandError Next × Shell ω ε σ) :=
  match args[1]? with
  | none => return (.error (.usage "unset: usage: unset VAR"), s)
  | some name => do
    match ← remove s.env name with
    | .error error => return (.error (.environment "unset" error), s)
    | .ok bound => return (.ok .proceed, { s with env := bound })

def historyCount : Option String → Checked (Option Int)
  | none => return none
  | some text => do
    let count ← leadingInt text
    return some count

def runHistory [Sink ω] (s : Shell ω ε σ) (args : List String) :
    Checked (Except CommandError Next × Shell ω ε σ) := do
  let count ← historyCount args[1]?
  let entries ← numbered s.history count
  return Builtin.runListing s (entries.map fun e => toString e.1 ++ " " ++ e.2)

/-- The other commands take no step that could break off. -/
def run [Sink ω] [Host σ] (b : Builtin) (s : Shell ω ε σ) (args : List String) :
    Checked (Except CommandError Next × Shell ω ε σ) :=
  match b with
  | .exit => runExit s args
  | .assign => runAssign s args
  | .remove => runRemove s args
  | .history => runHistory s args
  | .cd | .pwd | .help | .echo | .env => return b.run s args

theorem runExit_eq [Sink ω] (s : Shell ω ε σ) (args : List String) :
    runExit s args = .ok (Builtin.runExit s args) := by
  rw [runExit, Builtin.runExit]
  rcases s.print "Goodbye!\n" with ⟨_ | fault, t⟩
  · cases args[1]? with
    | none => rfl
    | some status => simp only [leadingInt_eq, ok_bind, return_eq_ok]
  · rfl

theorem runAssign_eq (s : Shell ω ε σ) (args : List String) :
    runAssign s args = .ok (Builtin.runAssign s args) := by
  rw [runAssign, Builtin.runAssign]
  cases args[1]?.bind Builtin.splitAssignment? with
  | none => rfl
  | some binding =>
    simp only [assign_eq, ok_bind]
    cases s.env.assign binding.1 binding.2 <;> rfl

theorem runRemove_eq (s : Shell ω ε σ) (args : List String) :
    runRemove s args = .ok (Builtin.runRemove s args) := by
  rw [runRemove, Builtin.runRemove]
  cases args[1]? with
  | none => rfl
  | some name =>
    simp only [remove_eq, ok_bind]
    cases s.env.remove name <;> rfl

theorem historyCount_eq (argument : Option String) :
    historyCount argument = .ok (argument.map LineShell.leadingInt) := by
  cases argument with
  | none => rfl
  | some text => rw [historyCount, leadingInt_eq, ok_bind, return_eq_ok, Option.map_some]

theorem runHistory_eq [Sink ω] [Host σ] (s : Shell ω ε σ) (args : List String) :
    runHistory s args = .ok (Builtin.history.run s args) := by
  rw [runHistory, historyCount_eq, ok_bind, numbered_eq, ok_bind]
  rfl

theorem run_eq [Sink ω] [Host σ] (b : Builtin) (s : Shell ω ε σ) (args : List String) :
    run b s args = .ok (b.run s args) := by
  cases b with
  | exit => exact runExit_eq s args
  | assign => exact runAssign_eq s args
  | remove => exact runRemove_eq s args
  | history => exact runHistory_eq s args
  | cd | pwd | help | echo | env => rfl

end Builtin

/-! Lines, and the startup file. -/

section Dispatch
variable {ω ε σ : Type} [Sink ω] [Sink ε] [Host σ]

/-- A program is called by the first of its arguments. -/
def runProgram (s : Shell ω ε σ) (argv : List String) :
    Checked (Except ProcessError Status × Shell ω ε σ) :=
  if argv.isEmpty then .error .noProgram else return s.runProgram argv

def perform (s : Shell ω ε σ) (argv : List String) : Checked (Next × Shell ω ε σ) :=
  match argv with
  | [] => return (.proceed, s)
  | name :: _ =>
    match Builtin.ofName? name with
    | some b => do
      match ← run b s argv with
      | (.ok next, s) => return (next, s)
      | (.error error, s) => return (.proceed, s.complain error.message)
    | none => do
      match ← runProgram s argv with
      | (.ok _, s) => return (.proceed, s)
      | (.error error, s) => return (.proceed, s.complain (CommandError.process error).message)

def typed (s : Shell ω ε σ) (line : String) : Checked (Next × Shell ω ε σ) :=
  if (words line).isEmpty then return (.proceed, s)
  else perform (s.remember line) (words line)

def source (s : Shell ω ε σ) : List String → Checked (Next × Shell ω ε σ)
  | [] => return (.proceed, s)
  | line :: rest =>
    if isComment line || (words line).isEmpty then source s rest
    else do
      match ← perform s (words line) with
      | (.leave status, s) => return (.leave status, s)
      | (.proceed, s) => if s.running then source s rest else return (.proceed, s)

def load (s : Shell ω ε σ) (file : StartupFile) :
    Checked (Except StartupError Next × Shell ω ε σ) :=
  match Host.readFile s.host file.path with
  | .ok bytes =>
    match ofUtf8? bytes with
    | some text => do
      let (next, s) ← source s (textLines text)
      return (.ok next, s)
    | none => return (.error (.unreadable .notText), s)
  | .error fault =>
    if fault.kind == .notFound then
      if file.named then return (.error (.missing file.path), s) else return (.ok .proceed, s)
    else return (.error (.unreadable fault), s)

theorem perform_eq (s : Shell ω ε σ) (argv : List String) :
    perform s argv = .ok (s.perform argv) := by
  cases argv with
  | nil => rfl
  | cons name args =>
    rw [perform, Shell.perform]
    cases Builtin.ofName? name with
    | some b =>
      simp only [run_eq, ok_bind]
      rcases b.run s (name :: args) with ⟨error | next, t⟩ <;> rfl
    | none =>
      have hlaunched : runProgram s (name :: args) = .ok (s.runProgram (name :: args)) := rfl
      simp only [hlaunched, ok_bind]
      rcases s.runProgram (name :: args) with ⟨error | status, t⟩ <;> rfl

theorem typed_eq (s : Shell ω ε σ) (line : String) : typed s line = .ok (s.typed line) := by
  rw [typed, Shell.typed]
  split
  · rfl
  · exact perform_eq _ _

theorem source_eq (s : Shell ω ε σ) (lines : List String) :
    source s lines = .ok (s.source lines) := by
  induction lines generalizing s with
  | nil => rfl
  | cons line rest ih =>
    rw [source, Shell.source]
    split
    · exact ih s
    · rw [perform_eq, ok_bind]
      rcases s.perform (words line) with ⟨_ | status, t⟩
      · simp only [ih]
        split <;> rfl
      · rfl

theorem load_eq (s : Shell ω ε σ) (file : StartupFile) : load s file = .ok (s.load file) := by
  rw [load, Shell.load]
  cases Host.readFile s.host file.path with
  | ok bytes =>
    simp only [source_eq, ok_bind, return_eq_ok]
    cases ofUtf8? bytes <;> rfl
  | error fault =>
    simp only [return_eq_ok]
    split
    · split <;> rfl
    · rfl

/-- Whatever is typed, called, loaded, shown or completed, no step is given what it has no answer
for, and all that is asked of the one who completes is a cursor between two characters. -/
theorem nothing_breaks_off (s : Shell ω ε σ) :
    (∀ line, typed s line = .ok (s.typed line)) ∧
      (∀ argv, perform s argv = .ok (s.perform argv)) ∧
      (∀ b args, run b s args = .ok (b.run s args)) ∧
      (∀ lines, source s lines = .ok (s.source lines)) ∧
      (∀ file, load s file = .ok (s.load file)) ∧
      prompt s = .ok s.prompt ∧
      (∀ {κ : Type} (p : Painter κ) line,
        highlighted p line = .ok (LineShell.highlighted p line)) ∧
      (∀ names line cursor, (⟨cursor⟩ : String.Pos.Raw).IsValid line ↔
        complete names s.host line cursor =
          .ok (LineShell.complete names s.host line cursor)) := by
  refine ⟨typed_eq s, perform_eq s, fun b => run_eq b s, source_eq s, load_eq s, prompt_eq s,
    highlighted_eq, ?_⟩
  intro names line cursor
  refine ⟨fun h => complete_eq h names s.host, fun h => ?_⟩
  by_contra hinvalid
  rw [complete_eq_error hinvalid] at h
  cases h

end Dispatch
end LineShell.Checked
