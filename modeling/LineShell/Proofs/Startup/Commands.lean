import LineShell.Startup

/-! The commands of a startup file.  Loading the file comes down to reading it once and carrying out
the lines that are commands. -/
namespace LineShell

namespace StartupFile
variable {σ : Type} [Host σ]

/-- Whether a line of a startup file is a command. -/
def isCommand (line : String) : Bool := !(isComment line || (words line).isEmpty)

/-- The commands that a startup file holds, or what is wrong with it. -/
def read (host : σ) (file : StartupFile) : Except StartupError (List String) :=
  match Host.readFile host file.path with
  | .ok bytes =>
    match ofUtf8? bytes with
    | some text => .ok ((textLines text).filter isCommand)
    | none => .error (.unreadable .notText)
  | .error fault =>
    if fault.kind == .notFound then
      if file.named then .error (.missing file.path) else .ok []
    else .error (.unreadable fault)

/-- The commands that a session begins with.  There are none in a file that something is wrong
with. -/
def commands (host : σ) (file? : Option StartupFile) : List String :=
  match file?.map (read host) with
  | some (.ok lines) => lines
  | some (.error _) | none => []

theorem isCommand_of_mem_read {host : σ} {file : StartupFile} {lines : List String}
    (h : file.read host = .ok lines) : ∀ line ∈ lines, isCommand line = true := by
  rw [read] at h
  split at h
  · split at h <;> cases h
    intro line hline
    exact (List.mem_filter.mp hline).2
  · split at h
    · split at h <;> cases h
      simp
    · cases h

theorem isCommand_of_mem_commands {host : σ} {file? : Option StartupFile} {line : String}
    (h : line ∈ commands host file?) : isCommand line = true := by
  cases file? with
  | none => cases h
  | some file =>
    cases hread : file.read host with
    | ok lines =>
      simp only [commands, Option.map_some, hread] at h
      exact isCommand_of_mem_read hread line h
    | error error => simp [commands, hread] at h

end StartupFile

namespace Shell
variable {ω ε σ : Type} [Sink ω] [Sink ε] [Host σ]

theorem source_cons_of_isCommand {line : String} (h : StartupFile.isCommand line = true)
    (s : Shell ω ε σ) (rest : List String) :
    s.source (line :: rest) = match s.perform (words line) with
      | (.leave status, s) => (.leave status, s)
      | (.proceed, s) => if s.running then s.source rest else (.proceed, s) := by
  have hskip : (isComment line || (words line).isEmpty) = false := by
    rwa [StartupFile.isCommand, Bool.not_eq_true'] at h
  rw [source, hskip]
  rfl

theorem source_cons_of_not_isCommand {line : String} (h : ¬ StartupFile.isCommand line = true)
    (s : Shell ω ε σ) (rest : List String) : s.source (line :: rest) = s.source rest := by
  have hskip : (isComment line || (words line).isEmpty) = true := by
    rwa [Bool.not_eq_true, StartupFile.isCommand, Bool.not_eq_false'] at h
  rw [source, hskip, if_pos rfl]

theorem source_filter (s : Shell ω ε σ) (lines : List String) :
    s.source (lines.filter StartupFile.isCommand) = s.source lines := by
  induction lines generalizing s with
  | nil => rfl
  | cons line rest ih =>
    by_cases hline : StartupFile.isCommand line = true
    · rw [List.filter_cons_of_pos hline, source_cons_of_isCommand hline,
        source_cons_of_isCommand hline]
      simp only [ih]
    · rw [List.filter_cons_of_neg hline, source_cons_of_not_isCommand hline, ih]

theorem load_eq_read (s : Shell ω ε σ) (file : StartupFile) :
    s.load file = match file.read s.host with
      | .ok lines => (.ok (s.source lines).1, (s.source lines).2)
      | .error error => (.error error, s) := by
  rw [load, StartupFile.read]
  cases Host.readFile s.host file.path with
  | ok bytes =>
    cases htext : ofUtf8? bytes with
    | none => simp only [htext]
    | some text => simp only [htext, source_filter]
  | error fault =>
    by_cases hmissing : (fault.kind == .notFound) = true
    · cases file.named <;> simp [hmissing, source]
    · simp [hmissing]

end Shell

end LineShell
