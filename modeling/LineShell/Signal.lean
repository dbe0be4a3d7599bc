/-! Signals by number and name. -/
namespace LineShell

/-- What a signal does to a process that does not expect it. -/
inductive Effect
  | ends
  | none
  deriving DecidableEq, Repr

structure Signal where
  number : Nat
  name : String
  report : String
  effect : Effect := .ends
  deriving DecidableEq, Repr

namespace Signal

def named : List Signal :=
  [⟨1, "HUP", "Hangup", .ends⟩, ⟨2, "INT", "Interrupt", .ends⟩, ⟨3, "QUIT", "Quit", .ends⟩,
    ⟨4, "ILL", "Illegal instruction", .ends⟩, ⟨5, "TRAP", "Trace/breakpoint trap", .ends⟩,
    ⟨6, "ABRT", "Aborted", .ends⟩, ⟨7, "BUS", "Bus error", .ends⟩,
    ⟨8, "FPE", "Floating point exception", .ends⟩, ⟨9, "KILL", "Killed", .ends⟩,
    ⟨10, "USR1", "User defined signal 1", .ends⟩, ⟨11, "SEGV", "Segmentation fault", .ends⟩,
    ⟨12, "USR2", "User defined signal 2", .ends⟩, ⟨13, "PIPE", "Broken pipe", .ends⟩,
    ⟨14, "ALRM", "Alarm clock", .ends⟩, ⟨15, "TERM", "Terminated", .ends⟩,
    ⟨16, "16", "Stack fault", .ends⟩, ⟨17, "CHLD", "Child exited", .none⟩,
    ⟨18, "CONT", "Continued", .none⟩, ⟨19, "STOP", "Stopped (signal)", .none⟩,
    ⟨20, "TSTP", "Stopped", .none⟩, ⟨21, "TTIN", "Stopped (tty input)", .none⟩,
    ⟨22, "TTOU", "Stopped (tty output)", .none⟩, ⟨23, "URG", "Urgent I/O condition", .none⟩,
    ⟨24, "XCPU", "CPU time limit exceeded", .ends⟩,
    ⟨25, "XFSZ", "File size limit exceeded", .ends⟩,
    ⟨26, "VTALRM", "Virtual timer expired", .ends⟩,
    ⟨27, "PROF", "Profiling timer expired", .ends⟩, ⟨28, "WINCH", "Window changed", .none⟩,
    ⟨29, "IO", "I/O possible", .ends⟩, ⟨30, "PWR", "Power failure", .ends⟩,
    ⟨31, "SYS", "Bad system call", .ends⟩]

/-- The first and the last of the signals that are left to programs. -/
def firstFree : Nat := 34
def lastFree : Nat := 64

/-- The free signals of the lower half are named from the first, the others from the last. -/
def freeName (n : Nat) : String :=
  if n == firstFree then "RTMIN"
  else if n == lastFree then "RTMAX"
  else if n ≤ 49 then "RTMIN+" ++ toString (n - firstFree)
  else "RTMAX-" ++ toString (lastFree - n)

/-- A signal that no name is set aside for. -/
def unnamed (n : Nat) : Signal :=
  if n < firstFree then ⟨n, toString n, "Unknown signal " ++ toString n, .ends⟩
  else ⟨n, freeName n, "Real-time signal " ++ toString (n - firstFree), .ends⟩

def all : List Signal := named ++ (List.range (lastFree - 31)).map fun k => unnamed (k + 32)

def interrupt : Nat := 2
def quit : Nat := 3
def brokenPipe : Nat := 13
def terminate : Nat := 15
def childEnded : Nat := 17

def ofNumber? (n : Nat) : Option Signal := all.find? (·.number == n)

/-- Signals that cannot be caught or ignored. -/
def isUnstoppable (n : Nat) : Bool := n == 9 || n == 19

/-- The number of a signal named by a text, in capitals or not; zero is named by `EXIT`. -/
def numberOf? (text : String) : Option Nat :=
  if text.toUpper == "EXIT" then some 0
  else (all.find? fun s => s.name == text.toUpper).map (·.number)

end Signal
end LineShell
