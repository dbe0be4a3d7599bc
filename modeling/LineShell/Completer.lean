import LineShell.Completion

/-! Completion while lines are edited.  The names of commands are looked up when a completer is made
and whenever it is asked to look again.  Whatever happens in between, they stay as they were found. -/
namespace LineShell

/-- What is around a completer: a system, and the variables of the shell. -/
structure Surroundings (σ : Type) where
  host : σ
  env : Environment

/-- The names of commands that are found now. -/
def Surroundings.commands {σ : Type} [Host σ] (s : Surroundings σ) : List String :=
  CommandNames.collect s.host s.env

structure Completer (σ : Type) where
  around : Surroundings σ
  names : List String

namespace Completer

/-- The variables or the system become others, a line is to be completed at a cursor, or the names are
to be looked up again. -/
inductive Move (σ : Type)
  | environment (env : Environment)
  | system (host : σ)
  | complete (line : String) (cursor : Nat)
  | refresh

variable {σ : Type}

def Move.isRefresh : Move σ → Bool
  | .refresh => true
  | .environment _ | .system _ | .complete _ _ => false

theorem Move.isRefresh_iff {move : Move σ} : move.isRefresh = true ↔ move = .refresh := by
  cases move <;> simp [isRefresh]

variable [Host σ]

def start (s : Surroundings σ) : Completer σ := { around := s, names := s.commands }

def complete (c : Completer σ) (line : String) (cursor : Nat) : Nat × List Candidate :=
  LineShell.complete c.names c.around.host line cursor

/-- The candidates for a word that names a command. -/
def commandsFor (c : Completer σ) (word : List Char) : List Candidate :=
  CommandNames.candidates c.names word

def next (c : Completer σ) : Move σ → Completer σ
  | .environment env => { c with around.env := env }
  | .system host => { c with around.host := host }
  | .complete _ _ => c
  | .refresh => { c with names := c.around.commands }

/-- The answer to a move.  Only completion has one. -/
def answer? (c : Completer σ) : Move σ → Option (Nat × List Candidate)
  | .complete line cursor => some (c.complete line cursor)
  | .environment _ | .system _ | .refresh => none

def after (c : Completer σ) (moves : List (Move σ)) : Completer σ := moves.foldl next c

@[simp] theorem after_nil (c : Completer σ) : c.after [] = c := rfl

theorem after_concat (c : Completer σ) (moves : List (Move σ)) (move : Move σ) :
    c.after (moves ++ [move]) = (c.after moves).next move := by
  simp [after]

theorem names_refresh (c : Completer σ) : (c.next .refresh).names = c.around.commands := rfl

/-- Looking again at once finds nothing new. -/
theorem refresh_refresh (c : Completer σ) : (c.next .refresh).next .refresh = c.next .refresh := rfl

end Completer
end LineShell
