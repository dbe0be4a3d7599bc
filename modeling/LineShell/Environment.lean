import LineShell.Text.Quoted

/-! The variables of a process, in the order in which they were first set.  Setting a bound name
keeps its place, removing a name closes the gap. -/
namespace LineShell

inductive EnvError
  | invalidName (name : String)
  | invalidValue (reason : String)
  deriving DecidableEq, Repr

namespace EnvError

def nulInValue : EnvError := .invalidValue "value contains a NUL byte"

def message : EnvError → String
  | .invalidName name => "Invalid argument: " ++ quoted name
  | .invalidValue reason => "Invalid argument: " ++ reason

end EnvError

structure Environment where
  bindings : List (String × String) := []
  deriving DecidableEq, Repr

def nul : Char := Char.ofNat 0

/-- A name can be bound when it is not empty and holds neither an equals sign nor a NUL. -/
def isName (name : String) : Bool :=
  !name.isEmpty && !name.toList.contains '=' && !name.toList.contains nul

def isValue (value : String) : Bool := !value.toList.contains nul

namespace Environment

/-- The text `NAME=value` that the system keeps for a binding. -/
def entry (binding : String × String) : List Char :=
  binding.1.toList ++ '=' :: binding.2.toList

/-- The system answers with what follows `name=` in the first entry that begins so. -/
def get? (env : Environment) (name : String) : Option String :=
  if name.isEmpty || name.toList.contains nul then none
  else env.bindings.findSome? fun b =>
    ((name.toList ++ ['=']).isPrefixOf? (entry b)).map String.ofList

def put (name value : String) : List (String × String) → List (String × String)
  | [] => [(name, value)]
  | b :: rest => if b.1 == name then (name, value) :: rest else b :: put name value rest

def assign (env : Environment) (name value : String) : Except EnvError Environment :=
  if !isName name then .error (.invalidName name)
  else if !isValue value then .error .nulInValue
  else .ok ⟨put name value env.bindings⟩

def remove (env : Environment) (name : String) : Except EnvError Environment :=
  if !isName name then .error (.invalidName name)
  else .ok ⟨env.bindings.filter (·.1 != name)⟩

/-- The environment that results from binding each pair in turn; pairs that cannot be bound are
passed over. -/
def ofList (pairs : List (String × String)) : Environment :=
  pairs.foldl (fun env b => (env.assign b.1 b.2).toOption.getD env) {}

@[simp] theorem ofList_nil : ofList [] = {} := rfl

@[simp] theorem get?_empty (name : String) : get? {} name = none := by
  simp [get?]

end Environment

/-- The directories of a search path, which are set apart by colons. -/
def searchDirs (path : String) : List String := (path.toList.splitOn ':').map String.ofList

end LineShell
