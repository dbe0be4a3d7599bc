import LineShell.Machine.Script.Command.Options

/-! The built-in commands about the working directory.  The shell keeps its name by the path that led
there; the system knows it by the directory itself. -/
namespace LineShell.Machine
namespace Act

def homeDirectory : Act (Option Octets) := textOf? "HOME"

/-- The path of the working directory through no links, if it can still be reached. -/
def physicalDirectory? (w : Work) : Option Octets := (w.kernel.tree.pathOf? w.here).map .ofText

def physicalDirectory : Act Octets := do
  match physicalDirectory? (← get) with
  | some path => return path
  | none =>
    warn "getcwd() failed: No such file or directory".toList
    return []

def followed (path : List Octets) (names : List Octets) : List Octets :=
  names.foldl (fun path name =>
    if name == ['.', '.'] then path.dropLast
    else if name.isEmpty || name == ['.'] then path
    else path ++ [name]) path

def startOf (path : Octets) : Octets :=
  match path with
  | '/' :: '/' :: '/' :: _ => ['/']
  | '/' :: '/' :: _ => ['/', '/']
  | _ => ['/']

/-- The path that another one leads to from a directory, without a look at the files. -/
def logicalPath (directory path : Octets) : Octets :=
  let whole := if path.head? == some '/' then path else directory ++ '/' :: path
  startOf whole ++ ['/'].intercalate (followed [] (whole.splitOn '/'))

/-- Keeps the name of the working directory, and the former name if it is to be kept. -/
def keepDirectory (path : Option Octets) (keepsFormer : Bool) : Act Unit := do
  if keepsFormer then assign "OLDPWD".toList (some (← get).directory) true false
  let path ← match path with
    | some path => pure path
    | none => physicalDirectory
  modify ({ · with directory := path })
  assign "PWD".toList (some path) true false

def forgetPlaces : Act Unit :=
  modify fun w => { w with found := w.found.map fun f => { f with stale := true } }

def enter (path : Octets) (physical : Bool) : Act Bool := do
  let w ← get
  let logical := if physical || (path.head? != some '/' && w.directory.isEmpty) then none
    else some (logicalPath w.directory path)
  match w.kernel.tree.find w.here (logical.getD path).toText true with
  | .error _ => return false
  | .ok id =>
    if w.kernel.tree.isDirectory id then
      set { w with here := id }
      keepDirectory logical true
      forgetPlaces
      return true
    else return false

def asksPhysical (g : Given) : Bool :=
  (g.options.getLast?.map fun o => o.1 == 'P').getD false

/-- Whether a path is taken as it is, rather than along a list of directories. -/
def isFixed (path : Octets) : Bool :=
  match path with
  | '/' :: _ => true
  | ['.'] | '.' :: '/' :: _ => true
  | ['.', '.'] | '.' :: '.' :: '/' :: _ => true
  | _ => false

def directoryPaths (path : Octets) : Act (List (Octets × Bool)) := do
  if isFixed path then return []
  else match ← textOf? "CDPATH" with
    | none => return []
    | some list => return (searchList list).map fun dir => (inDirectory dir path, !dir.isEmpty)

def isDirectoryAt (path : Octets) : Act Bool := do
  let w ← get
  match w.kernel.tree.find w.here path.toText true with
  | .error _ => return false
  | .ok id => return w.kernel.tree.isDirectory id

def cd (arguments : List Octets) : Act Nat := do
  let g ← options "LP" "" arguments
  let physical := asksPhysical g
  let (path, told) ← match g.rest with
    | [] => do pure ((← homeDirectory).getD [], false)
    | ['-'] :: _ => do pure ((← textOf? "OLDPWD").getD [], true)
    | path :: _ => pure (path, false)
  let named := path
  let path := if path.isEmpty then ['.'] else path
  let found ← (← directoryPaths path).findM? fun p => isDirectoryAt p.1
  let (target, told) := match found with
    | some (target, shown) => (target, told || shown)
    | none => (path, told)
  if ← enter target physical then
    if told then say ((← get).directory ++ ['\n'])
    return 0
  else fail ("can't cd to ".toList ++ (if named.isEmpty then path else named))

def pwd (arguments : List Octets) : Act Nat := do
  let g ← options "LP" "" arguments
  let path ← if asksPhysical g then physicalDirectory else pure (← get).directory
  say (path ++ ['\n'])
  return 0

end Act
end LineShell.Machine
