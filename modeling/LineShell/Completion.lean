import LineShell.Builtin
import LineShell.Names
import LineShell.Text.Blank

/-! Completing the word before the cursor: the first word of a line from the names of commands, the
others from the names of files. -/
namespace LineShell

/-- What is shown for a candidate, and what takes the place of the word when it is chosen. -/
structure Candidate where
  display : String
  replacement : String
  deriving DecidableEq, Repr

def charsBefore : Nat → List Char → List Char
  | _, [] => []
  | position, c :: rest =>
    if c.utf8Size ≤ position then c :: charsBefore (position - c.utf8Size) rest else []

def wordBefore (before : List Char) : List Char :=
  (before.reverse.takeWhile fun c => !isBlank c).reverse

def leadBefore (before : List Char) : List Char :=
  (before.reverse.dropWhile fun c => !isBlank c).reverse

def readable (entries : List (Except Fault DirEntry)) : List DirEntry :=
  entries.filterMap Except.toOption

def textNames (entries : List DirEntry) : List String := entries.filterMap fun e => ofUtf8? e.name

namespace CommandNames
variable {σ : Type} [Host σ]

/-- Files and links may be programs.  What is of no known kind may not. -/
def mayRun (e : DirEntry) : Bool :=
  match e.kind with
  | .ok .file | .ok .link => true
  | .ok .directory | .ok .other | .error _ => false

/-- The names in a directory that may name a program; none if the directory cannot be read. -/
def inDir (host : σ) (dir : String) : List String :=
  match Host.readDir host dir with
  | .ok entries => textNames ((readable entries).filter mayRun)
  | .error _ => []

def collect (host : σ) (env : Environment) : List String :=
  sortedNames (Builtin.all.map Builtin.name ++
    ((env.get? "PATH").map fun path => (searchDirs path).flatMap (inDir host)).getD [])

def candidates (names : List String) (word : List Char) : List Candidate :=
  (names.filter fun name => word.isPrefixOf name.toList).map fun name =>
    { display := name, replacement := name ++ " " }

end CommandNames

namespace PathNames
variable {σ : Type} [Host σ]

def dirPart (word : List Char) : List Char := (word.reverse.dropWhile (· != '/')).reverse

def namePart (word : List Char) : List Char := (word.reverse.takeWhile (· != '/')).reverse

/-- Names that begin with a dot are offered only when something has been typed of them. -/
def fits (typed : List Char) (name : String) : Bool :=
  typed.isPrefixOf name.toList && !(typed.isEmpty && name.toList.head? == some '.')

/-- A candidate is shown as typed up to its last slash; a directory gets a slash of its own. -/
def candidate (dir name : String) (isDir : Bool) : Candidate :=
  let display := dir ++ name
  if isDir then { display := display ++ "/", replacement := display ++ "/" }
  else { display, replacement := display ++ " " }

def among (isDir : String → Bool) (word : List Char) (names : List String) : List Candidate :=
  ((names.filter (fits (namePart word))).map fun name =>
    candidate (String.ofList (dirPart word)) name (isDir name)).mergeSort
      fun a b => !precedes b.display a.display

/-- The directory in which names are looked for: the working directory for a word without a
slash. -/
def searched (word : List Char) : String :=
  if (dirPart word).isEmpty then "." else String.ofList (dirPart word)

def pathTo (word : List Char) (name : String) : String :=
  (if (dirPart word).isEmpty then "./" else String.ofList (dirPart word)) ++ name

def candidates (host : σ) (word : List Char) : List Candidate :=
  match Host.readDir host (searched word) with
  | .error _ => []
  | .ok entries =>
    among (fun name => Host.isDir host (pathTo word name)) word (textNames (readable entries))

end PathNames

/-- What completion starts from: the byte at which the word begins, and the candidates for it. -/
def complete {σ : Type} [Host σ] (names : List String) (host : σ) (line : String) (cursor : Nat) :
    Nat × List Candidate :=
  let before := charsBefore cursor line.toList
  let lead := leadBefore before
  let word := wordBefore before
  ((utf8 (String.ofList lead)).length,
    if lead.all isBlank then CommandNames.candidates names word
    else PathNames.candidates host word)

end LineShell
