import LineShell.Machine.Process
import LineShell.Signal
import LineShell.Machine.Script.Token

/-! What a running script knows, and the steps that change it: variables, streams, complaints, and
the ways in which the commands of a script are left. -/
namespace LineShell.Machine

/-- How a process comes to its end. -/
inductive Exit
  | status (code : Nat)
  | signal (number : Nat)
  deriving DecidableEq, Repr

def Exit.outcome : Exit → Outcome
  | .status code => .exited code
  | .signal number => .signaled number

def Exit.code : Exit → Nat
  | .status code => code
  | .signal number => 128 + number

/-- Why commands are left before their end: trouble that has been complained of, the end of the
shell, with a status of its own choice or not, or the end of the process. -/
inductive Stop
  | trouble
  | leave (chosen : Bool)
  | finished (exit : Exit)
  deriving DecidableEq, Repr

/-- What is passed over on the way to the end of a loop, a function or a text. -/
inductive Skip
  | breaking
  | continuing
  | returning (given : Bool)
  deriving DecidableEq, Repr

structure Variable where
  name : Octets
  value : Option Octets
  exported : Bool := false
  readOnly : Bool := false
  deriving Repr

/-- What a local variable or the options were before. -/
inductive Former
  | variable (name : Octets) (was : Option Variable)
  | options (letters : List Char)

/-- A change of where a stream leads, with its words replaced. -/
inductive Target
  | file (stream : Nat) (use : Kernel.Use) (guarded : Bool) (path : Octets)
  | copy (stream : Nat) (source : Option Nat)
  | document (stream number : Nat)

def Target.stream : Target → Nat
  | file stream _ _ _ | copy stream _ | document stream _ => stream

/-- A process in the background, by its place in the list of them, and how it ended. -/
structure Job where
  number : Nat
  process : Nat
  exit : Option Exit := none
  /-- Whether its end has been told of. -/
  told : Bool := false

/-- A program that has been found, in which of the directories where programs are looked for.  After
a change of the working directory it is looked for again. -/
structure Found where
  name : Octets
  place : Nat
  stale : Bool := false

/-- Where a shell reads its script from. -/
inductive Origin
  | text
  | input
  | opening (id : Nat)
  deriving DecidableEq, Repr

structure Work where
  kernel : Kernel
  here : Nat
  process : Nat
  parent : Nat
  /-- The number that the script knows itself by, also in its parts that are processes. -/
  shell : Nat
  name : Octets
  /-- The built-in command that is being carried out. -/
  command : Option Octets := none
  line : Nat := 0
  /-- The line up to which the script has been read. -/
  readLine : Nat := 1
  arguments : List Octets := []
  nextOption : Nat := 1
  optionPlace : Option Nat := none
  streams : List (Nat × Nat) := []
  /-- Where the trace of commands goes. -/
  trace : Option Nat := none
  tracing : Bool := false
  bindings : List Variable := []
  locals : List (List Former) := []
  functions : List (Octets × Option Script) := []
  aliases : List (Octets × Octets) := []
  found : List Found := []
  options : List Char := []
  traps : List (Nat × Octets) := []
  ignored : List Nat := []
  arrived : List Nat := []
  status : Nat := 0
  /-- The status of the last command whose output was taken. -/
  outputStatus : Nat := 0
  /-- The status that is seen again once a trap is over. -/
  kept : Option Nat := none
  skip : Option Skip := none
  skipCount : Nat := 0
  loops : Nat := 0
  calls : Nat := 0
  documents : Array Phrase := #[]
  directory : Octets := []
  background : Nat := 0
  jobs : List Job := []
  /-- Processes in the background that are still to be carried out, each with what the script knew when
  it was begun. -/
  waiting : List (Nat × List Target × Option Script × Work) := []
  mask : Nat := 0o22
  /-- What a built-in command has printed and is still to be written. -/
  unwritten : List Octets := []
  /-- Whether a built-in command could not write what it printed. -/
  spoiled : Bool := false
  /-- Where the script comes from. -/
  origin : Origin := .text

abbrev Act := ExceptT Stop (StateM Work)

namespace Act

def stop {α : Type} (s : Stop) : Act α := throw s

/-! Options. -/

/-- The options of the shell with their letters.  The last two have none that can be written. -/
def optionNames : List (String × Char) :=
  [("errexit", 'e'), ("noglob", 'f'), ("ignoreeof", 'I'), ("interactive", 'i'), ("monitor", 'm'),
    ("noexec", 'n'), ("stdin", 's'), ("xtrace", 'x'), ("verbose", 'v'), ("vi", 'V'),
    ("emacs", 'E'), ("noclobber", 'C'), ("allexport", 'a'), ("notify", 'b'), ("nounset", 'u'),
    ("privileged", 'p'), ("nolog", Char.ofNat 1), ("debug", Char.ofNat 2)]

def isOptionLetter (c : Char) : Bool := c.isAlpha && optionNames.any (·.2 == c)

def withOption (w : Work) (letter : Char) (on : Bool) : Work :=
  { w with options := (w.options.filter (· != letter)) ++ (if on then [letter] else []) }

def setOption (letter : Char) (on : Bool) : Act Unit :=
  modify fun w =>
    let w := withOption w letter on
    if on && letter == 'V' then withOption w 'E' false
    else if on && letter == 'E' then withOption w 'V' false
    else w

def has (letter : Char) : Act Bool := return (← get).options.contains letter

/-! Streams. -/

def opening? (stream : Nat) : Act (Option Nat) := return (← get).streams.lookup stream

def ignores (w : Work) (signal : Nat) : Bool :=
  w.ignored.contains signal || w.traps.lookup signal == some []

/-- A signal has come: it is passed over, waits for its trap, or ends the process. -/
def receive (signal : Nat) : Act Unit := do
  let w ← get
  if Signal.isUnstoppable signal then
    if signal == 9 then stop (.finished (.signal signal))
  else if ignores w signal then return
  else if (w.traps.lookup signal).isSome then
    set { w with arrived := if w.arrived.contains signal then w.arrived else w.arrived ++ [signal] }
  else match Signal.ofNumber? signal with
    | some { effect := .ends, .. } => stop (.finished (.signal signal))
    | _ => return

def receiveAll : Act Unit := do
  let w ← get
  let (kernel, signals) := w.kernel.received w.process
  if !signals.isEmpty then
    set { w with kernel }
    signals.forM receive

def writeTo (id : Nat) (o : Octets) : Act Bool := do
  if o.isEmpty then return true
  let result ← modifyGet fun w =>
    let (kernel, result) := w.kernel.write id o.toBytes
    (result, { w with kernel })
  match result with
  | .done => return true
  | .refused => return false
  | .unread =>
    receive Signal.brokenPipe
    return false

def write (stream : Nat) (o : Octets) : Act Bool := do
  match ← opening? stream with
  | some id => writeTo id o
  | none => return o.isEmpty

def say (o : Octets) : Act Unit := modify fun w => { w with unwritten := o :: w.unwritten }

def sayText (text : String) : Act Unit := say text.toList

def flush : Act Unit := do
  let o := (← get).unwritten.reverse.flatten
  modify ({ · with unwritten := [] })
  if !(← write 1 o) then modify ({ · with spoiled := true })

/-! Complaints. -/

def heading (w : Work) : Octets :=
  w.name ++ ": ".toList ++ decimalText w.line ++ ": ".toList ++
    (w.command.map fun c => c ++ ": ".toList).getD []

def warn (o : Octets) : Act Unit := do
  let _ ← write 2 (heading (← get) ++ o ++ ['\n'])

def troubleStatus : Nat := 2

def fail {α : Type} (o : Octets) : Act α := do
  warn o
  flush
  modify ({ · with status := troubleStatus })
  stop .trouble

def failText {α : Type} (text : String) : Act α := fail text.toList

def badNumber {α : Type} (o : Octets) : Act α := fail ("Illegal number: ".toList ++ o)

def number (o : Octets) : Act Int :=
  match wholeNumber? false o with
  | some n => return n
  | none => badNumber o

def count (o : Octets) : Act Nat := do
  let n ← number o
  if 0 ≤ n && n < Int.pow 2 31 then return n.toNat else badNumber o

/-! Variables. -/

def defaultPath : Octets := "/usr/local/sbin:/usr/local/bin:/usr/sbin:/usr/bin:/sbin:/bin".toList

def lookUp? (name : Octets) : Act (Option Variable) :=
  return (← get).bindings.find? fun v => v.name == name

def valueOf? (name : Octets) : Act (Option Octets) := return (← lookUp? name).bind (·.value)

def textOf? (name : String) : Act (Option Octets) := valueOf? name.toList

def putVariable (v : Variable) : Act Unit :=
  modify fun w =>
    if w.bindings.any (·.name == v.name) then
      { w with bindings := w.bindings.map fun u => if u.name == v.name then v else u }
    else { w with bindings := w.bindings ++ [v] }

def dropVariable (name : Octets) : Act Unit :=
  modify fun w => { w with bindings := w.bindings.filter (·.name != name) }

/-- What else changes with a variable: where programs are found, and where options are read on. -/
def afterChange (name : Octets) (value : Option Octets) : Act Unit := do
  if name == "PATH".toList then modify ({ · with found := [] })
  else if name == "OPTIND".toList then
    let n ← count (value.getD ['1'])
    modify ({ · with nextOption := max n 1, optionPlace := none })

def assign (name : Octets) (value : Option Octets) (exported readOnly : Bool) : Act Unit := do
  if !isName name then fail (name ++ ": bad variable name".toList)
  let exported := exported || (← has 'a')
  match ← lookUp? name with
  | some v =>
    if v.readOnly then fail (name ++ ": is read only".toList)
    afterChange name value
    if value.isNone && !exported && !readOnly then dropVariable name
    else putVariable { name, value, exported := v.exported || exported, readOnly }
  | none =>
    if value.isNone && !exported && !readOnly then return
    putVariable { name, value, exported, readOnly }
    afterChange name value

def setVariable (name value : Octets) : Act Unit := assign name (some value) false false

def setText (name : String) (value : Octets) : Act Unit := setVariable name.toList value

def separators? : Act (Option Octets) := textOf? "IFS"

def pathList : Act Octets := return (← textOf? "PATH").getD []

/-! Local variables. -/

def remember (f : Former) : Act Unit :=
  modify fun w =>
    match w.locals with
    | [] => w
    | top :: rest => { w with locals := (f :: top) :: rest }

def makeLocal (name : Octets) (value : Option Octets) (exported : Bool) : Act Unit := do
  if name == ['-'] && value.isNone then remember (.options (← get).options)
  else
    let was ← lookUp? name
    match was with
    | none =>
      if !isName name then fail (name ++ ": bad variable name".toList)
      putVariable { name, value, exported := exported || (← has 'a') }
      if value.isSome then afterChange name value
      remember (.variable name none)
    | some _ =>
      remember (.variable name was)
      if value.isSome then assign name value exported false

def restore (f : Former) : Act Unit := do
  match f with
  | .options letters => modify ({ · with options := letters })
  | .variable name none =>
    modify fun w => { w with
      bindings := w.bindings.map fun u => if u.name == name then { u with readOnly := false } else u }
    dropVariable name
    if name == "PATH".toList then afterChange name none
  | .variable name (some was) =>
    putVariable was
    afterChange name was.value

/-- Gives the variables that were made local since then their former values. -/
def restoreTo (depth : Nat) : Act Unit := do
  let w ← get
  let extra := w.locals.length - depth
  let formers := (w.locals.take extra).flatten
  set { w with locals := w.locals.drop extra }
  formers.forM restore

/-- Does something to its end and then something else, whether or not the first came to trouble. -/
def thenAlways {α : Type} (body : Act α) (after : Act Unit) : Act α := fun w =>
  match body w with
  | (result, w) =>
    match after w with
    | (_, w) => (result, w)

def attempt {α : Type} (body : Act α) : Act (Except Stop α) := fun w =>
  match body w with
  | (result, w) => (.ok result, w)

def settle {α : Type} (result : Except Stop α) : Act α := fun w => (result, w)

/-! What is handed to programs. -/

def exports (w : Work) : List Octets :=
  w.bindings.filterMap fun v =>
    if v.exported then v.value.map fun value => entryOf v.name value else none

end Act
end LineShell.Machine
