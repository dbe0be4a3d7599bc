import LineShell.Machine.Script.Command.Options
import LineShell.Machine.Script.Glyph

/-! The built-in commands about variables, options and arguments. -/
namespace LineShell.Machine
namespace Act

def listVariables (what : Octets) (isListed : Variable → Bool) : Act Unit := do
  let vs := ((← get).bindings.filter isListed).mergeSort fun a b => !b.name.isBefore a.name
  vs.forM fun v =>
    let value := match v.value with
      | some o => '=' :: singleQuoted o
      | none => []
    say ((if what.isEmpty then [] else what ++ [' ']) ++ v.name ++ value ++ ['\n'])

def splitSetting (o : Octets) : Octets × Option Octets :=
  let name := o.takeWhile (· != '=')
  match o.drop name.length with
  | _ :: value => (name, some value)
  | [] => (name, none)

def mark (command : String) (readOnly : Bool) (arguments : List Octets) : Act Nat := do
  let g ← options "p" "" arguments
  if g.has 'p' || g.rest.isEmpty then
    listVariables command.toList fun v => if readOnly then v.readOnly else v.exported
  else
    g.rest.forM fun o => do
      let (name, value) := splitSetting o
      match ← lookUp? name with
      | some v =>
        if value.isSome then assign name value (!readOnly) readOnly
        else putVariable { v with
          exported := v.exported || !readOnly, readOnly := v.readOnly || readOnly }
      | none => assign name value (!readOnly) readOnly
  return 0

def localNames (arguments : List Octets) : Act Nat := do
  if (← get).locals.isEmpty then failText "not in a function"
  arguments.forM fun o =>
    let (name, value) := splitSetting o
    makeLocal name value false
  return 0

def unsetNames (arguments : List Octets) : Act Nat := do
  let g ← options "vf" "" arguments
  let functions := (g.options.getLast?.map fun o => o.1 == 'f').getD false
  g.rest.forM fun name => do
    if functions then modify fun w => { w with functions := w.functions.filter (·.1 != name) }
    else assign name none false false
  return 0

/-! Options and arguments. -/

def padTo (size : Nat) (o : Octets) : Octets := o ++ List.replicate (size - o.length) ' '

def listOptions (asCommands : Bool) : Act Unit := do
  let w ← get
  if !asCommands then sayText "Current option settings\n"
  optionNames.forM fun o =>
    let on := w.options.contains o.2
    if asCommands then sayText ("set " ++ (if on then "-o " else "+o ") ++ o.1 ++ "\n")
    else say (padTo 16 o.1.toList ++ (if on then "on" else "off").toList ++ ['\n'])

def setNamedOption (on : Bool) (name : Octets) : Act Unit :=
  match optionNames.find? fun o => o.1.toList == name with
  | some o => modify fun w => withOption w o.2 on
  | none => fail ("Illegal option -o ".toList ++ name)

/-- What options at the beginning of arguments have come to, and what follows them. -/
structure OptionsRead where
  /-- Whether a text is asked for in place of a file. -/
  text : Bool := false
  login : Bool := false
  /-- Whether the arguments are to be set, though none may follow. -/
  resets : Bool := false
  rest : List Octets

def setLetters (atStart on : Bool) : Octets → OptionsRead → Act OptionsRead
  | [], r => return r
  | c :: letters, r => do
    if atStart && c == 'c' then setLetters atStart on letters { r with text := true }
    else if atStart && c == 'l' then setLetters atStart on letters { r with login := true }
    else if c == 'o' then
      match r.rest with
      | [] => listOptions (!on)
      | name :: _ => setNamedOption on name
      setLetters atStart on letters { r with rest := r.rest.drop 1 }
    else if isOptionLetter c then
      setOption c on
      setLetters atStart on letters r
    else fail ("Illegal option -".toList ++ [c])

def setOptions (atStart : Bool) : Nat → OptionsRead → Act OptionsRead
  | 0, r => return r
  | n + 1, r =>
    match r.rest with
    | ['-'] :: rest => do
      if !atStart then
        setOption 'x' false
        setOption 'v' false
      return { r with rest }
    | ['-', '-'] :: rest => return { r with rest, resets := rest.isEmpty }
    | ('-' :: letters) :: rest => do
      setOptions atStart n (← setLetters atStart true letters { r with rest })
    | ('+' :: letters) :: rest => do
      setOptions atStart n (← setLetters atStart false letters { r with rest })
    | _ => return r

def takeArguments (arguments : List Octets) : Act Unit :=
  modify ({ · with arguments, nextOption := 1, optionPlace := none })

/-- A shell that is to mind its jobs needs a terminal, and there is none. -/
def mindTerminal : Act Unit := do
  if ← has 'm' then
    warn "can't access tty; job control turned off".toList
    setOption 'm' false

def setCommand (arguments : List Octets) : Act Nat := do
  if arguments.isEmpty then listVariables [] fun v => v.value.isSome
  else
    let r ← setOptions false (arguments.length + 1) { rest := arguments }
    mindTerminal
    if !r.rest.isEmpty || r.resets then takeArguments r.rest
  return 0

def shiftCommand (arguments : List Octets) : Act Nat := do
  let n ← match arguments with
    | [] => pure 1
    | o :: _ => count o
  let w ← get
  if w.arguments.length < n then failText "can't shift that many"
  takeArguments (w.arguments.drop n)
  return 0

/-! Reading options one by one. -/

def nextOption (letters name : Octets) (arguments : List Octets) : Act Nat := do
  let w ← get
  let start := w.nextOption
  let current := if start ≤ 1 then none else arguments[start - 2]?
  let within : Option Octets := match w.optionPlace, current with
    | some place, some o => if o.length < place then none else some (o.drop place)
    | _, _ => none
  let finish (option : Char) (next : Nat) (left : Option Octets) (finished : Bool) : Act Nat := do
    modify fun w => { w with
      nextOption := next
      optionPlace := left.bind fun o =>
        (arguments[next - 2]?).map fun whole => whole.length - o.length }
    let w ← get
    setText "OPTIND" (decimalText next)
    modify ({ · with nextOption := w.nextOption, optionPlace := w.optionPlace })
    setVariable name [option]
    modify ({ · with nextOption := w.nextOption, optionPlace := w.optionPlace })
    return if finished then 1 else 0
  let complain (o : Octets) : Act Unit := do
    let _ ← write 2 (o ++ ['\n'])
  let quiet := letters.head? == some ':'
  let read (next : Nat) (cs : Octets) : Act Nat := do
    match cs with
    | [] => finish '?' next none true
    | c :: rest =>
      let known := letters.dropWhile fun d => d != c || d == ':'
      match known with
      | [] =>
        if quiet then setText "OPTARG" [c]
        else
          complain ("Illegal option -".toList ++ [c])
          assign "OPTARG".toList none false false
        finish '?' next (some rest) false
      | _ :: ':' :: _ =>
        match rest, arguments[next - 1]? with
        | [], none =>
          if quiet then
            setText "OPTARG" [c]
            finish ':' next none false
          else
            complain ("No arg for -".toList ++ c :: " option".toList)
            assign "OPTARG".toList none false false
            finish '?' next none false
        | [], some value =>
          setText "OPTARG" value
          finish c (next + 1) none false
        | value, _ =>
          setText "OPTARG" value
          finish c next none false
      | _ =>
        setText "OPTARG" []
        finish c next (some rest) false
  match within with
  | some (c :: rest) => read start (c :: rest)
  | _ =>
    match arguments[start - 1]? with
    | some ['-', '-'] => finish '?' (start + 1) none true
    | some ('-' :: c :: rest) => read (start + 1) (c :: rest)
    | _ => finish '?' start none true

def getoptsCommand (arguments : List Octets) : Act Nat := do
  match arguments with
  | letters :: name :: given =>
    let w ← get
    let arguments := if given.isEmpty then w.arguments else given
    if arguments.length + 1 < w.nextOption then
      modify ({ · with nextOption := 1, optionPlace := none })
    nextOption letters name arguments
  | _ => failText "Usage: getopts optstring var [arg...]"

/-! Reading a line. -/

/-- What has been read of a line: its characters and the stretches in which it may be cut. -/
structure Line where
  draft : Draft := {}
  start : Nat := 0
  /-- A backslash has just been read. -/
  guarded : Bool := false
  ended : Bool := true

/-- Reads a line from the input, byte by byte, in at most so many steps. -/
def readLine (raw : Bool) : Nat → Line → Act Line
  | 0, l => return l
  | n + 1, l => do
    let closed (l : Line) : Line := { l with draft := l.draft.addRegion l.start false }
    match ← opening? 0 with
    | none => return { closed l with ended := false }
    | some id =>
      let byte ← modifyGet fun w =>
        let (kernel, byte) := w.kernel.readByte id
        (byte, { w with kernel })
      match byte with
      | none => return { closed l with ended := false }
      | some byte =>
        let c := Char.ofNat byte.toNat
        if byte == 0 then readLine raw n l
        else if l.guarded then
          let draft := (if l.start < l.draft.size then l.draft.addRegion l.start false else l.draft)
          let draft := if c == '\n' then draft else draft.push (.exact c)
          readLine raw n { draft, start := draft.size }
        else if c == '\\' && !raw then readLine raw n { l with guarded := true }
        else if c == '\n' then return closed l
        else readLine raw n { l with draft := l.draft.push (.plain c) }

/-- Gives names the fields of a line in turn, and the others nothing. -/
def assignFields : List Octets → List (List Glyph) → Act Unit
  | [], _ => return
  | name :: names, fields => do
    setVariable name (Glyph.text (fields.headD []))
    assignFields names (fields.drop 1)

def lineBound : Nat := 100000000

def readCommand (arguments : List Octets) : Act Nat := do
  let g ← options "r" "p" arguments
  if g.rest.isEmpty then failText "arg count"
  let l ← readLine (g.has 'r') lineBound {}
  let separators := (← separators?).getD blankSeparators
  assignFields g.rest (l.draft.fields separators (some g.rest.length))
  return if l.ended then 0 else 1

end Act
end LineShell.Machine
