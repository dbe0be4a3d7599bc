import LineShell.Machine.Format.Program
import LineShell.Machine.Script.Calling
import LineShell.Machine.Script.Command.Table
import LineShell.Machine.Script.Launch
import LineShell.Machine.Script.Start
import LineShell.Machine.Script.Streams

/-! Running scripts and the other programs of the system. -/
namespace LineShell.Machine
open Sandbox

/-- How commands are carried out: whether their status is looked at, so that none ends the shell, and
whether the shell ends with them. -/
structure Flow where
  tested : Bool := false
  last : Bool := false

namespace Act

def runDepth : Nat := 10000000

def exhausted {α : Type} : Act α := stop (.finished (.status troubleStatus))

def setStatus (status : Nat) : Act Nat := do
  modify ({ · with status })
  return status

def setLine (line : Nat) : Act Unit :=
  modify ({ · with line })

def isTestedBy : Joint → Bool
  | .both | .either => true
  | .next => false

def afterBody : Act Bool := do
  let w ← get
  match w.skip with
  | none => return true
  | some (.returning _) => return false
  | some skip =>
    if w.skipCount ≤ 1 then
      set { w with skip := none, skipCount := 0 }
      return skip == .continuing
    else
      set { w with skipCount := w.skipCount - 1 }
      return false

def everyArgument : Phrase := [.quotes [.self ['@']]]

def deepestCall : Nat := 1000

def hasTraps : Act Bool := return (← get).traps.any fun t => !t.2.isEmpty

/-- What a built-in command is carried out with: its name in complaints, and what it printed. -/
def asCommand (name : Octets) (body : Act Nat) : Act Nat := do
  let before := (← get).command
  modify ({ · with command := some name })
  thenAlways (do
      let status ← body
      flush
      let status ← if (← get).spoiled then do
          modify ({ · with spoiled := false })
          warn (name ++ ": I/O error".toList)
          pure (status ||| 1)
        else pure status
      setStatus status)
    (modify ({ · with command := before, spoiled := false }))

def enduring (body : Act Nat) : Act Nat := do
  match ← attempt body with
  | .ok status => return status
  | .error .trouble => return (← get).status
  | .error s => stop s

mutual

def evaluate : Nat → Flow → Option Script → Act Nat
  | 0, _, _ => exhausted
  | n + 1, flow, script => do
    let finish (status : Nat) (checks : Bool) : Act Nat := do
      runTraps n
      if checks && !flow.tested && status != 0 then
        if ← has 'e' then stop (.leave false)
      if flow.last then stop (.leave false)
      return status
    match script with
    | none => finish 0 false
    | some s =>
      if ← has 'n' then finish 0 false
      else
        runTraps n
        let tested : Flow := { tested := flow.tested }
        match s with
        | .simple line settings words redirects =>
          let status ← simple n flow line settings words redirects
          finish (← setStatus status) true
        | .pipeline commands background =>
          let status ← pipeline n flow commands background
          finish (← setStatus status) true
        | .isolated line body redirects =>
          let status ← isolated n flow line body redirects
          finish (← setStatus status) true
        | .background line body redirects =>
          let status ← inBackground n line (some body) redirects
          finish (← setStatus status) true
        | .negated body =>
          let status ← evaluate n { tested := true } (some body)
          finish (← setStatus (if status == 0 then 1 else 0)) false
        | .joined joint first second =>
          let status ← evaluate n { tested := flow.tested || isTestedBy joint } (some first)
          let stops := match joint with
            | .both => status != 0
            | .either => status == 0
            | .next => false
          if stops || (← get).skip.isSome then finish status false
          else
            let status ← evaluate n flow (some second)
            finish (← setStatus status) false
        | .redirected line body redirects =>
          setLine line
          let targets ← targetsOf (output n) redirects
          match ← redirectAll (output n) targets with
          | .error status => finish (← setStatus status) false
          | .ok changed =>
            let status ← thenAlways (evaluate n tested body) (restoreStreams changed)
            finish (← setStatus status) false
        | .choice test yes no =>
          let status ← evaluate n { tested := true } test
          if (← get).skip.isSome then finish status false
          else if status == 0 then
            let status ← evaluate n flow yes
            finish (← setStatus status) false
          else if no.isSome then
            let status ← evaluate n flow no
            finish (← setStatus status) false
          else finish (← setStatus 0) false
        | .loop goal test body =>
          modify fun w => { w with loops := w.loops + 1 }
          let status ← thenAlways (repeatedly n tested goal test body 0)
            (modify fun w => { w with loops := w.loops - 1 })
          finish (← setStatus status) false
        | .each line name words body =>
          setLine line
          let fields ← (words.getD [everyArgument]).mapM fun word => fieldsOf (output n) word
          modify fun w => { w with loops := w.loops + 1 }
          let status ← thenAlways (forEach n tested name body fields.flatten 0)
            (modify fun w => { w with loops := w.loops - 1 })
          finish (← setStatus status) false
        | .cases line word arms =>
          setLine line
          let text ← textOf (output n) { home := true } word
          let status ← firstArm n flow text arms
          finish (← setStatus status) false
        | .definition name body =>
          modify fun w => { w with
            functions := (name, body) :: w.functions.filter (·.1 != name) }
          finish (← setStatus 0) false
termination_by structural n => n

def repeatedly : Nat → Flow → Bool → Option Script → Option Script → Nat → Act Nat
  | 0, _, _, _, _, _ => exhausted
  | n + 1, flow, goal, test, body, status => do
    let k ← evaluate n { tested := true } test
    match (← get).skip with
    | some skip =>
      let goesOn ← afterBody
      if goesOn then repeatedly n flow goal test body status
      else match skip with
        | .returning _ => return k
        | _ => return status
    | none =>
      if (k == 0) != goal then return status
      else
        let status ← evaluate n flow body
        if ← afterBody then repeatedly n flow goal test body status else return status
termination_by structural n => n

def forEach : Nat → Flow → Octets → Option Script → List Octets → Nat → Act Nat
  | 0, _, _, _, _, _ => exhausted
  | n + 1, flow, name, body, fields, status => do
    match fields with
    | [] => return status
    | field :: rest =>
      setVariable name field
      let status ← evaluate n flow body
      if ← afterBody then forEach n flow name body rest status else return status
termination_by structural n => n

def firstArm : Nat → Flow → Octets → List (List Phrase × Option Script) → Act Nat
  | 0, _, _, _ => exhausted
  | n + 1, flow, text, arms => do
    match arms with
    | [] => return 0
    | (patterns, body) :: rest =>
      let found ← patterns.findM? fun p => isLike (output n) text p
      if found.isSome then
        if body.isSome then evaluate n flow body else return 0
      else firstArm n flow text rest
termination_by structural n => n

def isolated : Nat → Flow → Nat → Option Script → List Redirect → Act Nat
  | 0, _, _, _, _ => exhausted
  | n + 1, flow, line, body, redirects => do
    setLine line
    let targets ← targetsOf (output n) redirects
    let within : Act Unit := do
      let _ ← targets.foldlM (fun changed t => redirect (output n) changed t) []
      let _ ← evaluate n { flow with last := true } body
    if flow.last && !(← hasTraps) then
      within
      return 0
    else
      let exit ← inProcess (conclude n) within
      mourn exit
      return exit.code
termination_by structural n => n

def inBackground : Nat → Nat → Option Script → List Redirect → Act Nat
  | 0, _, _, _ => exhausted
  | n + 1, line, body, redirects => do
    if line != 0 then setLine line
    let targets ← targetsOf (output n) redirects
    startInBackground targets body
    return 0
termination_by structural n => n

def pipeline : Nat → Flow → List Script → Bool → Act Nat
  | 0, _, _, _ => exhausted
  | n + 1, flow, commands, background => do
    if background then
      startInBackground [] (some (.pipeline commands false))
      return 0
    else piped n { flow with last := true } commands (← opening? 0) true 0
termination_by structural n => n

/-- Carries out the commands of a pipe, each with the output of the one before as its input. -/
def piped : Nat → Flow → List Script → Option Nat → Bool → Nat → Act Nat
  | 0, _, _, _, _, _ => exhausted
  | n + 1, flow, commands, input, first, status => do
    match commands with
    | [] => return status
    | command :: rest =>
      let pipe ← if rest.isEmpty then pure none
        else modifyGet fun w =>
          let (kernel, reader, writer) := w.kernel.putPipe
          (some (reader, writer), { w with kernel })
      let exit ← inProcess (conclude n) do
        if !first then setStream 0 input
        match pipe with
        | some (_, writer) => setStream 1 (some writer)
        | none => pure ()
        let _ ← evaluate n flow (some command)
      mourn exit
      piped n flow rest (pipe.map (·.1)) false exit.code
termination_by structural n => n

def output : Nat → Option Script → Act Octets
  | 0, _ => exhausted
  | n + 1, script => do
    match script with
    | none => return []
    | some s =>
      let (reader, writer) ← modifyGet fun w =>
        let (kernel, reader, writer) := w.kernel.putPipe
        ((reader, writer), { w with kernel })
      let exit ← inProcess (conclude n) do
        setStream 1 (some writer)
        let _ ← evaluate n { last := true } (some s)
      mourn exit
      modify ({ · with outputStatus := exit.code })
      return readable ((← get).kernel.ahead reader)
termination_by structural n => n

def simple : Nat → Flow → Nat → List Phrase → List Phrase → List Redirect → Act Nat
  | 0, _, _, _, _, _ => exhausted
  | n + 1, flow, line, settings, words, redirects => do
    setLine line
    modify ({ · with outputStatus := 0 })
    let run := output n
    let (fields, words) ← replaceWords run words []
    let c : Calling := { fields, words }
    let c ← if fields.isEmpty then pure c else resolve run (words.length + fields.length + 8) c
    let argv ← if fields.isEmpty then pure [] else replaceRest run c
    let own := !fields.isEmpty && c.special != some true
    let exports := c.name == "exec".toList && c.isBuiltin && 1 < argv.length
    let depth := (← get).locals.length
    if own then modify fun w => { w with locals := [] :: w.locals }
    thenAlways (do
        let before ← opening? 2
        let targets ← targetsOf run redirects
        match ← redirectAll run targets with
        | .error status =>
          let status ← setStatus status
          if c.special == some true then stop .trouble
          return status
        | .ok changed =>
          let isExec := c.name == "exec".toList && c.isBuiltin && !argv.isEmpty
          let changed := if isExec then [] else changed
          thenAlways (do
              let shown ← settings.mapM fun word => do
                let o ← textOf run { homes := true } word
                let (name, value) := splitSetting o
                if own then makeLocal name value true
                else assign name value exports false
                return o
              trace run before (shown ++ (if argv.isEmpty then [] else fields.take (fields.length - c.fields.length) ++ argv))
              if argv.isEmpty then setStatus (← get).outputStatus
              else
                let path ← match c.path with
                  | some path => pure path
                  | none => pathList
                let meaning ← match c.meaning with
                  | .unknown => meaningOf c.name path c.functions false true
                  | meaning => pure meaning
                match meaning with
                | .unknown => setStatus 127
                | .builtin =>
                  let body := asCommand c.name (builtin n flow c.name (argv.drop 1))
                  if c.special == some true then body else enduring body
                | .function body => call n flow body (argv.drop 1)
                | .program place => program n flow path place argv)
            (restoreStreams changed))
      (restoreTo depth)
termination_by structural n => n

def builtin : Nat → Flow → Octets → List Octets → Act Nat
  | 0, _, _, _ => exhausted
  | n + 1, flow, name, arguments => do
    match builtin? name with
    | some body => body arguments
    | none =>
      match String.ofList name with
      | "eval" => runText n { tested := flow.tested } ([' '].intercalate arguments)
      | "." => dot n (← noOptions arguments)
      | "exec" =>
        match ← noOptions arguments with
        | [] => return 0
        | argv =>
          modify fun w => withOption (withOption w 'i' false) 'm' false
          replace n (← pathList) (some 0) argv
          return 0
      | "command" =>
        let g ← options "pvV" "" arguments
        let path := if g.has 'p' then some defaultPath else none
        match g.rest with
        | [] => return 0
        | name :: _ =>
          if g.has 'v' || g.has 'V' then describe name path (g.has 'V') else return 0
      | "wait" => wait n (← noOptions arguments)
      | _ => return 0
termination_by structural n => n

/-- Waits for all processes in the background, or for those that are named.  A signal that a trap is
set for ends the waiting. -/
def wait : Nat → List Octets → Act Nat
  | 0, _ => exhausted
  | n + 1, arguments => do
    match ← runUntilSignal n with
    | some signal => return Exit.code (.signal signal)
    | none =>
      if arguments.isEmpty then return 0
      else
        arguments.foldlM (fun _ o => do
          match ← jobOf? o with
          | some j =>
            match j.exit with
            | some exit =>
              if !j.told then mourn exit
              modify fun w => { w with
                jobs := w.jobs.map fun (k : Job) =>
                  if k.number == j.number then { k with told := true } else k }
              return exit.code
            | none => return 127
          | none => return 127) 127
termination_by structural n => n

/-- Carries out the processes in the background until there are no more, or a signal has come that a
trap is set for. -/
def runUntilSignal : Nat → Act (Option Nat)
  | 0 => exhausted
  | n + 1 => do
    if ← runFirst n then
      match (← get).arrived.filter (· != Signal.childEnded) with
      | signal :: _ => return some signal
      | [] => runUntilSignal n
    else return none
termination_by structural n => n

def dot : Nat → List Octets → Act Nat
  | 0, _ => exhausted
  | n + 1, arguments => do
    match arguments with
    | [] => return 0
    | name :: _ =>
      let file ← if name.contains '/' then pure name
        else do
          let w ← get
          let isFile (path : Octets) : Bool :=
            match w.kernel.tree.find w.here path.toText true with
            | .ok id =>
              match w.kernel.tree.node? id with
              | some (.file _ _) | some (.utility _) => true
              | _ => false
            | .error _ => false
          match ((searchList (← pathList)).map fun d => inDirectory d name).find? isFile with
          | some path => pure path
          | none => fail (name ++ ": not found".toList)
      let id ← openFile .read file
      let before ← get
      set { before with origin := .opening id, command := some file }
      thenAlways (runSource n false { rest := [] } 0 0)
        (modify fun w => { w with origin := before.origin, readLine := before.readLine })
termination_by structural n => n

def call : Nat → Flow → Option Script → List Octets → Act Nat
  | 0, _, _, _ => exhausted
  | n + 1, flow, body, arguments => do
    let before ← get
    if deepestCall ≤ before.calls then
      failText "Maximum function recursion depth (1000) reached"
    set { before with
      calls := before.calls + 1, loops := 0, arguments,
      nextOption := 1, optionPlace := none }
    thenAlways (do
        let _ ← evaluate n { tested := flow.tested } body
        modify fun w => { w with
          skip := match w.skip with
            | some (.returning _) => none
            | skip => skip }
        return (← get).status)
      (modify fun w => { w with
        calls := before.calls, loops := before.loops,
        arguments := before.arguments, nextOption := before.nextOption,
        optionPlace := before.optionPlace })
termination_by structural n => n

def program : Nat → Flow → Octets → Option Nat → List Octets → Act Nat
  | 0, _, _, _, _ => exhausted
  | n + 1, flow, path, place, argv => do
    if flow.last && !(← hasTraps) then
      replace n path place argv
      return 0
    else
      let exit ← inProcess (conclude n) (replace n path place argv)
      mourn exit
      return exit.code
termination_by structural n => n

def replace : Nat → Octets → Option Nat → List Octets → Act Unit
  | 0, _, _, _ => exhausted
  | n + 1, path, place, argv => do
    let w ← get
    let name := argv.headD []
    let paths := if name.contains '/' then [name]
      else ((searchList path).drop (place.getD 0)).map fun d => inDirectory d name
    match loadAlong w argv paths .noEntry with
    | .ok (utility, argv) =>
      let (exit, kernel) := runUtility n utility argv (handedOn w)
      modify ({ · with kernel })
      stop (.finished exit)
    | .error fault =>
      warnUnknown name fault
      modify ({ · with status := refusalStatus fault })
      stop (.leave false)
termination_by structural n => n

def runTraps : Nat → Act Unit
  | 0 => exhausted
  | n + 1 => do
    let w ← get
    match if w.skip.isSome then none else w.arrived.mergeSort.head? with
    | none => return
    | some signal =>
      let status := w.kept.getD w.status
      set { w with arrived := w.arrived.filter (· != signal), kept := some status }
      match w.traps.lookup signal with
      | none => pure ()
      | some action =>
        let _ ← runText n {} action
        if (← get).skip != some (.returning true) then
          let _ ← setStatus status
      modify ({ · with kept := w.kept })
      runTraps n
termination_by structural n => n

def runText : Nat → Flow → Octets → Act Nat
  | 0, _, _ => exhausted
  | n + 1, flow, text => do
    let before := (← get).readLine
    thenAlways (portions n flow { rest := text } 0)
      (modify ({ · with readLine := before }))
termination_by structural n => n

def portions : Nat → Flow → Reader → Nat → Act Nat
  | 0, _, _, _ => exhausted
  | n + 1, flow, r, status => do
    let w ← get
    let r := { r with aliases := w.aliases, documents := w.documents }
    match (Reading.portion readDepth).run r with
    | .error t =>
      modify ({ · with line := t.line })
      failText t.reason
    | .ok (.finished, _) => return status
    | .ok (.commands script last, r) =>
      modify ({ · with documents := r.documents, readLine := r.line })
      let k ← evaluate n { flow with last := flow.last && last } script
      let status := if script.isSome then k else status
      if (← get).skip.isSome then return status else portions n flow r status
termination_by structural n => n

/-- Reads and carries out one portion of a script after another.  The number of characters that have
been told of before they were read is kept. -/
def runSource : Nat → Bool → Reader → Nat → Nat → Act Nat
  | 0, _, _, _, _ => exhausted
  | n + 1, top, r, told, status => do
    let interactive := top && (← has 'i')
    if interactive then
      askWith (output n) "PS1"
    let w ← get
    let coming ← yetToCome
    let whole := r.rest ++ coming
    let r := { r with
      rest := whole, aliases := w.aliases, documents := w.documents }
    let proceed (left : Nat) (lineBreaks : Nat) : Act Nat := do
      if interactive then
        (List.range lineBreaks).forM fun _ => askWith (output n) "PS2"
      tellLines whole (whole.length - left) told
    match (Reading.portion readDepth).run r with
    | .error t =>
      let _ ← takeRead coming (whole.drop (whole.length - t.left))
      let _ ← proceed t.left (t.line - r.line)
      modify ({ · with line := t.line })
      if interactive then
        match ← attempt (failText (α := Nat) t.reason) with
        | .error (.finished exit) => stop (.finished exit)
        | _ => runSource n top { rest := [], line := t.line } 0 troubleStatus
      else failText t.reason
    | .ok (portion, after) =>
      let told ← proceed after.rest.length (after.line - r.line - 1)
      let rest ← takeRead coming after.rest
      let after := { after with rest }
      modify ({ · with documents := after.documents, readLine := after.line })
      match portion with
      | .finished =>
        if interactive then
          let _ ← write 2 ['\n']
        return status
      | .commands script _ =>
        let k ← match ← attempt (evaluate n {} script) with
          | .ok k => pure k
          | .error .trouble => if interactive then pure troubleStatus else stop .trouble
          | .error s => stop s
        let status := if script.isSome then k else status
        match (← get).skip with
        | none => runSource n top after told status
        | some skip =>
          match skip with
          | .returning _ => modify ({ · with skip := none })
          | _ => pure ()
          return status
termination_by structural n => n

/-- Comes to the end of a process: its last trap is carried out, and so is what is left in the
background. -/
def conclude : Nat → Except Stop Unit → Act Exit
  | 0, _ => exhausted
  | n + 1, result => do
    let settled (chosen : Bool) : Act Unit :=
      modify fun w => { w with
        status := if chosen || w.skip == some (.returning false) then w.kept.getD w.status
          else w.status
        kept := none, skip := none, loops := 0, command := none }
    let exit ← match result with
      | .error (.finished exit) => pure exit
      | result => do
        settled (match result with
          | .error (.leave chosen) => chosen
          | .error _ => false
          | .ok _ => true)
        let w ← get
        match w.traps.lookup 0 with
        | none => pure ()
        | some action =>
          setTrap 0 none
          modify ({ · with kept := some w.status })
          match ← attempt (runText n {} action) with
          | .ok _ => modify ({ · with status := w.status, kept := none })
          | .error (.finished exit) => stop (.finished exit)
          | .error (.leave chosen) => settled chosen
          | .error .trouble => settled false
        pure (.status ((← get).status % 256))
    runWaiting n
    return exit
termination_by structural n => n

def runWaiting : Nat → Act Unit
  | 0 => exhausted
  | n + 1 => do
    if ← runFirst n then runWaiting n
termination_by structural n => n

/-- Carries out the first process that was begun in the background, if there is one. -/
def runFirst : Nat → Act Bool
  | 0 => exhausted
  | n + 1 => do
    match (← get).waiting with
    | [] => return false
    | (id, targets, body, start) :: rest =>
      let w ← get
      let go : Act Exit := do
        let result ← attempt do
          receiveAll
          let _ ← targets.foldlM (fun changed t => redirect (output n) changed t) []
          let _ ← evaluate n { last := true } body
        conclude n result
      let (result, child) := go.run.run { start with kernel := w.kernel }
      let exit := match result with
        | .ok exit | .error (.finished exit) => exit
        | .error _ => .status troubleStatus
      set { w with
        kernel := child.kernel.reap id, waiting := rest
        jobs := w.jobs.map fun (j : Job) => if j.process == id then { j with exit := some exit } else j }
      receive Signal.childEnded
      receiveAll
      return true
termination_by structural n => n

def runUtility : Nat → Utility → List Octets → Process → Exit × Kernel
  | 0, _, _, p => (.status troubleStatus, p.kernel)
  | n + 1, utility, argv, p =>
    match utility with
    | .succeed => (.status 0, p.kernel)
    | .fail => (.status 1, p.kernel)
    | .format =>
      let printing := Format.Program.run argv
      let go : Act Exit := do
        printing.complaints.reverse.forM fun o => do
          let _ ← write 2 (o ++ ['\n'])
        if ← write 1 printing.printed then return .status printing.status
        else
          let _ ← write 2 (printing.name ++ ": write error: Bad file descriptor\n".toList)
          return .status 1
      let (result, w) := go.run.run (workOf p)
      match result with
      | .ok exit | .error (.finished exit) => (exit, w.kernel)
      | .error _ => (.status 1, w.kernel)
    | .shell =>
      let (result, w) := (shell n argv p.entries).run.run (workOf p)
      match result with
      | .ok exit | .error (.finished exit) => (exit, w.kernel)
      | .error _ => (.status troubleStatus, w.kernel)
termination_by structural n => n

def shell : Nat → List Octets → List Octets → Act Exit
  | 0, _, _ => exhausted
  | n + 1, argv, entries => do
    let result ← attempt do
      takeUp entries
      let start ← readArguments argv
      if start.login then profile n
      match start.text with
      | some text =>
        let _ ← runText n { last := !(← has 's') } text
      | none => pure ()
      if start.text.isNone || (← has 's') then
        if (← get).skip.isNone then
          let _ ← runSource n true { rest := [] } 0 0
    conclude n result
termination_by structural n => n

/-- Carries out the file that a user keeps for the beginning of a session. -/
def profile : Nat → Act Unit
  | 0 => exhausted
  | n + 1 => do
    let file := (← homeDirectory).getD [] ++ "/.profile".toList
    let w ← get
    match w.kernel.openFile w.here file.toText .read 0 with
    | .error _ => return
    | .ok (kernel, id) =>
      set { w with kernel, origin := .opening id }
      let _ ← runSource n false { rest := [] } 0 0
      modify ({ · with origin := w.origin })
termination_by structural n => n

end

end Act
end LineShell.Machine