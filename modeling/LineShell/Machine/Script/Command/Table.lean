import LineShell.Machine.Script.Command.Directory
import LineShell.Machine.Script.Command.Jobs
import LineShell.Machine.Script.Command.Leaving
import LineShell.Machine.Script.Command.Limits
import LineShell.Machine.Script.Command.Mask
import LineShell.Machine.Script.Command.Names
import LineShell.Machine.Script.Command.Printing
import LineShell.Machine.Script.Command.Signals
import LineShell.Machine.Script.Command.Test
import LineShell.Machine.Script.Command.Variables

/-! The built-in commands that need no other commands, by their names. -/
namespace LineShell.Machine
namespace Act

def fixed (status : Nat) : Act Nat := return status

def timesText : String := "0m0.000000s 0m0.000000s\n0m0.000000s 0m0.000000s\n"

/-- The built-in command of a name, if it needs no other commands. -/
def builtin? (name : Octets) : Option (List Octets → Act Nat) :=
  match String.ofList name with
  | ":" | "true" => some fun _ => fixed 0
  | "false" => some fun _ => fixed 1
  | "echo" => some Printing.echo
  | "printf" => some Printing.printf
  | "[" | "test" => some (Test.run name)
  | "cd" | "chdir" => some cd
  | "pwd" => some pwd
  | "export" => some (mark "export" false)
  | "readonly" => some (mark "readonly" true)
  | "local" => some localNames
  | "unset" => some unsetNames
  | "set" => some setCommand
  | "shift" => some shiftCommand
  | "getopts" => some getoptsCommand
  | "read" => some readCommand
  | "trap" => some trap
  | "kill" => some kill
  | "hash" => some hash
  | "type" => some type
  | "alias" => some aliasCommand
  | "unalias" => some unalias
  | "umask" => some Mask.umask
  | "ulimit" => some ulimit
  | "times" => some fun _ => do
    sayText timesText
    return 0
  | "break" => some (leaveLoops .breaking)
  | "continue" => some (leaveLoops .continuing)
  | "return" => some leaveFunction
  | "exit" => some leaveShell
  | "jobs" => some fun _ => listJobs
  | "fg" | "bg" => some noJob
  | _ => none

end Act
end LineShell.Machine
