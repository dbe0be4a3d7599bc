import LineShell.Program
import LineShell.Machine

/-! The command line: a shell on a machine held in memory, which reads the lines of standard input. -/
namespace LineShell.Main

def home : String := "/home/user"

def environment : Environment := .ofList [("PATH", "/usr/bin:/bin"), ("HOME", home)]

def setting : Setting Machine := { env := environment, host := Machine.fresh home }

def reading (line : List UInt8) : Reading :=
  match ofUtf8? line with
  | some text => { reply := .line text }
  | none => { reply := .failed (.editor (.system .notText)) }

end LineShell.Main

open LineShell in
def main (args : List String) : IO UInt32 := do
  let stdin ← IO.getStdin
  let input ← stdin.readBinToEnd
  let report := Program.run ((linesOf 10 13 input.toList).map Main.reading) args Main.setting
  let out ← IO.getStdout
  out.write ⟨report.out.toArray⟩
  out.flush
  let err ← IO.getStderr
  err.write ⟨report.err.toArray⟩
  err.flush
  match report.outcome with
  | .exited status => return status.toUInt32
  | .signaled number => return (128 + number).toUInt32
  | .refused _ | .lost _ => return 1
