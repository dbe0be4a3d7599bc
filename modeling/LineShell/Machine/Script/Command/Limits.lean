import LineShell.Machine.Script.Command.Options

/-! The built-in command about limits.  Nothing is limited here. -/
namespace LineShell.Machine
namespace Act

/-- What a limit may be set on, by its letter. -/
def limited : String := "tfdscmlpnvwr"

def ulimit (arguments : List Octets) : Act Nat := do
  let g ← options ("HSa" ++ limited) "" arguments
  match g.rest with
  | [] =>
    if !g.has 'a' then sayText "unlimited\n"
    return 0
  | [o] =>
    if g.has 'a' then failText "too many arguments"
    else if o == "unlimited".toList || o.all Char.isDigit then return 0
    else failText "bad number"
  | _ => failText "too many arguments"

end Act
end LineShell.Machine
