import LineShell.Machine.Script.Work

/-! The options of built-in commands. -/
namespace LineShell.Machine

/-- Options that have been read, each with its argument if it takes one, and what follows them. -/
structure Given where
  options : List (Char × Option Octets) := []
  rest : List Octets := []

namespace Given

def has (g : Given) (c : Char) : Bool := g.options.any (·.1 == c)

def argument? (g : Given) (c : Char) : Option Octets := (g.options.reverse.lookup c).bind id

end Given

namespace Act

def readLetters (plainLetters withArgument : List Char) (letters : Octets) (rest : List Octets)
    (g : Given) : Act Given :=
  match letters with
  | [] => return { g with rest }
  | c :: letters =>
    if withArgument.contains c then
      match letters, rest with
      | [], [] => fail ("No arg for -".toList ++ c :: " option".toList)
      | [], a :: rest => return { options := g.options ++ [(c, some a)], rest }
      | letters, rest => return { options := g.options ++ [(c, some letters)], rest }
    else if plainLetters.contains c then
      readLetters plainLetters withArgument letters rest { g with options := g.options ++ [(c, none)] }
    else fail ("Illegal option -".toList ++ [c])

/-- Reads the options before the arguments of a command, at most so many. -/
def readOptions (plainLetters withArgument : String) : Nat → Given → Act Given
  | 0, g => return g
  | n + 1, g =>
    match g.rest with
    | ['-', '-'] :: rest => return { g with rest }
    | ('-' :: c :: letters) :: rest => do
      let g ← readLetters plainLetters.toList withArgument.toList (c :: letters) rest g
      readOptions plainLetters withArgument n g
    | _ => return g

def options (plainLetters withArgument : String) (arguments : List Octets) : Act Given :=
  readOptions plainLetters withArgument (arguments.length + 1) { rest := arguments }

def noOptions (arguments : List Octets) : Act (List Octets) :=
  return (← options "" "" arguments).rest

def singleQuoted (o : Octets) : Octets :=
  let rec go : Nat → Octets → Octets
    | 0, _ => []
    | n + 1, o =>
      let before := o.takeWhile (· != '\'')
      let after := o.drop before.length
      let quotes := after.takeWhile (· == '\'')
      let shown := '\'' :: before ++ ['\'']
      if after.isEmpty then shown
      else
        let rest := after.drop quotes.length
        shown ++ '"' :: quotes ++ '"' :: (if rest.isEmpty then [] else go n rest)
  go (o.length + 1) o

end Act
end LineShell.Machine
