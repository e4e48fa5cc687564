import TemplateVariants.Text.Octets

/-!
# Modes

The modes of a shell, which are turned on and off by letters or by long names.
-/

namespace TemplateVariants
namespace Shell

/-- The modes that are on, by their letters. -/
structure Modes where
  on : List Char := []

/-- Whether modes after this sign are turned on; none if it is no such sign. -/
def isTurnedOn? (sign : Char) : Option Bool :=
  if sign = '-' then some true else if sign = '+' then some false else none

namespace Modes

def isOn (m : Modes) (letter : Char) : Bool :=
  m.on.contains letter

/-- The letters of all modes; some of them change nothing here. -/
def allLetters : List Char :=
  "pubaCEVvxsnmiIfe".toList

/-- The letters of the modes that are on. -/
def letters (m : Modes) : Octets :=
  allLetters.filter m.isOn

/-- Turns a mode on or off by its letter. -/
def set? (m : Modes) (isOn : Bool) (letter : Char) : Option Modes :=
  if allLetters.contains letter then
    some { on := if isOn then letter :: m.on else m.on.filter (· ≠ letter) }
  else none

/-- Whether a command that fails ends the script. -/
def exitsOnFailure (m : Modes) : Bool := m.isOn 'e'

/-- Whether a parameter without a value ends the script. -/
def mustBeSet (m : Modes) : Bool := m.isOn 'u'

/-- Whether commands are written to the error stream before they run. -/
def traces (m : Modes) : Bool := m.isOn 'x'

/-- Whether lines are written to the error stream when they have been read. -/
def repeats (m : Modes) : Bool := m.isOn 'v'

/-- Whether patterns stay as they are instead of becoming paths. -/
def withoutPaths (m : Modes) : Bool := m.isOn 'f'

/-- Whether a redirection may not take the place of a file. -/
def keepsFiles (m : Modes) : Bool := m.isOn 'C'

/-- Whether variables are exported when they get a value. -/
def exportsAll (m : Modes) : Bool := m.isOn 'a'

/-- Whether commands are read but not run. -/
def onlyReads (m : Modes) : Bool := m.isOn 'n'

/-- Whether the script asks for its lines. -/
def prompts (m : Modes) : Bool := m.isOn 'i'

/-- Whether jobs are to be controlled, for which there would have to be a terminal. -/
def controlsJobs (m : Modes) : Bool := m.isOn 'm'

/-- What is said if jobs are to be controlled: there is no terminal. -/
def noTerminal : String :=
  "can't access tty; job control turned off"

/-- The modes without the control of jobs. -/
def withoutJobs (m : Modes) : Modes :=
  { on := m.on.filter (· ≠ 'm') }

/-- Whether the script comes from the input. -/
def fromInput (m : Modes) : Bool := m.isOn 's'

/-- The modes of a script that comes from the input. -/
def reading (m : Modes) : Modes :=
  { on := 's' :: m.on.filter (· ≠ 's') }

/-- The modes by their long names. -/
def names : List (String × Char) :=
  [("errexit", 'e'), ("noglob", 'f'), ("ignoreeof", 'I'), ("interactive", 'i'), ("monitor", 'm'),
    ("noexec", 'n'), ("stdin", 's'), ("xtrace", 'x'), ("verbose", 'v'), ("vi", 'V'),
    ("emacs", 'E'), ("noclobber", 'C'), ("allexport", 'a'), ("notify", 'b'), ("nounset", 'u'),
    ("privileged", 'p')]

/-- The long names of modes that have no letter and change nothing. -/
def idleNames : List String :=
  ["nolog", "debug"]

/-- Turns modes on or off by their letters. -/
def setLetters (m : Modes) (isOn : Bool) (letters : List Char) : Except Octets Modes :=
  letters.foldlM
    (fun m letter =>
      match m.set? isOn letter with
      | some m => .ok m
      | none => .error (Text.octets "Illegal option -" ++ [letter]))
    m

/-- Turns a mode on or off by its long name. -/
def setName (m : Modes) (isOn : Bool) (name : Octets) : Except Octets Modes :=
  match (names.lookup (String.ofList name)).bind fun letter => m.set? isOn letter with
  | some m => .ok m
  | none =>
    if idleNames.contains (String.ofList name) then .ok m
    else .error (Text.octets "Illegal option -o " ++ name)

/-- Reads modes; gives the arguments after them, or none if there is nothing but modes. -/
def readFrom : Modes → List Octets → Except Octets (Modes × Option (List Octets))
  | m, [] => .ok (m, none)
  | m, ['-', '-'] :: args => .ok (m, some args)
  | m, ['-'] :: args =>
    .ok ({ on := m.on.filter fun letter => letter ≠ 'x' ∧ letter ≠ 'v' },
      if args.isEmpty then none else some args)
  | m, [sign, 'o'] :: name :: args =>
    match isTurnedOn? sign with
    | some isOn =>
      match m.setName isOn name with
      | .ok m => readFrom m args
      | .error what => .error what
    | none => .ok (m, some ([sign, 'o'] :: name :: args))
  | m, (sign :: letters) :: args =>
    match isTurnedOn? sign with
    | some isOn =>
      match m.setLetters isOn letters with
      | .ok m => readFrom m args
      | .error what => .error what
    | none => .ok (m, some ((sign :: letters) :: args))
  | m, [] :: args => .ok (m, some ([] :: args))

/-- The modes with their long names, as a table or as commands that would set them again. -/
def table (m : Modes) (asCommands : Bool) : Octets :=
  let line (name : String) (isOn : Bool) : Octets :=
    if asCommands then Text.octets ((if isOn then "set -o " else "set +o ") ++ name ++ "\n")
    else
      Text.octets name ++ List.replicate (16 - name.length) ' ' ++
        Text.octets (if isOn then "on\n" else "off\n")
  (if asCommands then [] else Text.octets "Current option settings\n") ++
    (names.flatMap fun (name, letter) => line name (m.isOn letter)) ++
    idleNames.flatMap fun name => line name false

end Modes

end Shell
end TemplateVariants
