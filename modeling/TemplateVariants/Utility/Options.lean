import TemplateVariants.Utility.Basic

/-!
# Options of utilities

Short options are letters after a hyphen, and several of them may share one; long options are words
after two hyphens, and the start of a word will do if no other word starts so. Options may stand
between the operands, until two hyphens alone.
-/

namespace TemplateVariants

/-- Whether an option comes with a value. One that may have a value has it in the same argument. -/
inductive Need where
  | nothing
  | value
  | optional
deriving DecidableEq, Repr

/-- The options that a utility knows; a long option does what a short one does. They may stand
between the operands unless they have to come first. -/
structure OptionTable where
  shorts : List (Char × Need)
  longs : List (String × Need × Char)
  comeFirst : Bool := false

/-- An option with its value. -/
structure Setting where
  letter : Char
  value : Octets := []

/-- What arguments say: the settings up to the first fault, the operands, and the fault. -/
structure Settings where
  settings : List Setting := []
  operands : List Octets := []
  fault? : Option Octets := none

namespace Settings

def add (s : Settings) (setting : Setting) : Settings :=
  { s with settings := setting :: s.settings }

def fail (s : Settings) (what : Octets) : Settings :=
  { s with fault? := some what }

end Settings

namespace OptionTable

/-- The long options that a word may mean: the one that it is, or those that it starts. -/
def meant (table : OptionTable) (word : Octets) : List (String × Need × Char) :=
  match table.longs.find? fun long => long.1.toList = word with
  | some long => [long]
  | none => table.longs.filter fun long => word.isPrefixOf long.1.toList

def quote (text : Octets) : Octets :=
  '\'' :: text ++ ['\'']

/-- Reads arguments; the number bounds them, and the result is held backwards. -/
def readFrom (table : OptionTable) : Nat → List Octets → Settings → Settings
  | 0, _, s => s
  | _, [], s => s
  | fuel + 1, arg :: args, s =>
    match arg with
    | ['-', '-'] => { s with operands := args.reverse ++ s.operands }
    | '-' :: '-' :: word => long fuel word args s
    | '-' :: c :: cs => letters fuel (c :: cs) args s
    | _ =>
      if table.comeFirst then { s with operands := args.reverse ++ arg :: s.operands }
      else table.readFrom fuel args { s with operands := arg :: s.operands }
where
  /-- Reads a long option and goes on. -/
  long (fuel : Nat) (word : Octets) (args : List Octets) (s : Settings) : Settings :=
    let name := word.takeWhile (· ≠ '=')
    let value? := if word.contains '=' then some (word.drop (name.length + 1)) else none
    match table.meant name, value? with
    | [], _ => s.fail (Text.octets "unrecognized option " ++ quote ("--".toList ++ word))
    | [(full, .nothing, letter)], value? =>
      match value? with
      | none => table.readFrom fuel args (s.add { letter })
      | some _ =>
        s.fail (Text.octets ("option '--" ++ full ++ "' doesn't allow an argument"))
    | [(_, .optional, letter)], value? =>
      table.readFrom fuel args (s.add { letter, value := value?.getD [] })
    | [(full, .value, letter)], value? =>
      match value?, args with
      | some value, _ => table.readFrom fuel args (s.add { letter, value })
      | none, value :: args => table.readFrom fuel args (s.add { letter, value })
      | none, [] => s.fail (Text.octets ("option '--" ++ full ++ "' requires an argument"))
    | several, _ =>
      s.fail
        (Text.octets "option " ++ quote ("--".toList ++ word) ++
          Text.octets " is ambiguous; possibilities:" ++
          several.flatMap fun one => ' ' :: quote ("--".toList ++ one.1.toList))
  /-- Reads letters after one hyphen and goes on. -/
  letters (fuel : Nat) (cs : List Char) (args : List Octets) (s : Settings) : Settings :=
    match cs with
    | [] => table.readFrom fuel args s
    | c :: cs =>
      match table.shorts.lookup c with
      | none => s.fail (Text.octets "invalid option -- " ++ quote [c])
      | some .nothing => letters fuel cs args (s.add { letter := c })
      | some .optional => table.readFrom fuel args (s.add { letter := c, value := cs })
      | some .value =>
        match cs, args with
        | _ :: _, _ => table.readFrom fuel args (s.add { letter := c, value := cs })
        | [], value :: args => table.readFrom fuel args (s.add { letter := c, value })
        | [], [] => s.fail (Text.octets "option requires an argument -- " ++ quote [c])

/-- What arguments say. -/
def read (table : OptionTable) (args : List Octets) : Settings :=
  let s := table.readFrom args.length args {}
  { s with settings := s.settings.reverse, operands := s.operands.reverse }

end OptionTable

end TemplateVariants
