import TemplateVariants.Utility.Copy

/-!
# Scratch files

`mktemp` makes a file or a directory of a name that nothing has yet, and writes its path. The last
run of the letter X in a template is what varies.
-/

namespace TemplateVariants
namespace Scratch

structure Manner where
  isDirectory : Bool := false
  isDry : Bool := false
  isQuiet : Bool := false
  inTemporary : Bool := false
  directory? : Option Octets := none
  suffix : Octets := []

def table : OptionTable where
  shorts := [('d', .nothing), ('u', .nothing), ('q', .nothing), ('t', .nothing), ('p', .value)]
  longs :=
    [("directory", .nothing, 'd'), ("dry-run", .nothing, 'u'), ("quiet", .nothing, 'q'),
      ("tmpdir", .optional, 'P'), ("suffix", .value, 's')]

def Manner.set (m : Manner) (setting : Setting) : Manner :=
  match setting.letter with
  | 'd' => { m with isDirectory := true }
  | 'u' => { m with isDry := true }
  | 'q' => { m with isQuiet := true }
  | 't' => { m with inTemporary := true }
  | 'p' => { m with directory? := some setting.value }
  | 'P' =>
    { m with
      directory? := if setting.value.isEmpty then none else some setting.value
      inTemporary := true }
  | 's' => { m with suffix := setting.value }
  | _ => m

/-- The parts of a template before and after its last run of the letter X, and how long the run
is. -/
def parts (template : Octets) : Octets × Nat × Octets :=
  let back := template.reverse.takeWhile (· ≠ 'X')
  let rest := template.reverse.drop back.length
  let marks := rest.takeWhile (· = 'X')
  ((rest.drop marks.length).reverse, marks.length, back.reverse)

/-- A text of so many letters for a number. -/
def letters (width n : Nat) : Octets :=
  let digits := Nat.toDigits 16 n
  List.replicate (width - digits.length) '0' ++ digits

/-- The first of so many paths that leads to nothing, and its place. -/
def free? (files : FileTree) (path : Nat → Octets) :
    Nat → Nat → Except StorageFault (Octets × List String)
  | 0, _ => .error .exists
  | fuel + 1, n => do
    let place ← files.locate (pathOfOctets (path n))
    if (files.node? place).isSome then free? files path fuel (n + 1) else return (path n, place)

end Scratch

open Scratch in
def mktemp : Utility := fun call =>
  let read := table.read call.arguments
  let m := read.settings.foldl Manner.set {}
  match read.fault?, read.operands with
  | some what, _ => call.refuseUsage what
  | none, _ :: _ :: _ => call.refuseUsage (Text.octets "too many templates")
  | none, operands =>
    let usual := Text.octets "tmp.XXXXXXXXXX"
    let template := operands.headD usual ++ m.suffix
    let temporary :=
      (m.directory? <|> (call.environment.lookup "TMPDIR").filter (!·.isEmpty)).getD
        (Text.octets "/tmp")
    let template :=
      if operands.isEmpty ∨ m.inTemporary ∨ m.directory?.isSome then
        Transfer.inside temporary template
      else template
    let (before, width, after) := parts template
    if width < 3 then
      call.refuse (Text.octets "too few X's in template " ++
        Quoting.quoteName (operands.headD usual))
    else
      let path (n : Nat) : Octets := before ++ letters width n ++ after
      match free? call.files path (call.files.nodes.size + 2) 0 with
      | .error fault =>
        let kind := if m.isDirectory then "directory" else "file"
        let reply := call.refuse (Text.octets ("failed to create " ++ kind ++ " via template ") ++
          Quoting.quoteName template ++ Text.octets (": " ++ fault.reason))
        if m.isQuiet then { reply with errors := [] } else reply
      | .ok (path, place) =>
        let reply := call.done.say (path ++ ['\n'])
        if m.isDry then reply
        else if m.isDirectory then
          { reply with files := (call.files.put place .directory).permit place 0o700 }
        else { reply with files := (call.files.put place (.file .empty)).permit place 0o600 }

end TemplateVariants
