import TemplateVariants.Storage.Permission
import TemplateVariants.Utility.Options
import TemplateVariants.Utility.Quoting

/-!
# Listing directories

`ls` writes the names in directories, one on each line, in the order of their bytes. Names that
start with a point are hidden.
-/

namespace TemplateVariants
namespace Listing

open Quoting

structure Manner where
  showsHidden : Bool := false
  showsDots : Bool := false
  itself : Bool := false
  recursive : Bool := false
  backwards : Bool := false
  isLong : Bool := false
  mark? : Option Char := none
  bySize : Bool := false
  unsorted : Bool := false
  byExtension : Bool := false
  withCommas : Bool := false

def table : OptionTable where
  shorts := "aACdFfGgHhiklLmnNopqrRsSStuUvXx1bBcQ".toList.map fun c => (c, .nothing)
  longs :=
    [("all", .nothing, 'a'), ("almost-all", .nothing, 'A'), ("directory", .nothing, 'd'),
      ("classify", .optional, 'F'), ("recursive", .nothing, 'R'), ("reverse", .nothing, 'r'),
      ("color", .optional, 'N'), ("human-readable", .nothing, 'h'), ("size", .nothing, 's'),
      ("literal", .nothing, 'N')]

def Manner.set (m : Manner) (setting : Setting) : Manner :=
  match setting.letter with
  | 'a' => { m with showsHidden := true, showsDots := true }
  | 'A' => { m with showsHidden := true, showsDots := false }
  | 'd' => { m with itself := true }
  | 'R' => { m with recursive := true }
  | 'r' => { m with backwards := true }
  | 'l' | 'n' | 'o' | 'g' => { m with isLong := true, withCommas := false }
  | '1' => { m with withCommas := false }
  | 'm' => { m with withCommas := true, isLong := false }
  | 'F' => { m with mark? := some 'F' }
  | 'p' => { m with mark? := some 'p' }
  | 'S' => { m with bySize := true }
  | 'U' => { m with unsorted := true }
  | 'f' => { m with unsorted := true, showsHidden := true, showsDots := true }
  | 'X' => { m with byExtension := true }
  | _ => m

/-- An entry of a listing: a name and the place that it stands for. -/
structure Entry where
  name : Octets
  place : List String

def sizeAt (files : FileTree) (place : List String) : Nat :=
  match files.node? place with
  | some (.file bytes) => bytes.size
  | _ => 4096

/-- How many kilobytes a file takes up. -/
def blocksAt (files : FileTree) (place : List String) : Nat :=
  (sizeAt files place + 4095) / 4096 * 4

def extension (name : Octets) : Octets :=
  let backwards := name.reverse
  match backwards.dropWhile (· ≠ '.') with
  | [] => []
  | _ => '.' :: (backwards.takeWhile (· ≠ '.')).reverse

/-- The entries in the order of the listing. -/
def Manner.sort (m : Manner) (files : FileTree) (entries : List Entry) : List Entry :=
  let byName := entries.mergeSort fun a b => !decide (b.name < a.name)
  let sorted :=
    if m.bySize then
      byName.mergeSort fun a b => decide (sizeAt files b.place ≤ sizeAt files a.place)
    else if m.byExtension then
      byName.mergeSort fun a b => !decide (extension b.name < extension a.name)
    else byName
  if m.backwards ∧ !m.unsorted then sorted.reverse else sorted

/-- The name of an entry with a mark for what it is. -/
def Manner.label (m : Manner) (files : FileTree) (entry : Entry) : Octets :=
  let mark : Octets :=
    match m.mark? with
    | none => []
    | some kind =>
      if files.isDirectoryAt entry.place then ['/']
      else if kind = 'F' ∧ files.isExecutableAt entry.place then ['*']
      else []
  entry.name ++ mark

def padLeft (width : Nat) (text : Octets) : Octets :=
  List.replicate (width - text.length) ' ' ++ text

/-- The lines of some entries. -/
def Manner.lines (m : Manner) (files : FileTree) (entries : List Entry) : Octets :=
  if m.isLong then
    let links (entry : Entry) : Nat :=
      if files.isDirectoryAt entry.place then
        2 + ((files.children entry.place).filter fun child =>
          files.isDirectoryAt (entry.place ++ [child.1])).length
      else 1
    let widest (number : Entry → Nat) : Nat :=
      (entries.map fun entry => (Nat.toDigits 10 (number entry)).length).foldl max 0
    let width := widest fun entry => sizeAt files entry.place
    let linkWidth := widest links
    entries.flatMap fun entry =>
      let kind := if files.isDirectoryAt entry.place then 'd' else '-'
      kind :: Permission.text (files.permissions entry.place) ++
        ' ' :: padLeft linkWidth (Nat.toDigits 10 (links entry)) ++ Text.octets " root root " ++
        padLeft width (Nat.toDigits 10 (sizeAt files entry.place)) ++
        Text.octets " Jan  1 00:00 " ++ m.label files entry ++ ['\n']
  else if m.withCommas then
    if entries.isEmpty then [] else
      List.intercalate [',', ' '] (entries.map (m.label files)) ++ ['\n']
  else entries.flatMap fun entry => m.label files entry ++ ['\n']

/-- The entries of the directory at a place. -/
def Manner.entriesOf (m : Manner) (files : FileTree) (place : List String) : List Entry :=
  let all :=
    (files.children place).map fun (name, _) => Entry.mk (Text.octets name) (place ++ [name])
  let shown := all.filter fun entry => m.showsHidden || entry.name.head? != some '.'
  let dots := if m.showsDots then [Entry.mk ['.'] place, Entry.mk ['.', '.'] place.dropLast] else []
  m.sort files (dots ++ shown)

def Manner.block (m : Manner) (files : FileTree) (entries : List Entry) : Octets :=
  let total := (entries.map fun entry => blocksAt files entry.place).foldl (· + ·) 0
  (if m.isLong then Text.octets ("total " ++ Nat.repr total ++ "\n") else []) ++
    m.lines files entries

/-- The blocks of a directory and of those in it; the number bounds the depth. -/
def Manner.blocks (m : Manner) (files : FileTree) : Nat → Entry → List Octets
  | 0, _ => []
  | depth + 1, entry =>
    let entries := m.entriesOf files entry.place
    let inner := entries.filter fun child =>
      m.recursive && files.isDirectoryAt child.place && child.name != ['.'] &&
        child.name != ['.', '.']
    let path (child : Entry) : Octets :=
      if entry.name.getLast? = some '/' then entry.name ++ child.name
      else entry.name ++ '/' :: child.name
    (entry.name ++ [':', '\n'] ++ m.block files entries) ::
      inner.flatMap fun child => m.blocks files depth { child with name := path child }

/-- How deeply directories may stand in each other. -/
def maxDepth : Nat := 4096

end Listing

def ls : Utility := fun call =>
  let read := Listing.table.read call.arguments
  match read.fault? with
  | some what => call.refuseUsage what 2
  | none =>
    let m := read.settings.foldl Listing.Manner.set {}
    let operands := if read.operands.isEmpty then [['.']] else read.operands
    let found := operands.map fun operand =>
      match call.files.locate (pathOfOctets operand) with
      | .error fault => Except.error (operand, fault)
      | .ok place =>
        if (call.files.node? place).isNone then .error (operand, StorageFault.missing)
        else .ok (Listing.Entry.mk operand place)
    let entries := m.sort call.files (found.filterMap (·.toOption))
    let (directories, files) := entries.partition fun entry =>
      !m.itself && call.files.isDirectoryAt entry.place
    let blocks := directories.flatMap (m.blocks call.files Listing.maxDepth)
    let isBare := operands.length = 1 ∧ !m.recursive
    let shown :=
      if isBare then
        directories.map fun entry => m.block call.files (m.entriesOf call.files entry.place)
      else blocks
    let parts := (if files.isEmpty then [] else [m.lines call.files files]) ++ shown
    let reply := found.foldl
      (fun reply one =>
        match one with
        | .ok _ => reply
        | .error (operand, fault) =>
          reply.complain call
            (Text.octets "cannot access " ++ Quoting.quoteName operand ++
              Text.octets (": " ++ fault.reason)) 2)
      call.done
    reply.say (List.intercalate ['\n'] parts)

end TemplateVariants
