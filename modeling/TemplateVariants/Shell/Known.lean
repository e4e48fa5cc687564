import TemplateVariants.Shell.State
import TemplateVariants.Utility.Basic

/-!
# Known programs

A shell keeps in mind where it has found programs, and tells so. What it knows is stale once it has
changed its directory, and it forgets all when the directories that are searched change.
-/

namespace TemplateVariants
namespace Shell
namespace State

/-- The path of a program that the shell knows. -/
def knownPath? (s : State) (word : Octets) : Option Octets :=
  ((s.known.lookup (String.ofList word)).filter (!·.isStale)).map (·.path)

/-- Keeps in mind where a program is, unless the word is a path. -/
def remember (s : State) (word path : Octets) : State :=
  let name := String.ofList word
  if word.contains '/' then s
  else if (s.known.lookup name).isSome then
    { s with known := s.known.map fun entry => if entry.1 = name then (name, { path }) else entry }
  else { s with known := s.known ++ [(name, { path })] }

/-- The state in which all that is known is stale. -/
def forgetful (s : State) : State :=
  { s with known := s.known.map fun (name, known) => (name, { known with isStale := true }) }

/-- Where a program stands in the listing. -/
def knownRank (name : String) : Nat :=
  let codes := (Text.octets name).map Char.toNat
  (16 * codes.headD 0 + codes.foldl (· + ·) 0) % 31

/-- The paths of the programs that are known, those that are stale with a star. -/
def knownListing (s : State) : Octets :=
  let sorted := s.known.mergeSort fun a b => decide (knownRank a.1 ≤ knownRank b.1)
  sorted.flatMap fun (_, known) => known.path ++ (if known.isStale then ['*', '\n'] else ['\n'])

/-- The utility that a command leads to, and its path. -/
def search (s : State) (find : Finder) (command : Octets) :
    Except StorageFault (Octets × Utility) :=
  find.search ((s.value? "PATH").getD []) s.files command

/-- Where what a command leads to is; a command with a slash leads to what is there, whether or not
it may be run. -/
def place? (s : State) (find : Finder) (command : Octets) : Option Octets :=
  if command.contains '/' ∧ (s.files.find (pathOfOctets command)).toOption.isSome then some command
  else (s.search find command).toOption.map Prod.fst

end State
end Shell
end TemplateVariants
