import TemplateVariants.Expand.Command
import TemplateVariants.Template.Document

/-!
# Compiling documents

A document is expanded in passes. A pass expands every command that stands in a line, from the
first line to the last and from left to right, and puts the new lines around the line they belong
to. Passes end when no command is left; the text of the lines is then the variant. A fault is
reported with the number of the line of the template that the failing line comes from.
-/

namespace TemplateVariants

open Randomness

/-- A line in the making, and the number of the line of the template it comes from, which errors tell
by `Location.ofNumber`. -/
structure PendingLine where
  origin : Nat
  tokens : Line

namespace PendingLine

/-- The lines of a document before any pass. -/
def ofDocument (doc : Document) : List PendingLine :=
  doc.lines.mapIdx fun i tokens => ⟨i + 1, tokens⟩

/-- How many commands a pass over the lines expands. -/
def commandCount (lines : List PendingLine) : Nat :=
  (lines.flatMap PendingLine.tokens).countP Token.isCommand

/-- The text of the lines. -/
def text (lines : List PendingLine) : String :=
  String.join (lines.flatMap fun line => line.tokens.filterMap Token.text?)

end PendingLine

/-- The event of having read a document. -/
def Document.parsedEvent (doc : Document) : Event :=
  .parsed doc.file doc.lines.length doc.commandCount

/-- What a compilation is limited by. -/
structure Options where
  maxPasses : Nat := 1000
  maxCollectionSize : Nat := 100000
deriving DecidableEq, Repr

/-- The outcome of a compilation, and the session it ended with. -/
structure Compilation (G : Type) where
  outcome : Except (Halt CompileError) String
  session : Session G

section Passes

variable {G : Type} [WordSource G]

/-- The lines that take the place of a line. -/
def PendingLine.expand (file : String) (line : PendingLine) :
    Compiling CompileError G (List PendingLine) :=
  Compiling.mapFault (fun cause => CompileError.locate ⟨cause, none⟩ file line.origin) do
    let parts ← line.tokens.mapM (Token.expand line.tokens)
    let expanded := Replacement.within parts (.plain (parts.flatMap Replacement.result))
    return (expanded.before ++ expanded.result :: expanded.after).map fun tokens =>
      ⟨line.origin, tokens⟩

/-- One pass over all lines. -/
def expandPass (file : String) (lines : List PendingLine) :
    Compiling CompileError G (List PendingLine) := do
  return (← lines.mapM (PendingLine.expand file)).flatten

/-- Passes over the lines until no command is left; `left` more are allowed after the `passes` so
far. -/
def settle (file : String) (left passes : Nat) (lines : List PendingLine) :
    Compiling CompileError G (Nat × List PendingLine) :=
  if PendingLine.commandCount lines = 0 then
    return (passes, lines)
  else
    match left with
    | 0 => Compiling.fail ⟨.divergence passes, none⟩
    | left + 1 => do
      let next ← expandPass file lines
      Compiling.record
        (.expanded file (passes + 1) (PendingLine.commandCount lines) next.length)
      settle file left (passes + 1) next

namespace Document

/-- The steps of a compilation. -/
def run (doc : Document) (maxPasses : Nat) : Compiling CompileError G String := do
  let (passes, lines) ← settle doc.file maxPasses 0 (PendingLine.ofDocument doc)
  let s ← get
  Compiling.record (.compiled doc.file passes s.bindings.size s.identifiers.size)
  return PendingLine.text lines

/-- Compiles a document once, in a session of its own. -/
def compile (doc : Document) (options : Options) (dice : Dice G) : Compilation G :=
  match doc.run options.maxPasses
      { dice, maxCollectionSize := options.maxCollectionSize } with
  | .ok text session => ⟨.ok text, session⟩
  | .error halt session => ⟨.error halt, session⟩

end Document

end Passes

end TemplateVariants
