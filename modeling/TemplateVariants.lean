import TemplateVariants.CommandLine.Arguments
import TemplateVariants.CommandLine.Log
import TemplateVariants.CommandLine.Run
import TemplateVariants.Expand.Command
import TemplateVariants.Expand.Document
import TemplateVariants.Expand.Fresh
import TemplateVariants.Expand.ListForm
import TemplateVariants.Expand.Replacement
import TemplateVariants.Expand.Session
import TemplateVariants.Failure
import TemplateVariants.Numeral.Binary
import TemplateVariants.Numeral.Decimal
import TemplateVariants.Numeral.FloatText
import TemplateVariants.Numeral.Integer
import TemplateVariants.Numeral.Shortest
import TemplateVariants.Randomness.ChaCha
import TemplateVariants.Randomness.Draw
import TemplateVariants.Randomness.Replay
import TemplateVariants.Randomness.Source
import TemplateVariants.Regex.Basic
import TemplateVariants.Regex.Reading
import TemplateVariants.Shell.Aliases
import TemplateVariants.Shell.Arithmetic
import TemplateVariants.Shell.Builtin
import TemplateVariants.Shell.Condition
import TemplateVariants.Shell.Expansion
import TemplateVariants.Shell.Fields
import TemplateVariants.Shell.Format
import TemplateVariants.Shell.Invocation
import TemplateVariants.Shell.Jobs
import TemplateVariants.Shell.Known
import TemplateVariants.Shell.Modes
import TemplateVariants.Shell.Pattern
import TemplateVariants.Shell.Reading
import TemplateVariants.Shell.Redirect
import TemplateVariants.Shell.Run
import TemplateVariants.Shell.Signals
import TemplateVariants.Shell.State
import TemplateVariants.Shell.Syntax
import TemplateVariants.Shell.Traps
import TemplateVariants.Storage.Basic
import TemplateVariants.Storage.FileTree
import TemplateVariants.Storage.Memory
import TemplateVariants.Storage.Path
import TemplateVariants.Storage.Permission
import TemplateVariants.Suite.Interpreter
import TemplateVariants.Suite.Programs
import TemplateVariants.Suite.Run
import TemplateVariants.Suite.Scratch
import TemplateVariants.Suite.Tap
import TemplateVariants.Template.Argument
import TemplateVariants.Template.Body
import TemplateVariants.Template.Command
import TemplateVariants.Template.Document
import TemplateVariants.Template.Parse
import TemplateVariants.Template.Token
import TemplateVariants.Text.Blank
import TemplateVariants.Text.JsonText
import TemplateVariants.Text.Lines
import TemplateVariants.Text.Octets
import TemplateVariants.Text.Printable
import TemplateVariants.Text.Utf8
import TemplateVariants.Utility.Basic
import TemplateVariants.Utility.Cat
import TemplateVariants.Utility.Columns
import TemplateVariants.Utility.Comparison
import TemplateVariants.Utility.Copy
import TemplateVariants.Utility.Count
import TemplateVariants.Utility.Create
import TemplateVariants.Utility.Difference
import TemplateVariants.Utility.Edit.Run
import TemplateVariants.Utility.Edit.Script
import TemplateVariants.Utility.Encoding
import TemplateVariants.Utility.Expression
import TemplateVariants.Utility.Finding
import TemplateVariants.Utility.Folding
import TemplateVariants.Utility.Grep
import TemplateVariants.Utility.Head
import TemplateVariants.Utility.Listing
import TemplateVariants.Utility.Mode
import TemplateVariants.Utility.Names
import TemplateVariants.Utility.Numbering
import TemplateVariants.Utility.Options
import TemplateVariants.Utility.Quoting
import TemplateVariants.Utility.Remove
import TemplateVariants.Utility.Reverse
import TemplateVariants.Utility.Running
import TemplateVariants.Utility.Scratch
import TemplateVariants.Utility.Sequence
import TemplateVariants.Utility.Sleep
import TemplateVariants.Utility.Sort
import TemplateVariants.Utility.Speech
import TemplateVariants.Utility.Tail
import TemplateVariants.Utility.Tee
import TemplateVariants.Utility.Translate
import TemplateVariants.Utility.Truth
import TemplateVariants.Utility.Unique
import TemplateVariants.Main
import TemplateVariants.Proofs.Steps
import TemplateVariants.Proofs.Draws
import TemplateVariants.Proofs.Writing
import TemplateVariants.Proofs.Expansion.Basic
import TemplateVariants.Proofs.Expansion.Relation
import TemplateVariants.Proofs.Expansion.Sound
import TemplateVariants.Proofs.Passes.Lines
import TemplateVariants.Proofs.Faults
import TemplateVariants.Proofs.FirstFault.Commands
import TemplateVariants.Proofs.Passes.Scoped
import TemplateVariants.Proofs.Passes.Convergence
import TemplateVariants.Proofs.Passes.Later
import TemplateVariants.Proofs.FirstFault.Documents
import TemplateVariants.Proofs.Passes.Resolution
import TemplateVariants.Proofs.Lookups
import TemplateVariants.Proofs.FreshIdentifiers
import TemplateVariants.Proofs.Picks
import TemplateVariants.Proofs.Uniform.Ranges
import TemplateVariants.Proofs.Uniform.Integers
import TemplateVariants.Proofs.Passes.Identifiers
import TemplateVariants.Proofs.ListProgram.Semantics
import TemplateVariants.Proofs.ListProgram.Printing
import TemplateVariants.Proofs.ListProgram.Execution
import TemplateVariants.Proofs.Laws
import TemplateVariants.Proofs.Hygiene
import TemplateVariants.Proofs.Reading
import TemplateVariants.Proofs.Verdict.Walk
import TemplateVariants.Proofs.Verdict.Agreement
import TemplateVariants.Proofs.Layout.Texts
import TemplateVariants.Proofs.Layout.Trees
import TemplateVariants.Proofs.Layout.Lines
import TemplateVariants.Proofs.Layout.Newlines
import TemplateVariants.Proofs.Layout.Standing
import TemplateVariants.Proofs.Grammar.Braces
import TemplateVariants.Proofs.Grammar.Body
import TemplateVariants.Proofs.Grammar.Line
import TemplateVariants.Proofs.Grammar.Spelling
import TemplateVariants.Proofs.TwoRuns.Agreement
import TemplateVariants.Proofs.TwoRuns.Frames
import TemplateVariants.Proofs.TwoRuns.Literals
import TemplateVariants.Proofs.Layout.OpeningMarks
import TemplateVariants.Proofs.Layout.Recompiling
import TemplateVariants.Proofs.Unrolling
import TemplateVariants.Proofs.Failing
import TemplateVariants.Proofs.Uniform.Nesting
import TemplateVariants.Proofs.Utf8
import TemplateVariants.Proofs.Storage.Paths
import TemplateVariants.Proofs.Storage.Trees
import TemplateVariants.Proofs.Storage.Writes
import TemplateVariants.Proofs.Storage.Directories
import TemplateVariants.Proofs.Storage.Locations
import TemplateVariants.Proofs.Storage.Histories
import TemplateVariants.Proofs.Grammar.Counting
import TemplateVariants.Proofs.CommandLine.Variants
import TemplateVariants.Proofs.Suite.Scratch
import TemplateVariants.Proofs.Suite.Verdicts
import TemplateVariants.Proofs.Suite.Programs
import TemplateVariants.Proofs.Suite.Reports
import TemplateVariants.Proofs.BracketedLists
import TemplateVariants.Proofs.Json
import TemplateVariants.Proofs.CommandLine.Refusals
import TemplateVariants.Proofs.Suite.Streams
