import TemplateVariants.Shell.Invocation
import TemplateVariants.Suite.Interpreter
import TemplateVariants.Utility.Cat
import TemplateVariants.Utility.Columns
import TemplateVariants.Utility.Comparison
import TemplateVariants.Utility.Copy
import TemplateVariants.Utility.Count
import TemplateVariants.Utility.Create
import TemplateVariants.Utility.Difference
import TemplateVariants.Utility.Edit.Run
import TemplateVariants.Utility.Encoding
import TemplateVariants.Utility.Expression
import TemplateVariants.Utility.Finding
import TemplateVariants.Utility.Folding
import TemplateVariants.Utility.Grep
import TemplateVariants.Utility.Listing
import TemplateVariants.Utility.Mode
import TemplateVariants.Utility.Names
import TemplateVariants.Utility.Numbering
import TemplateVariants.Utility.Remove
import TemplateVariants.Utility.Reverse
import TemplateVariants.Utility.Running
import TemplateVariants.Utility.Scratch
import TemplateVariants.Utility.Sequence
import TemplateVariants.Utility.Sleep
import TemplateVariants.Utility.Sort
import TemplateVariants.Utility.Speech
import TemplateVariants.Utility.Tail
import TemplateVariants.Utility.Tee
import TemplateVariants.Utility.Translate
import TemplateVariants.Utility.Truth
import TemplateVariants.Utility.Unique

/-!
# Built-in programs

The programs that can run a variant without leaving the library: they stand for those of the system,
which a function cannot start. The command runs its suites with them. A variant may be a script, so
besides the programs that show a file there is a shell, with the utilities that its scripts call.

A suite takes any interpreter, and what holds of suites holds for all of them; nothing but the command
depends on the programs of this module. A program is given by its name or by a path to it; a path may
also lead to something that is no program.
-/

namespace TemplateVariants
namespace Programs

/-- The utilities that run no other utility. -/
def simpleUtility? : String → Option Utility
  | "cat" => some cat
  | "head" => some head
  | "tail" => some tail
  | "wc" => some wc
  | "sort" => some sort
  | "tr" => some tr
  | "seq" => some seq
  | "sleep" => some sleep
  | "[" => some bracket
  | "base64" => some base64
  | "basename" => some basename
  | "chmod" => some chmod
  | "cmp" => some cmp
  | "comm" => some comm
  | "cp" => some cp
  | "cut" => some cut
  | "diff" => some diff
  | "dirname" => some dirname
  | "echo" => some echo
  | "egrep" => some egrep
  | "expr" => some expr
  | "fgrep" => some fgrep
  | "fold" => some fold
  | "grep" => some grep
  | "ls" => some ls
  | "mkdir" => some mkdir
  | "mktemp" => some mktemp
  | "mv" => some mv
  | "nl" => some nl
  | "od" => some od
  | "paste" => some paste
  | "printenv" => some printenv
  | "printf" => some printf
  | "pwd" => some pwd
  | "rev" => some rev
  | "rm" => some rm
  | "rmdir" => some rmdir
  | "sed" => some sed
  | "tac" => some tac
  | "tee" => some tee
  | "test" => some test
  | "touch" => some touch
  | "uniq" => some uniq
  | "yes" => some yes
  | "true" => some fun call => call.done
  | "false" => some fun call => call.done 1
  | _ => none

/-- The name of the program that a path leads to if it is one of the directories of programs. -/
def programAt? (path : String) : Option String :=
  match Path.normalize path with
  | [.root, .name "bin", .name program] => some program
  | [.root, .name "usr", .name "bin", .name program] => some program
  | _ => none

/-- The path and the arguments that the first line of a script names for its interpreter. -/
def interpreterOf? (script : ByteArray) : Option (Octets × List Octets) :=
  let isBlank (c : Char) : Bool := c == ' ' || c == '\t'
  match Text.octetsOfBytes (script.extract 0 256) with
  | '#' :: '!' :: text =>
    let line := (text.takeWhile (· ≠ '\n')).dropWhile isBlank
    let path := line.takeWhile (!isBlank ·)
    let argument := ((line.drop path.length).dropWhile isBlank).reverse.dropWhile isBlank
    if path.isEmpty then none
    else some (path, if argument.isEmpty then [] else [argument.reverse])
  | _ => none

/-- How many interpreters may interpret each other. -/
def maxInterpreters : Nat := 5

/-- What a path leads to among the utilities of a table; a script stands for its interpreter. There
is none if the interpreter is not named, in the end, by a program. The number bounds the
interpreters. -/
def interpreted (table : String → Option Utility) (files : FileTree) :
    Nat → String → Except StorageFault (Option Utility)
  | 0, _ => .error .missing
  | depth + 1, path =>
    match (programAt? path).bind table with
    | some utility => .ok (some utility)
    | none => do
      let place ← files.locate path
      match files.node? place with
      | none => .error .missing
      | some .directory => .error .notPermitted
      | some (.file bytes) =>
        if !files.isExecutableAt place then .error .notPermitted
        else
          match interpreterOf? bytes with
          | none => return none
          | some (interpreter, arguments) =>
            let utility? ← interpreted table files depth (pathOfOctets interpreter)
            return utility?.map fun utility call =>
              utility
                { call with
                  name := pathOfOctets interpreter
                  arguments := arguments ++ Text.octets path :: call.arguments }

/-- What a path leads to among the utilities of a table. A file that may be run and names no
interpreter is a script for the shell. -/
def findIn (table : String → Option Utility) : Finder := fun files path => do
  match ← interpreted table files maxInterpreters path with
  | some utility => return utility
  | none =>
    match table "sh" with
    | none => .error .missing
    | some shell =>
      return fun call =>
        shell { call with name := "sh", arguments := Text.octets path :: call.arguments }

/-- The utilities, where those that run others do so to the given depth. -/
def utility? : Nat → String → Option Utility
  | 0, name => simpleUtility? name
  | depth + 1, name =>
    match name with
    | "sh" | "dash" => some (Shell.sh (findIn (utility? depth)))
    | "env" => some (env (findIn (utility? depth)))
    | "find" => some (find (findIn (utility? depth)))
    | "xargs" => some (xargs (findIn (utility? depth)))
    | _ => simpleUtility? name

/-- How deeply utilities may run each other. -/
def maxDepth : Nat := 64

/-- What finds the utility that a path leads to. -/
def finder : Finder :=
  findIn (utility? maxDepth)

/-- Runs one of the programs, in an environment of variables. -/
def launch (environment : List (String × String)) : Interpreter := fun program args files =>
  let environment := environment.map (Prod.map id Text.octets)
  let directories := (environment.lookup "PATH").getD defaultDirectories
  match finder.search directories files (Text.octets program) with
  | .error fault => ⟨.error fault.message, files⟩
  | .ok (_, utility) =>
    let reply := utility { name := program, arguments := args.map Text.octets, environment, files }
    let stdout := Text.bytesOfOctets reply.output
    let stderr := Text.bytesOfOctets reply.errors
    ⟨.ok { stdout, stderr }, reply.files⟩

end Programs
end TemplateVariants
