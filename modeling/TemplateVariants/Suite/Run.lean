import TemplateVariants.Storage.FileTree
import TemplateVariants.Suite.Interpreter
import TemplateVariants.Suite.Scratch
import TemplateVariants.Suite.Tap

/-!
# Suites

A suite is a directory of templates, and beside each of them the output that its variants should
write. A template passes if it parses and each of its attempts passes: an attempt compiles a
variant to a file, runs it and compares what it writes. The first failing attempt is the last of its
template. The variants of a template stand in a directory of their own, which lasts as long as its
attempts; a template for which none can be made fails. The dice go on from one attempt to the next,
over all templates.
-/

namespace TemplateVariants
namespace Suite

open Randomness

/-! ## Expectations -/

/-- What every variant of a template should write; without `stdout?` any output will do. -/
structure Expectation where
  stdout? : Option String := none
  stderr : String := ""
deriving DecidableEq, Repr

/-- Why an attempt fails. -/
inductive Failure where
  | compilation (halt : Halt CompileError)
  | noProgram
  | launch (command reason : String)
  | stdout (want got : String)
  | stderr (want got : String)
deriving DecidableEq, Repr

namespace Failure

/-- The wanted text and the text at hand, one below the other. -/
def comparison (want got : String) : String :=
  "--- expected\n" ++ want ++ "\n+++ got\n" ++ got

def message : Failure → String
  | .compilation halt => "compilation failed: " ++ halt.display
  | .noProgram => "interpreter command is empty"
  | .launch command reason => "failed to run '" ++ command ++ "': " ++ reason
  | .stdout want got => "stdout mismatch:\n" ++ comparison want got
  | .stderr want got => "stderr mismatch:\n" ++ comparison want got

end Failure

/-- The form in which outputs are compared: one kind of line end, and no blanks around the text. -/
def normalize (text : String) : String :=
  String.ofList (Text.trim (Text.unifyEnds text.toList))

/-- What is wrong with what a program wrote; the output is compared before the errors. -/
def Expectation.mismatch? (e : Expectation) (written : ProgramOutput) : Option Failure :=
  let stdout := normalize (Text.decodeLossy written.stdout)
  let stderr := normalize (Text.decodeLossy written.stderr)
  let want := (e.stdout?.map normalize).getD stdout
  if stdout ≠ want then some (.stdout want stdout)
  else if stderr ≠ normalize e.stderr then some (.stderr (normalize e.stderr) stderr)
  else none

/-- What the files beside a template expect. A file that cannot be read counts as one that is not
there. -/
def Expectation.read (files : FileTree) (directory name : String) : Expectation :=
  let text? (ending : String) := (files.readText (Path.join directory (name ++ ending))).toOption
  { stdout? := text? ".expected", stderr := (text? ".expected-stderr").getD "" }

/-- The names of the template files in a directory, in order. -/
def templateFiles (files : FileTree) (directory : String) : List String :=
  let names := (files.list directory).filterMap fun (name, node) =>
    match node with
    | .file _ => some name
    | .directory => none
  (names.filter fun name => Path.extension? name == some "vy").mergeSort fun a b => decide (a ≤ b)

/-! ## Attempts -/

/-- How a suite is run: the command that runs a variant is cut into words, the first of which is the
program. -/
structure Setup where
  directory : String := "conformance"
  attempts : Nat := 10
  command : String := "python3"
deriving DecidableEq, Repr

/-- Runs the variant at a path; gives what is wrong, if anything is, and the files after it. -/
def judge (interpreter : Interpreter) (command : String) (e : Expectation) (variant : String)
    (files : FileTree) : Option Failure × FileTree :=
  match (Text.words command.toList).map String.ofList with
  | [] => (some .noProgram, files)
  | program :: args =>
    let launch := interpreter program (args ++ [variant]) files
    match launch.outcome with
    | .error reason => (some (.launch command reason), launch.files)
    | .ok written => (e.mismatch? written, launch.files)

/-- One attempt: what failed, the files after it, and the session that compiled the variant. -/
structure Attempt (G : Type) where
  failure? : Option Failure
  files : FileTree
  session : Session G

/-- The dice and the files at hand and the events so far, the latest first. -/
structure Progress (G : Type) where
  dice : Dice G
  files : FileTree
  journal : List Event := []

section Attempts

variable {G : Type} [WordSource G]

/-- Compiles a variant to a path and runs it. -/
def attempt (interpreter : Interpreter) (command : String) (e : Expectation) (doc : Document)
    (variant : String) (files : FileTree) (dice : Dice G) : Attempt G :=
  let delivery := doc.deliver files variant {} dice
  match delivery.outcome with
  | .error halt => ⟨some (.compilation halt), delivery.store, delivery.session⟩
  | .ok _ =>
    let (failure?, files) := judge interpreter command e variant delivery.store
    ⟨failure?, files, delivery.session⟩

/-- What the report tells of a failing attempt; the text of the variant is the one after it. -/
def diagnostic (number total : Nat) (failure : Failure) (variant : String) : String :=
  "attempt " ++ Nat.repr number ++ " of " ++ Nat.repr total ++ ": " ++ failure.message ++
    "\n--- compiled variant\n" ++ variant

/-- The verdict on a document after `left` more attempts of `total`; `path` says where the variant
of the attempt with a number, the first being zero, stands. -/
def attempts (interpreter : Interpreter) (command : String) (e : Expectation) (doc : Document)
    (path : Nat → String) (total : Nat) : Nat → Progress G → Tap.Verdict × Progress G
  | 0, progress => (.ok, progress)
  | left + 1, progress =>
    let number := total - (left + 1)
    let a := attempt interpreter command e doc (path number) progress.files progress.dice
    let progress := ⟨a.session.dice, a.files, a.session.journal ++ progress.journal⟩
    match a.failure? with
    | none => attempts interpreter command e doc path total left progress
    | some failure =>
      let variant := (a.files.readText (path number)).toOption.getD ""
      (.notOk (diagnostic (number + 1) total failure variant), progress)

/-- The file name of the variant of an attempt. -/
def variantName (template : String) (number : Nat) : String :=
  template ++ "_" ++ Nat.repr number ++ ".py"

/-- The path of the variant of an attempt, in the scratch directory at a place. -/
def variantPath (place : List String) (file : String) (number : Nat) : String :=
  Path.join (Path.ofPlace place) (variantName (Path.stem file) number)

/-- The verdict on the template with the given file name and number. -/
def verdict (interpreter : Interpreter) (scratch : Scratch) (setup : Setup) (number : Nat)
    (file : String) (progress : Progress G) : Tap.Verdict × Progress G :=
  let expectation := Expectation.read progress.files setup.directory (Path.stem file)
  match Document.load progress.files (Path.join setup.directory file) with
  | .error e => (.notOk ("template does not parse: " ++ e.display), progress)
  | .ok doc =>
    let journal := doc.parsedEvent :: progress.journal
    match scratch number with
    | .error reason =>
      (.notOk ("cannot create scratch directory: " ++ reason), { progress with journal })
    | .ok place =>
      let (verdict, after) :=
        attempts interpreter setup.command expectation doc (variantPath place file) setup.attempts
          setup.attempts
          { progress with files := progress.files.put place .directory, journal }
      (verdict, { after with files := after.files.eraseAll place })

/-- The results of templates in their order, numbered from `number`. -/
def runFiles (interpreter : Interpreter) (scratch : Scratch) (setup : Setup) :
    Nat → List String → Progress G → List Tap.Result × Progress G
  | _, [], progress => ([], progress)
  | number, file :: rest, progress =>
    let (verdict, progress) := verdict interpreter scratch setup number file progress
    let (results, progress) := runFiles interpreter scratch setup (number + 1) rest progress
    (⟨Path.stem file, verdict⟩ :: results, progress)

/-- The results of a suite. -/
def run (interpreter : Interpreter) (scratch : Scratch) (setup : Setup) (files : FileTree)
    (dice : Dice G) : List Tap.Result × Progress G :=
  runFiles interpreter scratch setup 0 (templateFiles files setup.directory) { dice, files }

end Attempts

end Suite
end TemplateVariants
