import TemplateVariants.Expand.Document

/-!
# Storage

Where templates come from and variants go: a place with files that are read as lines and written as
a whole. A variant is written only if the compilation succeeds.
-/

namespace TemplateVariants

/-- Why a file cannot be read or written. -/
inductive StorageFault where
  | missing
  | missingInMemory (path : String)
  | isDirectory
  | notDirectory
  | exists
  | nameTooLong
  | notPermitted
  | notText
  | nulInPath
deriving DecidableEq, Repr

namespace StorageFault

/-- What a fault says in words. -/
def reason : StorageFault → String
  | .missing => "No such file or directory"
  | .missingInMemory path => "file not found in memory: " ++ path
  | .isDirectory => "Is a directory"
  | .notDirectory => "Not a directory"
  | .exists => "File exists"
  | .nameTooLong => "File name too long"
  | .notPermitted => "Permission denied"
  | .notText => "stream did not contain valid UTF-8"
  | .nulInPath => "file name contained an unexpected NUL byte"

/-- The number of a fault that the file system reports. -/
def code? : StorageFault → Option Nat
  | .missing => some 2
  | .isDirectory => some 21
  | .notDirectory => some 20
  | .exists => some 17
  | .nameTooLong => some 36
  | .notPermitted => some 13
  | .missingInMemory _ | .notText | .nulInPath => none

/-- The wording of a fault, with its number if it has one. -/
def message (fault : StorageFault) : String :=
  match fault.code? with
  | some code => fault.reason ++ " (os error " ++ Nat.repr code ++ ")"
  | none => fault.reason

end StorageFault

/-- A place with files. Writing gives the place after it, also when it fails. -/
class Storage (σ : Type) where
  readLines : σ → String → Except StorageFault (List String)
  writeText : σ → String → String → Except StorageFault Unit × σ

/-- The error for a fault at a path. -/
def CompileError.ofStorage (path : String) (fault : StorageFault) : CompileError :=
  ⟨.access path fault.message, none⟩

section Documents

variable {σ G : Type} [Storage σ] [Randomness.WordSource G]

/-- Reads a template; the document is named by the path as given. -/
def Document.load (store : σ) (path : String) : Except CompileError Document :=
  match Storage.readLines store path with
  | .error fault => .error (.ofStorage path fault)
  | .ok lines => Document.ofLines path lines

/-- The outcome of compiling to a file, the place and the session after it. -/
structure Delivery (σ G : Type) where
  outcome : Except (Halt CompileError) Unit
  store : σ
  session : Session G

/-- Compiles a document and writes the variant to a file. -/
def Document.deliver (doc : Document) (store : σ) (path : String) (options : Options)
    (dice : Randomness.Dice G) : Delivery σ G :=
  let compilation := doc.compile options dice
  match compilation.outcome with
  | .error halt => ⟨.error halt, store, compilation.session⟩
  | .ok text =>
    match Storage.writeText store path text with
    | (.ok _, store) => ⟨.ok (), store, compilation.session⟩
    | (.error fault, store) =>
      ⟨.error (.failed (.ofStorage path fault)), store, compilation.session⟩

end Documents

end TemplateVariants
