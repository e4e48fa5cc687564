import TemplateVariants.Template.Parse
import TemplateVariants.Text.Lines

/-!
# Documents

A template is read line by line. The first line that cannot be read is reported with its number.
-/

namespace TemplateVariants

/-- A template that was read, with the name of its file. -/
structure Document where
  file : String
  lines : List Line

namespace Document

/-- How many commands the document holds at any depth. -/
def commandCount (doc : Document) : Nat :=
  Line.commandCount doc.lines.flatten

/-- The lines from number `number` on, after those read so far, which are held backwards. -/
def parseLinesFrom (file : String) (done : List Line) (number : Nat) :
    List String → Except CompileError (List Line)
  | [] => .ok done.reverse
  | text :: texts =>
    match Line.parse text with
    | .error cause => .error (CompileError.locate ⟨cause, none⟩ file number)
    | .ok line => parseLinesFrom file (line :: done) (number + 1) texts

/-- The document with the given lines. -/
def ofLines (file : String) (texts : List String) : Except CompileError Document :=
  (parseLinesFrom file [] 1 texts).map fun lines => ⟨file, lines⟩

/-- The document with the given text. -/
def ofText (file text : String) : Except CompileError Document :=
  ofLines file (Text.keepingEnds text)

end Document
end TemplateVariants
