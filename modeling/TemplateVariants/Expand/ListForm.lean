import TemplateVariants.Expand.Replacement
import TemplateVariants.Expand.Session
import TemplateVariants.Text.Blank

/-!
# Written lists

A list of elements is written in one of two ways. As a literal it stands in place, in brackets,
with breaks where it is a sum of lists. Otherwise a line before declares an empty list under a
synthetic name, a line after appends each element, and the name stands in place.
-/

namespace TemplateVariants
namespace ListForm

open Randomness

/-- The chance of the form with appended elements. -/
def appendChance : Nat := 3689348814741910528

/-- The chance that the separators of a literal hold a blank. -/
def spacedChance : Nat := 12912720851596685312

/-- The chance that a separator ends one list and starts the next. -/
def breakChance : Nat := 184467440737095520

/-- The blanks that a line starts with, if its first token is nothing else. -/
def indentation (line : Line) : String :=
  match line with
  | .literal text :: _ =>
    if !text.isEmpty && text.toList.all Text.isBlank then text else ""
  | _ => ""

/-- The separator of two elements; `spacing` goes with each mark. -/
def separator (spacing : String) (isBreak : Bool) : String :=
  if isBreak then "]" ++ spacing ++ "+" ++ spacing ++ "[" else "," ++ spacing

/-- The elements in brackets, each but the first after a separator. -/
def literal (separators : List String) : List Line → Line
  | [] => [.literal "[", .literal "]"]
  | first :: rest =>
    .literal "[" ::
      (first ++
        ((separators.zip rest).flatMap fun (mark, element) => .literal mark :: element) ++
        [.literal "]"])

/-- The line of the given tokens with an indentation. -/
def startLine (indent : String) (line : Line) : Line :=
  if indent.isEmpty then line else .literal indent :: line

/-- The list declared before and filled after the line, under the given name. -/
def appended (indent name : String) (elements : List Line) : Replacement where
  before := [startLine indent [.command (.var name []), .literal " = []\n"]]
  result := [.command (.get name)]
  after := elements.map fun element =>
    startLine indent
      (.command (.get name) :: .literal ".append(" :: (element ++ [.literal ")\n"]))

def alphabet : List Char :=
  "abcdefghijklmnopqrstuvwxyzABCDEFGHIJKLMNOPQRSTUVWXYZ_".toList

def nameLength : Nat := 20

section Draws

variable {G : Type} [WordSource G]

/-- A name that no template is likely to use. -/
def drawName : Draw G String := do
  let chars ← (List.replicate nameLength ()).mapM fun _ =>
    return (← Draw.choose alphabet).getD '_'
  return String.ofList chars

/-- A literal with its separators drawn: first their spacing, then a possible break at each. -/
def drawLiteral (elements : List Line) : Draw G Line := do
  let spacing := if ← Draw.chance spacedChance then " " else ""
  let separators ← (List.replicate (elements.length - 1) ()).mapM fun _ =>
    return separator spacing (← Draw.chance breakChance)
  return literal separators elements

/-- The list of the elements, written in one of the two ways. The lines of the parts that were
expanded for it come first. -/
def write {ε : Type} (context : Line) (parts : List Replacement) (elements : List Line) :
    Compiling ε G Replacement := do
  if ← Compiling.roll (Draw.chance appendChance) then
    let name ← Compiling.roll drawName
    return .within parts (appended (indentation context) name elements)
  else
    return .within parts (.plain (← Compiling.roll (drawLiteral elements)))

end Draws

end ListForm
end TemplateVariants
