/-!
# Lines

Two ways to cut a text at its line feeds. `keepingEnds` leaves each terminator on its line, so that
the pieces put together are the text again. `withoutEnds` drops it, with a carriage return before
it, as a reader of messages sees the lines.
-/

namespace TemplateVariants
namespace Text

/-- The pieces of a text, each up to and with its line feed; `line` holds the open piece and
`done` the finished ones, both backwards. -/
def keepingEndsFrom (line : List Char) (done : List (List Char)) : List Char → List (List Char)
  | [] => (if line.isEmpty then done else line.reverse :: done).reverse
  | c :: cs =>
    if c = '\n' then keepingEndsFrom [] ((c :: line).reverse :: done) cs
    else keepingEndsFrom (c :: line) done cs

/-- The lines of a text with their terminators; an empty text has none. -/
def keepingEnds (s : String) : List String :=
  (keepingEndsFrom [] [] s.toList).map String.ofList

theorem flatten_keepingEndsFrom (line : List Char) (done : List (List Char)) (s : List Char) :
    (keepingEndsFrom line done s).flatten = done.reverse.flatten ++ line.reverse ++ s := by
  induction s generalizing line done with
  | nil => cases line <;> simp [keepingEndsFrom]
  | cons c cs ih => simp only [keepingEndsFrom]; split <;> simp [ih]

/-- Nothing is lost between the lines of a text. -/
theorem join_keepingEnds (s : String) : String.join (keepingEnds s) = s := by
  apply String.toList_inj.mp
  simp only [keepingEnds, String.toList_join, List.flatMap_map, String.toList_ofList]
  simpa [List.flatMap_id] using flatten_keepingEndsFrom [] [] s.toList

/-- A line without its line feed and without the carriage return before that. -/
def dropEnd (line : List Char) : List Char :=
  match line.reverse with
  | '\n' :: '\r' :: r => r.reverse
  | '\n' :: r => r.reverse
  | _ => line

/-- The lines of a text without their terminators. -/
def withoutEnds (s : String) : List String :=
  (keepingEndsFrom [] [] s.toList).map fun line => String.ofList (dropEnd line)

def unifyEndsFrom (done : List Char) : List Char → List Char
  | '\r' :: '\n' :: cs => unifyEndsFrom ('\n' :: done) cs
  | c :: cs => unifyEndsFrom (c :: done) cs
  | [] => done.reverse

/-- Writes each pair of a carriage return and a line feed as the line feed alone. -/
def unifyEnds (s : List Char) : List Char :=
  unifyEndsFrom [] s

end Text
end TemplateVariants
