import TemplateVariants.Template.Body

/-!
# Lines with commands

Within a line a command stands between the marks `~[` and `]~`; what stands outside is text. Marks
do not nest: a command ends at the first closing mark after its opening mark.
-/

namespace TemplateVariants
namespace Line

/-- The text before the first place where `first` and then `second` stand, and the text after it;
`before` holds what was passed, backwards. -/
def cutFrom (first second : Char) (before : List Char) :
    List Char → Option (List Char × List Char)
  | c :: d :: cs =>
    if c = first ∧ d = second then some (before.reverse, cs)
    else cutFrom first second (c :: before) (d :: cs)
  | _ => none

/-- Cuts a text at the first place where the two characters stand together. -/
def cut (first second : Char) (s : List Char) : Option (List Char × List Char) :=
  cutFrom first second [] s

theorem cutFrom_eq {first second : Char} {before s a b : List Char}
    (h : cutFrom first second before s = some (a, b)) :
    a ++ first :: second :: b = before.reverse ++ s := by
  fun_induction cutFrom first second before s with
  | case1 => simp_all
  | case2 _ _ _ _ _ ih => simpa using ih h
  | case3 => simp at h

theorem cut_length {first second : Char} {s a b : List Char}
    (h : cut first second s = some (a, b)) : b.length < s.length := by
  have := congrArg List.length (cutFrom_eq h)
  simp at this
  omega

/-- A text as a token before others; no token is empty. -/
def consText (text : List Char) (line : List Token) : List Token :=
  if text.isEmpty then line else .literal (String.ofList text) :: line

/-- The tokens of a text, after those read so far, which are held backwards. -/
def parseFrom (done : List Token) (s : List Char) : Except Cause Line :=
  match _h : cut '~' '[' s with
  | none => .ok (consText s done).reverse
  | some (text, opened) =>
    match _ho : cut ']' '~' opened with
    | none => .error (.syntactic .unclosedSpan)
    | some (body, rest) =>
      match Body.commandOf body with
      | .error cause => .error cause
      | .ok command => parseFrom (.command command :: consText text done) rest
termination_by s.length
decreasing_by
  have h₁ := cut_length _h
  have h₂ := cut_length _ho
  omega

/-- The tokens of a line. -/
def parse (s : String) : Except Cause Line :=
  parseFrom [] s.toList

end Line
end TemplateVariants
