import TemplateVariants.Template.Command

/-!
# Command bodies

The text of a command is words parted by blanks, and groups in braces, which are commands
themselves. A brace ends a word. Groups are read as soon as they close, so that of two faults the
first in the text is reported.
-/

namespace TemplateVariants
namespace Body

/-- The text of a group and the text after its closing brace. The group is open `depth` braces
deep below its own; `group` holds what was read of it, backwards. -/
def closeGroup (depth : Nat) (group : List Char) : List Char → Option (List Char × List Char)
  | [] => none
  | c :: cs =>
    if c = '\x7b' then closeGroup (depth + 1) (c :: group) cs
    else if c = '\x7d' then
      match depth with
      | 0 => some (group.reverse, cs)
      | depth + 1 => closeGroup depth (c :: group) cs
    else closeGroup depth (c :: group) cs

theorem closeGroup_eq {depth : Nat} {group s inner rest : List Char}
    (h : closeGroup depth group s = some (inner, rest)) :
    inner ++ '\x7d' :: rest = group.reverse ++ s := by
  fun_induction closeGroup depth group s with
  | case1 => simp at h
  | case2 _ _ _ ih => simpa using ih h
  | case3 => simp_all
  | case4 _ _ _ _ ih => simpa using ih h
  | case5 _ _ _ _ _ _ ih => simpa using ih h

theorem closeGroup_length {s inner rest : List Char}
    (h : closeGroup 0 [] s = some (inner, rest)) :
    inner.length < s.length ∧ rest.length < s.length := by
  have := congrArg List.length (closeGroup_eq h)
  simp at this
  omega

/-- A character that belongs to a word. -/
def isWordChar (c : Char) : Bool :=
  !Text.isBlank c && c != '\x7b' && c != '\x7d'

/-- The tokens of a text, after those read so far, which are held backwards. -/
def tokensFrom (done : List Token) (s : List Char) : Except Cause (List Token) :=
  match _h : Text.trimStart s with
  | [] => .ok done.reverse
  | c :: cs =>
    if c = '\x7b' then
      match _hg : closeGroup 0 [] cs with
      | none => .error (.syntactic .unclosedBrace)
      | some (inner, rest) =>
        match (tokensFrom [] inner).bind Command.ofTokens with
        | .error cause => .error cause
        | .ok command => tokensFrom (.command command :: done) rest
    else if c = '\x7d' then .error (.syntactic .unopenedBrace)
    else
      let word := c :: cs.takeWhile isWordChar
      tokensFrom (.literal (String.ofList word) :: done) (cs.dropWhile isWordChar)
termination_by s.length
decreasing_by
  all_goals
    have hs := Text.trimStart_length_le s
    rw [_h] at hs
    simp at hs
  · have := closeGroup_length _hg
    omega
  · have := closeGroup_length _hg
    omega
  · have := (List.dropWhile_sublist (l := cs) isWordChar).length_le
    omega

/-- The tokens of the text of a command. -/
def tokens (s : String) : Except Cause (List Token) :=
  tokensFrom [] s.toList

/-- The command with the given characters. -/
def commandOf (s : List Char) : Except Cause Command :=
  (tokensFrom [] s).bind Command.ofTokens

/-- The command that a text spells. -/
def command (s : String) : Except Cause Command :=
  commandOf s.toList

end Body
end TemplateVariants
