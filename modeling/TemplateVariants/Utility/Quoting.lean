import TemplateVariants.Text.Octets

/-!
# Quoted names

How utilities write the name of a file in a message: in quotes, so that a shell would read the name
again. A name with a single quote stands in double quotes if nothing in it is special there;
characters that do not print are written by their numbers.
-/

namespace TemplateVariants
namespace Quoting

def isPrintable (c : Char) : Bool :=
  decide (' ' ≤ c) && decide (c ≤ '~')

/-- Whether a character may stand beside a single quote in double quotes. -/
def isPlain (c : Char) : Bool :=
  c.isAlphanum || "%+,-./:]_ '".toList.contains c

/-- How a character that does not print is written. -/
def escape (c : Char) : Octets :=
  match c with
  | '\x07' => ['\\', 'a']
  | '\x08' => ['\\', 'b']
  | '\t' => ['\\', 't']
  | '\n' => ['\\', 'n']
  | '\x0b' => ['\\', 'v']
  | '\x0c' => ['\\', 'f']
  | '\r' => ['\\', 'r']
  | _ =>
    let digits := Nat.toDigits 8 c.toNat
    '\\' :: List.replicate (3 - digits.length) '0' ++ digits

/-- The rest of a name within quotes, where `escapes` tells whether it is within escapes. -/
def quoteFrom (escapes : Bool) : Octets → Octets
  | [] => ['\'']
  | c :: cs =>
    if !isPrintable c then
      (if escapes then escape c else "'$'".toList ++ escape c) ++ quoteFrom true cs
    else
      let text := if c = '\'' then "'\\''".toList else [c]
      (if escapes then "''".toList ++ text else text) ++ quoteFrom false cs

/-- A name in quotes. -/
def quoteName (name : Octets) : Octets :=
  if name.contains '\'' ∧ name.all isPlain then '"' :: name ++ ['"']
  else '\'' :: quoteFrom false name

/-- A text in quotes, with backslashes before those characters that would be read otherwise. -/
def quoteText (text : Octets) : Octets :=
  let write (c : Char) : Octets :=
    if c = '\\' ∨ c = '\'' then ['\\', c] else if isPrintable c then [c] else escape c
  '\'' :: text.flatMap write ++ ['\'']

end Quoting
end TemplateVariants
