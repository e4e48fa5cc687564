/-!
# Scripts

What a shell script says once it has been read: commands built of words, and words built of
characters and of expansions. Characters are bytes, and it is kept which of them stood in quotes,
because quotes take a character's special meaning away. The text of a here-document is read after
the command that asks for it, so commands refer to it by its number.
-/

namespace TemplateVariants
namespace Shell

/-- How a redirection opens a file; `anyway` is an output that may take the place of a file even in
the mode that keeps files. -/
inductive Opening where
  | input
  | output
  | anyway
  | appending
  | both
deriving DecidableEq, Repr

mutual

/-- A part of a word. `hollow` is a pair of quotes with nothing between them; `output` is what a
script writes, and `value` what an arithmetic expression comes to. -/
inductive Part where
  | plain (c : Char)
  | quoted (c : Char)
  | hollow
  | parameter (inQuotes : Bool) (name : String) (use : Use)
  | output (inQuotes : Bool) (script : List Command)
  | value (inQuotes : Bool) (expression : List Part)

/-- What is made of the value of a parameter. Where it says `nonEmpty`, an empty value counts as one
that is not set. -/
inductive Use where
  | whole
  | size
  | orElse (nonEmpty : Bool) (word : List Part)
  | assigned (nonEmpty : Bool) (word : List Part)
  | demanded (nonEmpty : Bool) (word : List Part)
  | replaced (nonEmpty : Bool) (word : List Part)
  | trimmed (atEnd longest : Bool) (pattern : List Part)
  | unknown

inductive Redirection where
  | file (descriptor : Nat) (opening : Opening) (path : List Part)
  | copy (descriptor : Nat) (source : List Part)
  | document (descriptor : Nat) (number : Nat)

/-- A command. In `choice` an empty list stands for a missing alternative, and in `each` no words
for the arguments of the script. The commands that expand words know the line they start on. -/
inductive Command where
  | simple (line : Nat) (assignments : List (String × List Part)) (words : List (List Part))
      (redirections : List Redirection)
  | redirected (line : Nat) (body : Command) (redirections : List Redirection)
  | block (body : List Command)
  | subshell (line : Nat) (body : List Command)
  | background (body : Command)
  | both (first second : Command)
  | either (first second : Command)
  | negated (body : Command)
  | pipeline (stages : List Command)
  | choice (condition body alternative : List Command)
  | loop (untilTrue : Bool) (condition body : List Command)
  | each (line : Nat) (name : String) (words? : Option (List (List Part))) (body : List Command)
  | cases (line : Nat) (subject : List Part) (branches : List (List (List Part) × List Command))
  | definition (name : String) (body : Command)

end

abbrev Word := List Part

instance : Inhabited Part := ⟨.hollow⟩
instance : Inhabited Command := ⟨.block []⟩

/-! ## Names -/

def isNameStart (c : Char) : Bool :=
  c.isAlpha || c == '_'

def isNameChar (c : Char) : Bool :=
  c.isAlphanum || c == '_'

/-- Whether a text can name a variable. -/
def isName (cs : List Char) : Bool :=
  match cs with
  | [] => false
  | c :: rest => isNameStart c && rest.all isNameChar

/-- The built-in commands that end the script if they fail; no function can have their names. -/
def specialBuiltins : List String :=
  [":", ".", "break", "continue", "eval", "exec", "exit", "export", "local", "readonly", "return",
    "set", "shift", "times", "trap", "unset"]

/-- The name that a word starts with if an equals sign follows it, and the parts after the sign. -/
def assignment? (word : Word) : Option (String × Word) :=
  let rec go (name : List Char) : Word → Option (String × Word)
    | .plain '=' :: value =>
      if isName name.reverse then some (String.ofList name.reverse, value) else none
    | .plain c :: rest => go (c :: name) rest
    | _ => none
  go [] word

/-- The text of a word without expansions; none if it has any. -/
def literal? (word : Word) : Option (List Char) :=
  word.foldr
    (fun part text? =>
      match part with
      | .plain c | .quoted c => text?.map (c :: ·)
      | .hollow => text?
      | _ => none)
    (some [])

end Shell
end TemplateVariants
