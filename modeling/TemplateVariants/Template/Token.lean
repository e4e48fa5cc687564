/-!
# Tokens and commands

A line of a template is a run of tokens: text that is copied, and commands that are replaced. The
arguments of a command are tokens again, so a line is a forest of finite depth. `Command.args` gives
back the arguments as they were written.
-/

namespace TemplateVariants

/-- Which numbers a `rand` command draws. -/
inductive NumberKind where
  | integer
  | real
deriving DecidableEq, Repr

namespace NumberKind

def flag : NumberKind → String
  | .integer => "-i"
  | .real => "-f"

def ofFlag? (text : String) : Option NumberKind :=
  if text = "-i" then some .integer
  else if text = "-f" then some .real
  else none

end NumberKind

mutual

inductive Token where
  /-- Text that stands for itself. -/
  | literal (text : String)
  /-- A command that waits to be replaced. -/
  | command (command : Command)

inductive Command where
  /-- Binds a name to a fresh identifier, perhaps one of the candidates. -/
  | var (name : String) (candidates : List Token)
  /-- Stands for what a name is bound to. -/
  | get (name : String)
  /-- A list of the given elements. -/
  | collection (elements : List Token)
  /-- A list of `size` elements, each made anew from the one given. -/
  | build (size element : Token)
  /-- A random number between two bounds. -/
  | rand (kind : NumberKind) (lower upper : Token)

end

/-- A line of a template, or one made while a template is expanded. -/
abbrev Line := List Token

namespace Command

/-- The word that a command starts with. -/
def name : Command → String
  | .var _ _ => "var"
  | .get _ => "get"
  | .collection _ => "collection"
  | .build _ _ => "collection"
  | .rand _ _ _ => "rand"

/-- The argument that makes a collection repeat its element. -/
def buildFlag : String := "-b"

/-- The arguments as written, without the word that a command starts with. -/
def args : Command → List Token
  | .var name candidates => .literal name :: candidates
  | .get name => [.literal name]
  | .collection elements => elements
  | .build size element => [.literal buildFlag, size, element]
  | .rand kind lower upper => [.literal kind.flag, lower, upper]

end Command

namespace Token

def text? : Token → Option String
  | .literal text => some text
  | .command _ => none

def isCommand : Token → Bool
  | .literal _ => false
  | .command _ => true

end Token

mutual

/-- How many commands a token holds, itself counted. -/
def Token.commandCount : Token → Nat
  | .literal _ => 0
  | .command command => command.commandCount + 1

/-- How many commands stand inside a command. -/
def Command.commandCount : Command → Nat
  | .var _ candidates => Line.commandCount candidates
  | .get _ => 0
  | .collection elements => Line.commandCount elements
  | .build size element => size.commandCount + element.commandCount
  | .rand _ lower upper => lower.commandCount + upper.commandCount

/-- How many commands a line holds at any depth. -/
def Line.commandCount : List Token → Nat
  | [] => 0
  | token :: line => token.commandCount + Line.commandCount line

end

namespace Line

/-- The text of a line that holds no command. -/
def plainText? (line : Line) : Option String :=
  (line.mapM Token.text?).map String.join

end Line

end TemplateVariants
