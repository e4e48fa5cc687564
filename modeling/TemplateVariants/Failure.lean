import TemplateVariants.Text.JsonText

/-!
# What can go wrong

Parsing and expanding a template fail for a cause; where the line is known the error also carries
the place. The wording of each cause is in one function, and so is the report of an error as JSON.
-/

namespace TemplateVariants

/-- The classes of errors that reports name. -/
inductive ErrorKind where
  | syntactic
  | conversion
  | binding
  | access
  | divergence
deriving DecidableEq, Repr

namespace ErrorKind

def name : ErrorKind → String
  | .syntactic => "syntax"
  | .conversion => "conversion"
  | .binding => "binding"
  | .access => "io"
  | .divergence => "diverged"

end ErrorKind

/-- Faults in how a template or a command is written. -/
inductive SyntaxFault where
  | unclosedSpan
  | unclosedBrace
  | unopenedBrace
  | emptyCommand
  | nestedCommandName
  | unknownCommand (name : String)
  | missingVariableName
  | nestedVariableName (command : String)
  | leadingDigit (name : String)
  | oneVariableName (count : Nat)
  | emptyCollection
  | sizeAndElement
  | flagAndBounds
  | unknownFlag
  | reversedBounds (lower upper : Int)
  | notPlainText (command : String)
  | stated (text : String)
deriving DecidableEq, Repr

namespace SyntaxFault

def message : SyntaxFault → String
  | .unclosedSpan => "'~[' found, but no matching ']~'"
  | .unclosedBrace => "'\x7b' without matching '\x7d'"
  | .unopenedBrace => "'\x7d' without matching '\x7b'"
  | .emptyCommand => "empty command"
  | .nestedCommandName => "command name must be a plain word, not a nested command"
  | .unknownCommand name => "unknown command '" ++ name ++ "'"
  | .missingVariableName => "invalid 'var' command: missing variable name"
  | .nestedVariableName command =>
    "invalid '" ++ command ++ "' command: the variable name must be a plain word"
  | .leadingDigit name =>
    "invalid 'var' command: variable name '" ++ name ++ "' starts with a digit"
  | .oneVariableName count =>
    "invalid 'get' command: expected exactly one variable name, got " ++ toString count
  | .emptyCollection => "invalid 'collection' command: expected at least one element"
  | .sizeAndElement =>
    "invalid 'collection' command with -b flag: expected a size and one element"
  | .flagAndBounds => "invalid 'rand' command: expected a flag and two bounds"
  | .unknownFlag => "invalid 'rand' command: flag must be -i or -f"
  | .reversedBounds lower upper =>
    "invalid 'rand' bounds: lower bound " ++ toString lower ++ " exceeds upper bound " ++
      toString upper
  | .notPlainText command =>
    "nested '" ++ command ++ "' command did not resolve to plain text"
  | .stated text => text

end SyntaxFault

/-- Faults in a text that has to be a number, and in the number. -/
inductive ConversionFault where
  | size (text : String)
  | bound (text : String)
  | sizeLimit (asked : Int) (limit : Nat)
  | wideRange (lower upper : String)
  | stated (text : String)
deriving DecidableEq, Repr

namespace ConversionFault

def message : ConversionFault → String
  | .size text => "could not convert size parameter '" ++ text ++ "' to an integer"
  | .bound text => "bounds not numeric: '" ++ text ++ "'"
  | .sizeLimit asked limit =>
    "size parameter " ++ toString asked ++ " exceeds the limit of " ++ toString limit
  | .wideRange lower upper =>
    "float range [" ++ lower ++ ", " ++ upper ++ "] is too wide to draw from"
  | .stated text => text

end ConversionFault

/-- Faults in the use of names. -/
inductive BindingFault where
  | unbound (name : String)
  | stated (text : String)
deriving DecidableEq, Repr

namespace BindingFault

def message : BindingFault → String
  | .unbound name => "unbound variable '" ++ name ++ "'"
  | .stated text => text

end BindingFault

/-- Why a template does not compile. -/
inductive Cause where
  | syntactic (fault : SyntaxFault)
  | conversion (fault : ConversionFault)
  | binding (fault : BindingFault)
  | access (path message : String)
  | divergence (passes : Nat)
deriving DecidableEq, Repr

namespace Cause

def kind : Cause → ErrorKind
  | .syntactic _ => .syntactic
  | .conversion _ => .conversion
  | .binding _ => .binding
  | .access _ _ => .access
  | .divergence _ => .divergence

/-- The wording without the class of the error. -/
def message : Cause → String
  | .syntactic fault => fault.message
  | .conversion fault => fault.message
  | .binding fault => fault.message
  | .access path message => "cannot access '" ++ path ++ "': " ++ message
  | .divergence passes =>
    "expansion did not settle after " ++ toString passes ++ " passes"

/-- The wording with the class in front, where the message alone does not tell it. -/
def display : Cause → String
  | .syntactic fault => "syntax error: " ++ fault.message
  | .conversion fault => "conversion error: " ++ fault.message
  | .binding fault => "binding error: " ++ fault.message
  | cause => cause.message

end Cause

/-- A line of a file, counted from one. The number of the line is a word of 32 bits. -/
structure Location where
  file : String
  line : Fin UInt32.size
deriving DecidableEq, Repr

/-- The line with the given number. Numbers that are too great are told as the greatest one. -/
def Location.ofNumber (file : String) (number : Nat) : Location :=
  ⟨file, min number (UInt32.size - 1), Nat.lt_of_le_of_lt (Nat.min_le_right _ _) (by decide)⟩

theorem Location.line_ofNumber (file : String) {number : Nat} (h : number < UInt32.size) :
    ((ofNumber file number).line : Nat) = number :=
  Nat.min_eq_left (Nat.le_sub_one_of_lt h)

structure CompileError where
  cause : Cause
  location : Option Location := none
deriving DecidableEq, Repr

namespace CompileError

/-- The error at a place. An error that has a place keeps it. -/
def locate (e : CompileError) (file : String) (number : Nat) : CompileError :=
  { e with location := e.location <|> some (.ofNumber file number) }

def kind (e : CompileError) : ErrorKind :=
  e.cause.kind

def message (e : CompileError) : String :=
  e.cause.message

def display (e : CompileError) : String :=
  match e.location with
  | none => e.cause.display
  | some ⟨file, line⟩ =>
    "error in [" ++ file ++ "] on line " ++ toString line ++ ": " ++ e.cause.display

/-- The report of an error; an error without a place has null for file and line. -/
def toJson (e : CompileError) : Text.JsonValue :=
  .object
    [("file", (e.location.map fun l => .string l.file).getD .null),
      ("kind", .string e.kind.name),
      ("line", (e.location.map fun l => .number l.line.val).getD .null),
      ("message", .string e.message)]

end CompileError

end TemplateVariants
