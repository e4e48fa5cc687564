import TemplateVariants.Template.Argument

/-!
# Building commands

A command is built from its tokens: a word that names it, and arguments. Everything that can be
told without expanding nested commands is checked here: names, numbers of arguments, flags, and
the numerals that stand as words.
-/

namespace TemplateVariants
namespace Command

/-- Runs a check on an argument that is a word; a nested command is checked when it is expanded. -/
def checkWord (check : String → Except Cause Unit) : Token → Except Cause Unit
  | .literal text => check text
  | .command _ => .ok ()

/-- A digit at the start of a name. -/
def startsWithDigit (name : String) : Bool :=
  match name.toList with
  | c :: _ => c.isDigit
  | [] => false

def ofVarArgs : List Token → Except Cause Command
  | [] => .error (.syntactic .missingVariableName)
  | .command _ :: _ => .error (.syntactic (.nestedVariableName "var"))
  | .literal name :: candidates =>
    if startsWithDigit name then .error (.syntactic (.leadingDigit name))
    else .ok (.var name candidates)

def ofGetArgs : List Token → Except Cause Command
  | [.literal name] => .ok (.get name)
  | [.command _] => .error (.syntactic (.nestedVariableName "get"))
  | args => .error (.syntactic (.oneVariableName args.length))

/-- The size and the element after the flag of a repeated element. -/
def ofBuildArgs : List Token → Except Cause Command
  | [size, element] => do
    checkWord (fun text => (Argument.size text).map fun _ => ()) size
    return .build size element
  | _ => .error (.syntactic .sizeAndElement)

def ofCollectionArgs : List Token → Except Cause Command
  | [] => .error (.syntactic .emptyCollection)
  | .literal text :: rest =>
    if text = buildFlag then ofBuildArgs rest else .ok (.collection (.literal text :: rest))
  | elements => .ok (.collection elements)

def ofRandArgs : List Token → Except Cause Command
  | [flag, lower, upper] =>
    match flag.text?.bind NumberKind.ofFlag? with
    | none => .error (.syntactic .unknownFlag)
    | some kind => do
      checkWord (Argument.checkBound kind) lower
      checkWord (Argument.checkBound kind) upper
      return .rand kind lower upper
  | _ => .error (.syntactic .flagAndBounds)

/-- The command that the tokens spell. -/
def ofTokens : List Token → Except Cause Command
  | [] => .error (.syntactic .emptyCommand)
  | .command _ :: _ => .error (.syntactic .nestedCommandName)
  | .literal word :: args =>
    if word = "var" then ofVarArgs args
    else if word = "get" then ofGetArgs args
    else if word = "collection" then ofCollectionArgs args
    else if word = "rand" then ofRandArgs args
    else .error (.syntactic (.unknownCommand word))

end Command
end TemplateVariants
