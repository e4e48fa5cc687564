import TemplateVariants.Shell.Aliases
import TemplateVariants.Shell.Condition
import TemplateVariants.Shell.Known
import TemplateVariants.Shell.Traps

/-!
# Built-in commands

The commands of the shell that run no other command. The special ones end the script if they fail,
and assignments before them stay.
-/

namespace TemplateVariants
namespace Shell

/-- The commands after which words that look like assignments are not parted into fields. -/
def declaringBuiltins : List String :=
  ["export", "readonly", "local"]

def plainBuiltins : List String :=
  ["[", "alias", "bg", "cd", "command", "echo", "false", "fg", "getopts", "hash", "jobs", "kill",
    "printf", "pwd", "read", "test", "true", "type", "ulimit", "umask", "unalias", "wait"]

namespace State

/-- The number that an argument spells; the script ends if it spells none. -/
def withCount (s : State) (args : List Octets) (otherwise : Nat) (next : Nat → State) : State :=
  match args with
  | [] => next otherwise
  | arg :: _ =>
    if !arg.isEmpty && arg.all Char.isDigit && Formatting.readNat arg < 1 <<< 31 then
      next (Formatting.readNat arg)
    else s.fail (Text.octets "Illegal number: " ++ arg)

/-! ## Ends -/

def exitWith (s : State) (args : List Octets) : State :=
  s.withCount args s.status fun n => { s with status := n % 256, flow := .exiting }

def returnWith (s : State) (args : List Octets) : State :=
  s.withCount args s.status fun n =>
    { s with status := n % 256, flow := if s.calls = 0 then .exiting else .returning }

/-- Ends loops, or goes on with their next round. -/
def leaveLoops (s : State) (args : List Octets) (flow : Nat → Flow) : State :=
  s.withCount args 1 fun n =>
    if n = 0 then s.fail (Text.octets "Illegal number: 0")
    else if s.loops = 0 then s.succeed
    else { s.succeed with flow := flow (min n s.loops) }

/-! ## Variables -/

/-- A name, and a value if an equals sign comes after it. -/
def splitAssignment (arg : Octets) : Octets × Option Octets :=
  let name := arg.takeWhile (· ≠ '=')
  (name, if arg.contains '=' then some (arg.drop (name.length + 1)) else none)

/-- Marks variables, and sets those that come with a value. -/
def declare (s : State) (args : List Octets) (mark : Binding → Binding) : State :=
  args.foldl
    (fun s arg =>
      if s.flow ≠ .onward then s
      else
        let (name, value?) := splitAssignment arg
        if !isName name then s.fail (name ++ Text.octets ": bad variable name")
        else
          let x := String.ofList name
          let s :=
            match value? with
            | some value => s.assign x value
            | none => s
          if s.flow ≠ .onward then s else s.bind x (some (mark ((s.binding? x).getD {}))))
    s.succeed

/-- The lines that would set the variables again, in order of their names. -/
def listing (s : State) (front : String) (keep : Binding → Bool) : Octets :=
  let kept := (s.bindings.filter fun entry => keep entry.2).mergeSort fun a b => decide (a.1 ≤ b.1)
  kept.flatMap fun (x, binding) =>
    match binding.value? with
    | some value => Text.octets (front ++ x) ++ '=' :: quoteValue value ++ ['\n']
    | none => if front.isEmpty then [] else Text.octets (front ++ x) ++ ['\n']

def exporting (s : State) (args : List Octets) : State :=
  match args with
  | [] | [['-', 'p']] => s.say (s.listing "export " (·.isExported))
  | _ => s.declare args fun binding => { binding with isExported := true }

def fixing (s : State) (args : List Octets) : State :=
  match args with
  | [] | [['-', 'p']] => s.say (s.listing "readonly " (·.isReadOnly))
  | _ => s.declare args fun binding => { binding with isReadOnly := true }

/-- Makes variables local to a function: their values come back when it ends. -/
def localize (s : State) (args : List Octets) : State :=
  match s.locals with
  | [] => s.fail (Text.octets "not in a function")
  | frame :: frames =>
    let names := args.map fun arg => String.ofList (splitAssignment arg).1
    let saved := names.filterMap fun x =>
      if frame.any (·.1 = x) then none else some (x, s.binding? x)
    { s with locals := (frame ++ saved) :: frames }.declare args id

def unsetting (s : State) (args : List Octets) : State :=
  let (functions, names) :=
    match args with
    | ['-', 'f'] :: rest => (true, rest)
    | ['-', 'v'] :: rest => (false, rest)
    | _ => (false, args)
  names.foldl
    (fun s name =>
      let x := String.ofList name
      if s.flow ≠ .onward then s
      else if functions then { s with functions := s.functions.filter (·.1 != x) }
      else if !isName name then s.fail (name ++ Text.octets ": bad variable name")
      else if ((s.binding? x).map (·.isReadOnly)).getD false then
        s.fail (name ++ Text.octets ": is read only")
      else s.bind x none)
    s.succeed

/-! ## Modes and arguments -/

def setting (s : State) (args : List Octets) : State :=
  match args with
  | [] => s.say (s.listing "" fun _ => true)
  | [['-', 'o']] => s.say (s.modes.table false)
  | [['+', 'o']] => s.say (s.modes.table true)
  | _ =>
    match s.modes.readFrom args with
    | .error what => s.fail (what)
    | .ok (modes, arguments?) =>
      let s := if modes.controlsJobs then s.complain (Text.octets Modes.noTerminal) else s
      { s.succeed with modes := modes.withoutJobs, arguments := arguments?.getD s.arguments }

def shifting (s : State) (args : List Octets) : State :=
  s.withCount args 1 fun n =>
    if s.arguments.length < n then s.fail (Text.octets "can't shift that many")
    else { s.succeed with arguments := s.arguments.drop n }

/-! ## Conditions and text -/

def testing (s : State) (words : List Octets) : State :=
  match judge s.files words with
  | .ok holds => { s with status := if holds then 0 else 1 }
  | .error fault =>
    let what :=
      match fault with
      | .notANumber text => Text.octets "Illegal number: " ++ text
      | .missingArgument operator => operator ++ Text.octets ": argument expected"
      | .unexpectedOperator text => text ++ Text.octets ": unexpected operator"
      | .unclosed => Text.octets "closing paren expected"
    s.reject what 2

/-- The condition between brackets. -/
def bracketing (s : State) (args : List Octets) : State :=
  match args.reverse with
  | [']'] :: words => s.testing words.reverse
  | _ => s.reject (Text.octets "missing ]") 2

/-- What is said of an argument that is no number. -/
def misreadText (misread : Misread) : String :=
  match misread with
  | .isPartial => "not completely converted"
  | .isNone => "expected numeric value"
  | .isTooLarge => "Numerical result out of range"

def formatFaultText (fault : FormatFault) : Octets :=
  match fault with
  | .unknown directive => '%' :: directive ++ Text.octets ": invalid directive"
  | .unfinished _ => Text.octets "missing format character"

def printing (s : State) (args : List Octets) : State :=
  let args :=
    match args with
    | ['-', '-'] :: rest => rest
    | _ => args
  match args with
  | [] => s.reject (Text.octets "usage: printf format [arg ...]") 2
  | text :: args =>
    let f := format text args
    let s := f.complaints.reverse.foldl
      (fun s (argument, misread) =>
        s.complain (argument ++ Text.octets (": " ++ misreadText misread))) s
    let s := s.write 1 f.written.reverse
    match f.fault? with
    | some fault => s.reject (formatFaultText fault) 2
    | none => { s with status := if f.complaints.isEmpty then 0 else 1 }

/-! ## Reading -/

/-- A line with its backslashes read: its characters and whether each has been quoted, what comes
after it, and whether a line feed has ended it. -/
def lineOf (isRaw : Bool) : Octets → Glyphs × Octets × Bool
  | [] => ([], [], false)
  | '\n' :: rest => ([], rest, true)
  | '\\' :: c :: rest =>
    if isRaw then
      let (line, rest, ended) := lineOf isRaw (c :: rest)
      (('\\', false) :: line, rest, ended)
    else
      let (line, rest, ended) := lineOf isRaw rest
      (if c = '\n' then line else (c, true) :: line, rest, ended)
  | '\\' :: [] => (if isRaw then [('\\', false)] else [], [], false)
  | c :: rest =>
    let (line, rest, ended) := lineOf isRaw rest
    ((c, false) :: line, rest, ended)

/-- Parts a line among names; the last name gets all that is left. -/
def partLine (separators : List Char) : List String → Glyphs → List (String × Octets)
  | [], _ => []
  | x :: names, line =>
    let isSeparator (g : Char × Bool) : Bool := !g.2 && separators.contains g.1
    let isBlank (g : Char × Bool) : Bool := isSeparator g && isBlankSeparator g.1
    let line := line.dropWhile isBlank
    let field := line.takeWhile (!isSeparator ·)
    let after := (line.drop field.length).dropWhile isBlank
    let after :=
      match after with
      | g :: rest => if isSeparator g then rest.dropWhile isBlank else after
      | [] => []
    match names with
    | [] =>
      let whole := if after.isEmpty then field else (line.reverse.dropWhile isBlank).reverse
      [(x, whole.map Prod.fst)]
    | _ => (x, field.map Prod.fst) :: partLine separators names after

def reading (s : State) (args : List Octets) : State :=
  let rec options (isRaw : Bool) : List Octets → Bool × List Octets
    | ['-', 'r'] :: rest => options true rest
    | ['-', 'p'] :: _ :: rest => options isRaw rest
    | ['-', '-'] :: rest => (isRaw, rest)
    | rest => (isRaw, rest)
  let (isRaw, names) := options false args
  match names.find? (!isName ·) with
  | some name => s.reject (name ++ Text.octets ": bad variable name") 2
  | none =>
    if names.isEmpty then s.reject (Text.octets "arg count") 2
    else
      let (line, rest, ended) := lineOf isRaw (s.pending 0)
      let s := s.leave 0 rest
      let s := (partLine s.separators (names.map String.ofList) line).foldl
        (fun s (x, value) => if s.flow ≠ .onward then s else s.assign x value) s
      if s.flow ≠ .onward then s else { s with status := if ended then 0 else 1 }

/-- Takes the next option from arguments; `OPTIND` and `OPTPOS` say where. -/
def gettingOptions (s : State) (args : List Octets) : State :=
  match args with
  | spec :: name :: rest =>
    let words := if rest.isEmpty then s.arguments else rest
    let x := String.ofList name
    let index := ((s.value? "OPTIND").bind readNumber?).getD 1 |>.toNat
    let offset := ((s.value? "OPTPOS").bind readNumber?).getD 0 |>.toNat
    let finish (s : State) : State :=
      { (s.assign x ['?']).assign "OPTPOS" ['0'] with status := 1 }
    let silent := spec.head? == some ':'
    match words[index - 1]? with
    | none => finish (s.assign "OPTIND" (decimal (max index 1)))
    | some word =>
      if offset = 0 ∧ word = ['-', '-'] then finish (s.assign "OPTIND" (decimal (index + 1)))
      else if offset = 0 ∧ (word.head? ≠ some '-' ∨ word.length < 2) then finish s
      else
        let at_ := if offset = 0 then 1 else offset
        let letter := (word[at_]?).getD '?'
        let isLast := word.length ≤ at_ + 1
        let onward (s : State) : State :=
          if isLast then (s.assign "OPTIND" (decimal (index + 1))).assign "OPTPOS" ['0']
          else s.assign "OPTPOS" (decimal (at_ + 1))
        match spec.dropWhile (· ≠ letter), letter == ':' with
        | _ :: mark, false =>
          if mark.head? = some ':' then
            let value? := if isLast then words[index]? else some (word.drop (at_ + 1))
            let used := if isLast then index + 2 else index + 1
            let s := (s.assign "OPTIND" (decimal used)).assign "OPTPOS" ['0']
            match value? with
            | some value => ((s.assign "OPTARG" value).assign x [letter]).succeed
            | none =>
              let s := s.assign "OPTIND" (decimal (index + 1))
              if silent then ((s.assign "OPTARG" [letter]).assign x [':']).succeed
              else
                ((s.bind "OPTARG" none).write 2
                  (Text.octets "No arg for -" ++ letter :: Text.octets " option\n")).assign x ['?']
                  |>.succeed
          else (((onward s).bind "OPTARG" none).assign x [letter]).succeed
        | _, _ =>
          let s := onward s
          if silent then ((s.assign "OPTARG" [letter]).assign x ['?']).succeed
          else
            ((s.bind "OPTARG" none).write 2
              (Text.octets "Illegal option -" ++ [letter, '\n'])).assign x ['?'] |>.succeed
  | _ => s.reject (Text.octets "usage: getopts optstring var [arg]") 2

/-! ## Places and kinds -/

def homeText (s : State) : Octets :=
  Text.octets ("/" ++ String.intercalate "/" s.files.home)

/-- Changes the directory; a hyphen is the one before, which is then written. -/
def changingDirectory (s : State) (args : List Octets) : State :=
  let (path, goesBack) :=
    match args.filter fun arg => arg ≠ "--".toList ∧ arg ≠ "-P".toList ∧ arg ≠ "-L".toList with
    | [] => ((s.value? "HOME").getD [], false)
    | ['-'] :: _ => ((s.value? "OLDPWD").getD [], true)
    | path :: _ => (path, false)
  let fault := s.reject (Text.octets "can't cd to " ++ path) 2
  if path.isEmpty then s.succeed
  else
    match s.files.locate (Text.decodeLossy (Text.bytesOfOctets path)) with
    | .error _ => fault
    | .ok place =>
      if s.files.isDirectoryAt place then
        let old := s.homeText
        let s := { s.forgetful with files := { s.files with home := place } }
        let s := ((s.assign "OLDPWD" old).expose "OLDPWD").assign "PWD" s.homeText
        let s := s.expose "PWD"
        if goesBack then s.say (s.homeText ++ ['\n']) else s.succeed
      else fault

/-- What a word is as a command. -/
inductive Meaning where
  | keyword
  | standIn (text : Octets)
  | specialBuiltin
  | function
  | builtin
  | program (path : Octets) (isKnown : Bool)

def keywords : List String :=
  ["if", "then", "elif", "else", "fi", "while", "until", "for", "in", "do", "done", "case", "esac",
    "\x7b", "\x7d", "!"]

/-- What a word is as a command, given where programs are. -/
def meaning? (s : State) (place? : Octets → Option Octets) (word : Octets) : Option Meaning :=
  let name := String.ofList word
  if keywords.contains name then some .keyword
  else
    match s.aliases.lookup name with
    | some text => some (.standIn text)
    | none =>
      if specialBuiltins.contains name then some .specialBuiltin
      else if (s.functions.lookup name).isSome then some .function
      else if plainBuiltins.contains name then some .builtin
      else
        match s.knownPath? word with
        | some path => some (.program path true)
        | none => (place? word).map fun path => .program path false

/-- What is said of a word as a command. -/
def Meaning.text : Meaning → Octets
  | .keyword => Text.octets "a shell keyword"
  | .standIn text => Text.octets "an alias for " ++ text
  | .specialBuiltin => Text.octets "a special shell builtin"
  | .function => Text.octets "a shell function"
  | .builtin => Text.octets "a shell builtin"
  | .program path false => path
  | .program path true => Text.octets "a tracked alias for " ++ path

/-- The state in which the shell knows where a program is. -/
def afterMeaning (s : State) (word : Octets) : Option Meaning → State
  | some (.program path _) => s.remember word path
  | _ => s

/-- Says what words are as commands. -/
def telling (s : State) (place? : Octets → Option Octets) (words : List Octets) : State :=
  words.foldl
    (fun s word =>
      let meaning? := s.meaning? place? word
      match meaning? with
      | some meaning =>
        (s.afterMeaning word meaning?).write 1
          (word ++ Text.octets " is " ++ meaning.text ++ ['\n'])
      | none => { s.write 1 (word ++ Text.octets ": not found\n") with status := 127 })
    s.succeed

/-- Writes what a word would run. -/
def locating (s : State) (place? : Octets → Option Octets) (word : Octets) : State :=
  let meaning? := s.meaning? place? word
  let s := s.afterMeaning word meaning?
  match meaning? with
  | some (.standIn text) =>
    s.say (Text.octets "alias " ++ aliasLine (String.ofList word, text))
  | some (.program path _) => s.say (path ++ ['\n'])
  | some _ => s.say (word ++ ['\n'])
  | none => { s with status := 127 }

/-- Looks for programs so that the shell knows where they are, or tells where those are that it
knows. -/
def hashing (s : State) (place? : Octets → Option Octets) (args : List Octets) : State :=
  match args with
  | [] => s.say s.knownListing
  | ['-', 'r'] :: _ => { s.succeed with known := [] }
  | ('-' :: c :: _) :: _ => s.reject (Text.octets "Illegal option -" ++ [c]) 2
  | _ =>
    args.foldl
      (fun s word =>
        let meaning? := { s with aliases := [] }.meaning? place? word
        if meaning?.isSome then s.afterMeaning word meaning?
        else s.reject (word ++ Text.octets ": not found") 1)
      s.succeed

/-! ## The table -/

/-- Runs a built-in command that runs no other command; none if there is none with the name. -/
def builtin? (s : State) (place? : Octets → Option Octets) (name : String) (args : List Octets) :
    Option State :=
  match name with
  | ":" | "true" | "times" | "ulimit" => some s.succeed
  | "false" => some { s with status := 1 }
  | "echo" => some (s.say (echo args))
  | "printf" => some (s.printing args)
  | "test" => some (s.testing args)
  | "[" => some (s.bracketing args)
  | "read" => some (s.reading args)
  | "getopts" => some (s.gettingOptions args)
  | "cd" => some (s.changingDirectory args)
  | "pwd" => some (s.say (s.homeText ++ ['\n']))
  | "type" => some (s.telling place? args)
  | "hash" => some (s.hashing place? args)
  | "umask" => some (s.masking args)
  | "alias" => some (s.aliasing args)
  | "unalias" => some (s.unaliasing args)
  | "kill" => some (s.killing args)
  | "jobs" => some (s.listingJobs args)
  | "bg" | "fg" => some (s.reject (Text.octets "No current job") 2)
  | "exit" => some (s.exitWith args)
  | "return" => some (s.returnWith args)
  | "break" => some (s.leaveLoops args .leaving)
  | "continue" => some (s.leaveLoops args .continuing)
  | "export" => some (s.exporting args)
  | "readonly" => some (s.fixing args)
  | "local" => some (s.localize args)
  | "unset" => some (s.unsetting args)
  | "set" => some (s.setting args)
  | "shift" => some (s.shifting args)
  | "trap" => some (s.trapping args)
  | _ => none

end State

end Shell
end TemplateVariants
