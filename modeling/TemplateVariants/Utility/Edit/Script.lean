import TemplateVariants.Regex.Reading
import TemplateVariants.Text.Octets

/-!
# Scripts of a stream editor

A script is a list of commands, each with the lines that it is about. Blocks and jumps lead to the
numbers of commands.
-/

namespace TemplateVariants
namespace Edit

/-- A regular expression with its flags. -/
structure Expression where
  pattern : Regex.Pattern
  ignoresCase : Bool := false
  byLines : Bool := false

/-- Lines by their number, the last line, those that match an expression, the last expression that
has been used if there is none, or every so many lines from a first. -/
inductive Address where
  | line (n : Nat)
  | last
  | matching (expression? : Option Expression)
  | every (first step : Nat)

/-- Where a range of lines ends: at an address, after so many lines, or at a multiple. -/
inductive Stop where
  | address (a : Address)
  | after (lines : Nat)
  | multiple (n : Nat)

/-- The lines that a command is about; `isNegated` stands for all others. -/
structure Selector where
  first? : Option Address := none
  stop? : Option Stop := none
  isNegated : Bool := false

/-- How the letters of a replacement are changed. -/
inductive Casing where
  | upper
  | lower
  | upperNext
  | lowerNext
  | plain
deriving DecidableEq, Repr

/-- A part of a replacement: text, what a group has matched, or a change of the letters after it. -/
inductive Piece where
  | text (cs : Octets)
  | group (n : Nat)
  | casing (c : Casing)

/-- What is done with the first match, or with all from some match on. -/
structure Substitution where
  expression? : Option Expression
  replacement : List Piece
  isGlobal : Bool := false
  prints : Bool := false
  number : Nat := 1
  path? : Option Octets := none

/-- What a command does. The target of a jump is the number of a command, or the end of the
script. -/
inductive Action where
  | block (stop : Nat)
  | nothing
  | append (text : Octets)
  | insert (text : Octets)
  | change (text : Octets)
  | jump (label : Octets) (target : Nat)
  | jumpIf (label : Octets) (target : Nat)
  | jumpUnless (label : Octets) (target : Nat)
  | delete
  | deleteFirst
  | hold
  | holdMore
  | fetch
  | fetchMore
  | exchange
  | show (width : Nat)
  | next
  | nextMore
  | print
  | printFirst
  | quit (status : Nat)
  | quitSilently (status : Nat)
  | readFile (path : Octets)
  | readLine (path : Octets)
  | writeFile (path : Octets)
  | writeFirst (path : Octets)
  | substitute (s : Substitution)
  | translate (pairs : List (Char × Char))
  | number
  | empty
  | fileName

structure Command where
  selector : Selector
  action : Action

instance : Inhabited Command := ⟨{}, .nothing⟩

/-! ## Reading -/

/-- Why a script cannot be read. -/
inductive ScriptFault where
  | here (what : String)
  | nowhere (what : String)
  | label (name : Octets)

/-- What is left of a script, and how much of it has been read; the commands so far, backwards, the
numbers of the blocks that are open, the labels, and whether expressions are extended. -/
structure Source where
  rest : List Char
  taken : Nat := 0
  isExtended : Bool
  commands : Array Command := #[]
  openBlocks : List Nat := []
  labels : List (Octets × Nat) := []

abbrev Reading := EStateM ScriptFault Source

def fail {α : Type} (what : String) : Reading α :=
  throw (.here what)

/-- Takes the next character, if there is one. -/
def take? : Reading (Option Char) := do
  let s ← get
  match s.rest with
  | [] => return none
  | c :: rest =>
    set { s with rest, taken := s.taken + 1 }
    return some c

def peek? : Reading (Option Char) := do
  return (← get).rest.head?

def takeWhile (test : Char → Bool) : Reading Octets := do
  let s ← get
  let text := s.rest.takeWhile test
  set { s with rest := s.rest.drop text.length, taken := s.taken + text.length }
  return text

def isBlank (c : Char) : Bool :=
  c == ' ' || c == '\t'

def isSpace (c : Char) : Bool :=
  isBlank c || c == '\n' || c == '\r'

def readNumber : Reading Nat := do
  let digits ← takeWhile Char.isDigit
  return digits.foldl (fun n c => 10 * n + (c.toNat - '0'.toNat)) 0

/-- The length of the bracket that a text starts with, as far as it is on the line; `isFirst` tells
whether a closing bracket is a member. The number bounds it. -/
def bracketLength : Nat → Bool → List Char → Nat
  | 0, _, _ => 0
  | _, _, [] => 0
  | fuel + 1, isFirst, c :: rest =>
    if c = ']' ∧ !isFirst then 1
    else if c = '\n' then 0
    else
      match c, rest with
      | '[', d :: inside =>
        if d = ':' ∨ d = '.' ∨ d = '=' then
          let name := inside.takeWhile fun e => e ≠ d ∧ e ≠ '\n'
          match inside.drop name.length with
          | _ :: ']' :: after => bracketLength fuel false after + name.length + 4
          | _ => bracketLength fuel false rest + 1
        else bracketLength fuel false rest + 1
      | _, _ => bracketLength fuel false rest + 1

/-- The text up to a mark, without a backslash before the mark; none if it does not come in the
line. The number bounds the text. -/
def delimited (mark : Char) (isExpression : Bool) : Nat → Octets → Reading (Option Octets)
  | 0, _ => return none
  | fuel + 1, before => do
    match ← take? with
    | none => return none
    | some '\n' => return none
    | some c =>
      if c = mark then return some before.reverse
      else if c = '[' ∧ isExpression then
        let s ← get
        let sign := if s.rest.head? = some '^' then 1 else 0
        let length := sign + bracketLength s.rest.length true (s.rest.drop sign)
        set { s with rest := s.rest.drop length, taken := s.taken + length }
        delimited mark isExpression fuel ((s.rest.take length).reverse ++ '[' :: before)
      else if c = '\\' then
        match ← take? with
        | none => return none
        | some d =>
          if d = mark then
            if !isExpression ∧ d = '&' then delimited mark isExpression fuel (d :: '\\' :: before)
            else delimited mark isExpression fuel (d :: before)
          else if d = 'n' ∧ isExpression then delimited mark isExpression fuel ('\n' :: before)
          else if d = '\n' then delimited mark isExpression fuel ('\n' :: '\\' :: before)
          else delimited mark isExpression fuel (d :: '\\' :: before)
      else delimited mark isExpression fuel (c :: before)

/-- The character that a letter after a backslash stands for. -/
def control? (c : Char) : Option Char :=
  match c with
  | 'a' => some '\x07'
  | 'f' => some '\x0c'
  | 'n' => some '\n'
  | 'r' => some '\r'
  | 't' => some '\t'
  | 'v' => some '\x0b'
  | _ => none

/-- An expression in which backslashes before letters have become control characters. -/
def withControls : Octets → Octets
  | '\\' :: c :: rest =>
    match control? c with
    | some d => d :: withControls rest
    | none => '\\' :: c :: withControls rest
  | c :: rest => c :: withControls rest
  | [] => []

/-- The expression that a text spells; none for an empty text. -/
def expression? (text : Octets) (ignoresCase byLines : Bool) : Reading (Option Expression) := do
  if text.isEmpty then return none
  match Regex.read (← get).isExtended (withControls text) with
  | .ok pattern => return some { pattern, ignoresCase, byLines }
  | .error fault => fail fault.message

/-! ## Addresses -/

/-- The flags after an expression: whether case counts, and whether lines in it do. -/
def expressionFlags : Nat → Bool × Bool → Reading (Bool × Bool)
  | 0, flags => return flags
  | fuel + 1, (ignoresCase, byLines) => do
    match ← peek? with
    | some 'I' =>
      let _ ← take?
      expressionFlags fuel (true, byLines)
    | some 'M' =>
      let _ ← take?
      expressionFlags fuel (ignoresCase, true)
    | _ => return (ignoresCase, byLines)

def expressionAddress (mark : Char) : Reading Address := do
  match ← delimited mark true (← get).rest.length [] with
  | none => fail "unterminated address regex"
  | some text =>
    let (ignoresCase, byLines) ← expressionFlags (← get).rest.length (false, false)
    return .matching (← expression? text ignoresCase byLines)

/-- An address, if one comes next. -/
def address? : Reading (Option Address) := do
  match ← peek? with
  | some '/' =>
    let _ ← take?
    return some (← expressionAddress '/')
  | some '\\' =>
    let _ ← take?
    match ← take? with
    | none => fail "unexpected end"
    | some mark => return some (← expressionAddress mark)
  | some '$' =>
    let _ ← take?
    return some .last
  | some c =>
    if c.isDigit then
      let n ← readNumber
      let _ ← takeWhile isBlank
      if (← peek?) = some '~' then
        let _ ← take?
        let _ ← takeWhile isBlank
        let step ← readNumber
        return some (if step = 0 then .line n else .every n step)
      else return some (.line n)
    else return none
  | none => return none

def stop : Reading Stop := do
  let _ ← takeWhile isBlank
  match ← peek? with
  | some '+' =>
    let _ ← take?
    return .after (← readNumber)
  | some '~' =>
    let _ ← take?
    return .multiple (← readNumber)
  | _ =>
    match ← address? with
    | some (.every n _) => return .address (.line n)
    | some a => return .address a
    | none =>
      let _ ← take?
      fail "unexpected \x60,'"

def selector : Reading Selector := do
  let first? ← address?
  match first?, ← peek? with
  | none, some '+' | none, some '~' =>
    let _ ← take?
    let _ ← take?
    fail "invalid usage of +N or ~N as first address"
  | _, _ =>
    let _ ← if first?.isSome then takeWhile isBlank else pure []
    let stop? ←
      match first?, ← peek? with
      | some _, some ',' =>
        let _ ← take?
        pure (some (← stop))
      | _, _ => pure none
    let _ ← takeWhile isBlank
    match first?, stop? with
    | some (.line 0), some (.address (.matching _)) => pure ()
    | some (.line 0), _ =>
      let _ ← take?
      fail "invalid usage of line address 0"
    | _, _ => pure ()
    let isNegated := (← peek?) = some '!'
    if isNegated then
      let _ ← take?
      let _ ← takeWhile isBlank
      if (← peek?) = some '!' then
        let _ ← take?
        fail "multiple \x60!'s"
    return { first?, stop?, isNegated }

/-! ## Commands -/

/-- Takes what ends a command. -/
def endCommand : Reading Unit := do
  let _ ← takeWhile isBlank
  match ← peek? with
  | none => return
  | some '#' => return
  | some '\x7d' => return
  | some c =>
    let _ ← take?
    if c ≠ ';' ∧ c ≠ '\n' then fail "extra characters after command"

/-- A line of text, which goes on after a backslash; the number bounds it. -/
def textLine : Nat → Octets → Reading Octets
  | 0, before => return before.reverse
  | fuel + 1, before => do
    match ← take? with
    | none => return ('\n' :: before).reverse
    | some '\n' => return ('\n' :: before).reverse
    | some '\\' =>
      match ← take? with
      | none => return ('\n' :: before).reverse
      | some c => textLine fuel ((control? c |>.filter (· ≠ '\n') |>.getD c) :: before)
    | some c => textLine fuel (c :: before)

/-- The text of a command that writes one. -/
def commandText : Reading Octets := do
  let _ ← takeWhile isBlank
  match ← peek? with
  | none => fail "expected \\ after \x60a', \x60c' or \x60i'"
  | some '\\' =>
    let _ ← take?
    let s ← get
    match s.rest.dropWhile isBlank with
    | '\n' :: _ =>
      let _ ← takeWhile isBlank
      let _ ← take?
    | _ => pure ()
    if (← peek?).isNone then return []
    textLine (← get).rest.length.succ []
  | _ => textLine (← get).rest.length.succ []

/-- The label of a jump. -/
def labelText : Reading Octets := do
  let _ ← takeWhile isBlank
  takeWhile fun c => !isSpace c && c != ';' && c != '\x7d'

def pathText : Reading Octets := do
  let _ ← takeWhile isBlank
  let path ← takeWhile (· ≠ '\n')
  let _ ← take?
  if path.isEmpty then fail "missing filename in r/R/w/W commands"
  return path

/-- The parts of a replacement. -/
def pieces : Octets → List Piece
  | [] => []
  | '&' :: rest => .group 0 :: pieces rest
  | '\\' :: c :: rest =>
    if c.isDigit then .group (c.toNat - '0'.toNat) :: pieces rest
    else
      match c with
      | 'U' => .casing .upper :: pieces rest
      | 'L' => .casing .lower :: pieces rest
      | 'u' => .casing .upperNext :: pieces rest
      | 'l' => .casing .lowerNext :: pieces rest
      | 'E' => .casing .plain :: pieces rest
      | _ => .text [(control? c).getD c] :: pieces rest
  | c :: rest => .text [c] :: pieces rest

/-- The flags after a substitution; the number bounds them. -/
def substitutionFlags : Nat → Substitution × Bool × Bool × Bool →
    Reading (Substitution × Bool × Bool × Bool)
  | 0, state => return state
  | fuel + 1, (s, ignoresCase, byLines, hasNumber) => do
    match ← peek? with
    | some 'g' =>
      let _ ← take?
      if s.isGlobal then fail "multiple \x60g' options to \x60s' command"
      substitutionFlags fuel ({ s with isGlobal := true }, ignoresCase, byLines, hasNumber)
    | some 'p' =>
      let _ ← take?
      if s.prints then fail "multiple \x60p' options to \x60s' command"
      substitutionFlags fuel ({ s with prints := true }, ignoresCase, byLines, hasNumber)
    | some 'i' | some 'I' =>
      let _ ← take?
      substitutionFlags fuel (s, true, byLines, hasNumber)
    | some 'm' | some 'M' =>
      let _ ← take?
      substitutionFlags fuel (s, ignoresCase, true, hasNumber)
    | some 'w' =>
      let _ ← take?
      let path ← pathText
      return ({ s with path? := some path }, ignoresCase, byLines, hasNumber)
    | none | some '#' | some '\x7d' => return (s, ignoresCase, byLines, hasNumber)
    | some c =>
      if c = ';' ∨ c = '\n' then
        let _ ← take?
        return (s, ignoresCase, byLines, hasNumber)
      else if isBlank c then
        let _ ← take?
        substitutionFlags fuel (s, ignoresCase, byLines, hasNumber)
      else if c.isDigit then
        let n ← readNumber
        if hasNumber then fail "multiple number options to \x60s' command"
        if n = 0 then fail "number option to \x60s' command may not be zero"
        substitutionFlags fuel ({ s with number := n }, ignoresCase, byLines, true)
      else
        let _ ← take?
        fail "unknown option to \x60s'"

def substitution : Reading Action := do
  let unterminated {α : Type} : Reading α := fail "unterminated \x60s' command"
  match ← take? with
  | none => unterminated
  | some mark =>
    if mark = '\n' ∨ mark = '\\' then unterminated
    let length := (← get).rest.length
    match ← delimited mark true length [] with
    | none => unterminated
    | some text =>
      match ← delimited mark false length [] with
      | none => unterminated
      | some replacement =>
        let start : Substitution := { expression? := none, replacement := pieces replacement }
        let (s, ignoresCase, byLines, _) ←
          substitutionFlags (length + 1) (start, false, false, false)
        let expression? ← expression? text ignoresCase byLines
        let groups := (expression?.map (·.pattern.groups)).getD 9
        let used := s.replacement.filterMap fun piece =>
          match piece with
          | .group n => if groups < n then some n else none
          | _ => none
        match used.head? with
        | some n =>
          fail ("invalid reference \\" ++ Nat.repr n ++ " on \x60s' command's RHS")
        | none => return .substitute { s with expression? }

/-- The characters that a text for a translation spells. -/
def translationChars : Octets → Octets
  | '\\' :: '\\' :: rest => '\\' :: translationChars rest
  | '\\' :: c :: rest =>
    match control? c with
    | some d => d :: translationChars rest
    | none => '\\' :: c :: translationChars rest
  | c :: rest => c :: translationChars rest
  | [] => []

def translation : Reading Action := do
  let unterminated {α : Type} : Reading α := fail "unterminated \x60y' command"
  match ← take? with
  | none => unterminated
  | some mark =>
    let length := (← get).rest.length
    match ← delimited mark false length [] with
    | none => unterminated
    | some froms =>
      match ← delimited mark false length [] with
      | none => unterminated
      | some goals =>
        let froms := translationChars froms
        let goals := translationChars goals
        if froms.length ≠ goals.length then
          fail "strings for \x60y' command are different lengths"
        endCommand
        return .translate (froms.zip goals)

/-- A number after the letter of a command. -/
def statusAfter : Reading Nat := do
  let _ ← takeWhile isBlank
  let n ← readNumber
  endCommand
  return n

def simple (action : Action) : Reading Action := do
  endCommand
  return action

/-- The action of a command by its letter, which has been taken. -/
def action (letter : Char) : Reading Action := do
  match letter with
  | 'a' => return .append (← commandText)
  | 'i' => return .insert (← commandText)
  | 'c' => return .change (← commandText)
  | 'b' =>
    let label ← labelText
    simple (.jump label 0)
  | 't' =>
    let label ← labelText
    simple (.jumpIf label 0)
  | 'T' =>
    let label ← labelText
    simple (.jumpUnless label 0)
  | 'd' => simple .delete
  | 'D' => simple .deleteFirst
  | 'h' => simple .hold
  | 'H' => simple .holdMore
  | 'g' => simple .fetch
  | 'G' => simple .fetchMore
  | 'x' => simple .exchange
  | 'l' =>
    let _ ← takeWhile isBlank
    let hasWidth := ((← peek?).map Char.isDigit).getD false
    let width ← statusAfter
    return .show (if hasWidth then width else 70)
  | 'n' => simple .next
  | 'N' => simple .nextMore
  | 'p' => simple .print
  | 'P' => simple .printFirst
  | 'q' => return .quit (← statusAfter)
  | 'Q' => return .quitSilently (← statusAfter)
  | 'r' => return .readFile (← pathText)
  | 'R' => return .readLine (← pathText)
  | 'w' => return .writeFile (← pathText)
  | 'W' => return .writeFirst (← pathText)
  | 's' => substitution
  | 'y' => translation
  | '=' => simple .number
  | 'z' => simple .empty
  | 'F' => simple .fileName
  | _ => fail ("unknown command: \x60" ++ String.singleton letter ++ "'")

/-- Adds a command to the script. -/
def push (selector : Selector) (action : Action) : Reading Unit :=
  modify fun s => { s with commands := s.commands.push ⟨selector, action⟩ }

/-- Reads the commands of a script; the number bounds them. -/
def readCommands : Nat → Reading Unit
  | 0 => return
  | fuel + 1 => do
    let _ ← takeWhile fun c => isSpace c || c == ';'
    match ← peek? with
    | none => return
    | some '#' =>
      let _ ← takeWhile (· ≠ '\n')
      readCommands fuel
    | some _ =>
      let selector ← selector
      match ← take? with
      | none => fail "missing command"
      | some '\x7b' =>
        modify fun s => { s with openBlocks := s.commands.size :: s.openBlocks }
        push selector (.block 0)
        readCommands fuel
      | some '\x7d' =>
        let s ← get
        match s.openBlocks with
        | [] => fail "unexpected \x60\x7d'"
        | start :: others =>
          if selector.first?.isSome then fail "\x7d doesn't want any addresses"
          let close (c : Command) : Command := { c with action := .block s.commands.size }
          set { s with openBlocks := others, commands := s.commands.modify start close }
          endCommand
          readCommands fuel
      | some ':' =>
        if selector.first?.isSome then fail ": doesn't want any addresses"
        let _ ← takeWhile isBlank
        let label ← takeWhile fun c => !isSpace c && c != ';'
        if label.isEmpty then fail "\":\" lacks a label"
        modify fun s => { s with labels := (label, s.commands.size) :: s.labels }
        readCommands fuel
      | some letter =>
        push selector (← action letter)
        readCommands fuel

/-- A command with the target of its jump. -/
def resolve (labels : List (Octets × Nat)) (size : Nat) (c : Command) :
    Except ScriptFault Command :=
  let find (label : Octets) : Except ScriptFault Nat :=
    if label.isEmpty then .ok size
    else
      match labels.lookup label with
      | some target => .ok target
      | none => .error (.label label)
  match c.action with
  | .jump label _ => (find label).map fun target => { c with action := .jump label target }
  | .jumpIf label _ => (find label).map fun target => { c with action := .jumpIf label target }
  | .jumpUnless label _ =>
    (find label).map fun target => { c with action := .jumpUnless label target }
  | _ => .ok c

/-- Reads a script; a fault comes with how much has been read. -/
def readScript (isExtended : Bool) (text : Octets) : Except (ScriptFault × Nat) (Array Command) :=
  match (readCommands (text.length + 1)).run { rest := text, isExtended } with
  | .error fault s => .error (fault, s.taken)
  | .ok _ s =>
    if s.openBlocks.isEmpty then
      match s.commands.toList.mapM (resolve s.labels s.commands.size) with
      | .ok commands => .ok commands.toArray
      | .error fault => .error (fault, s.taken)
    else .error (.nowhere "unmatched \x60\x7b'", 0)

end Edit
end TemplateVariants
