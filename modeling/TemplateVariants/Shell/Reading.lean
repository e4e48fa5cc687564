import TemplateVariants.Shell.Syntax
import TemplateVariants.Text.Lines

/-!
# Reading scripts

A script is read one line of commands at a time, so that the commands before a fault still run.
Within a line the reader follows the grammar: lists of pipelines of commands, compound commands
between their reserved words, words with quotes and expansions. A backslash before a line feed joins
lines. A first word that is an alias gives way to the text it stands for. The number that the
functions count down bounds their nesting and is taken from the length of the script.
-/

namespace TemplateVariants
namespace Shell

/-- Why a script cannot be read. -/
inductive SyntaxFault where
  | unexpected (token : String) (expected? : Option String)
  | missing (what : String)
  | unclosedQuotes
  | unclosedBackquotes
  | badFunctionName
  | badLoopVariable
  | tooDeep
deriving DecidableEq, Repr

def SyntaxFault.message (fault : SyntaxFault) : String :=
  let what :=
    match fault with
    | .unexpected token none => token ++ " unexpected"
    | .unexpected token (some expected) => token ++ " unexpected (expecting " ++ expected ++ ")"
    | .missing what => "Missing '" ++ what ++ "'"
    | .unclosedQuotes => "Unterminated quoted string"
    | .unclosedBackquotes => "EOF in backquote substitution"
    | .badFunctionName => "Bad function name"
    | .badLoopVariable => "Bad for loop variable"
    | .tooDeep => "too much nesting"
  "Syntax error: " ++ what

/-- A here-document that a redirection has asked for: the line that ends it, whether its lines lose
the tabs that they start with, and whether it is taken as it stands. -/
structure Announcement where
  number : Nat
  delimiter : List Char
  stripsTabs : Bool
  verbatim : Bool

/-- What aliases have done to a script: those at work, each until no more of the script is left than
the number says, and how much is left where an alias gives way to the next word, too. -/
structure Rewriting where
  atWork : List (String × Nat) := []
  next? : Option Nat := none

/-- A script as far as it has been read: what is left of it, the number of the line, a bound on its
length, the place of the file that it comes from and how much of that has been read, whether it asks
for its lines and whether they may be repeated, how much is left where words are not reserved, the
here-document that is being read, the aliases, the here-documents to come, the latest first, and
those that have been read. -/
structure Source where
  rest : List Char
  line : Nat := 1
  bound : Nat
  storedAt? : Option (List String × Nat) := none
  prompts : Bool := false
  repeats : Bool := false
  plainAt? : Option Nat := none
  document? : Option Announcement := none
  aliases : List (String × List Char) := []
  rewriting : Rewriting := {}
  announced : List Announcement := []
  documents : List (Nat × Word) := []
  count : Nat := 0

/-- A script of which nothing has been read; its here-documents are numbered from `count`. -/
def Source.ofText (text : List Char) (count : Nat) : Source :=
  { rest := text, bound := text.length, count }

/-- How much is left of a script when the texts of aliases do not count. -/
def Source.left (s : Source) : Nat :=
  s.rewriting.atWork.foldl (fun left (_, size) => min left size) s.rest.length

/-- A script from the first line on of which nothing has been read. -/
def Source.unread (s : Source) : List Char :=
  if s.rewriting.atWork.any fun (_, size) => size ≤ s.rest.length then
    ((s.rest.drop (s.rest.length - s.left)).dropWhile (· ≠ '\n')).drop 1
  else s.rest

/-- The lines that have been read between two places of a script; the last of them is read as a
whole. -/
def Source.linesUpTo (before after : Source) : List (List Char) :=
  let (read, rest) := before.unread.splitAt (before.unread.length - after.left)
  let text :=
    if read.getLast? = some '\n' ∨ before.unread.length < after.left then read
    else read ++ rest.takeWhile (· ≠ '\n') ++ (rest.dropWhile (· ≠ '\n')).take 1
  Text.keepingEndsFrom [] [] text

abbrev Reading := EStateM SyntaxFault Source

/-! ## Characters -/

/-- The script without the joints of lines that it starts with, and how many these are. -/
def dropContinuations : List Char → List Char × Nat
  | '\\' :: '\n' :: cs =>
    let (rest, joints) := dropContinuations cs
    (rest, joints + 1)
  | cs => (cs, 0)

/-- The next character, if there is one; joined lines count as one. -/
def peek : Reading (Option Char) := do
  let s ← get
  let (rest, joints) := dropContinuations s.rest
  set { s with rest, line := s.line + joints }
  return rest.head?

/-- Goes on with a rest of the script on the same line. -/
def setRest (rest : List Char) : Reading Unit :=
  modify fun s => { s with rest, plainAt? := none }

def advance : Reading Unit :=
  modify fun s =>
    { s with rest := s.rest.tail, line := if s.rest.head? = some '\n' then s.line + 1 else s.line }

/-- Takes the next character as it stands. -/
def take? : Reading (Option Char) := do
  let c? := (← get).rest.head?
  advance
  return c?

/-- Takes the characters up to the first that fails the test. -/
def takeWhile (test : Char → Bool) : Reading (List Char) := do
  let s ← get
  let text := s.rest.takeWhile test
  set { s with rest := s.rest.dropWhile test, line := s.line + text.count '\n' }
  return text

/-- The characters that the script starts with that pass the test, over joined lines, their number,
and how many lines are joined. -/
def joinedWhile (test : Char → Bool) : List Char → List Char × Nat × Nat
  | '\\' :: '\n' :: cs =>
    let (text, length, joints) := joinedWhile test cs
    (text, length + 2, joints + 1)
  | c :: cs =>
    if test c then
      let (text, length, joints) := joinedWhile test cs
      (c :: text, length + 1, joints)
    else ([], 0, 0)
  | [] => ([], 0, 0)

/-- Takes the characters up to the first that fails the test; lines may be joined among them. -/
def takeJoined (test : Char → Bool) : Reading (List Char) := do
  let s ← get
  let (text, length, joints) := joinedWhile test s.rest
  set { s with rest := s.rest.drop length, line := s.line + joints }
  return text

/-- The script after blanks, joined lines and a comment, and how many lines are joined. -/
def skipBlanks : List Char → List Char × Nat
  | ' ' :: cs => skipBlanks cs
  | '\t' :: cs => skipBlanks cs
  | '\\' :: '\n' :: cs =>
    let (rest, joints) := skipBlanks cs
    (rest, joints + 1)
  | '#' :: cs => (cs.dropWhile (· ≠ '\n'), 0)
  | cs => (cs, 0)

def blanks : Reading Unit :=
  modify fun s =>
    let (rest, joints) := skipBlanks s.rest
    { s with rest, line := s.line + joints }

/-- Whether a character ends a word. -/
def endsWord (c : Char) : Bool :=
  " \t\n;&|<>()".toList.contains c

/-! ## Reserved words -/

def reservedWords : List String :=
  ["if", "then", "elif", "else", "fi", "while", "until", "for", "in", "do", "done", "case", "esac",
    "\x7b", "\x7d", "!"]

/-- The reserved words that only go on with or end a command. -/
def closingWords : List String :=
  ["then", "elif", "else", "fi", "do", "done", "esac", "\x7d"]

def isReservedChar (c : Char) : Bool :=
  c.isAlpha || c == '{' || c == '}' || c == '!'

/-- The reserved word that a text starts with. -/
def reservedIn? (rest : List Char) : Option String :=
  let (text, length, _) := joinedWhile isReservedChar rest
  let word := String.ofList text
  if reservedWords.contains word && ((rest.drop length).head?.map endsWord).getD true then some word
  else none

/-- The reserved word that the script goes on with, if words are reserved there. -/
def Source.reserved? (s : Source) : Option String :=
  match s.plainAt? with
  | none => reservedIn? s.rest
  | some left => if s.rest.length = left then none else reservedIn? s.rest

/-- Takes the reserved word that the script goes on with. -/
def dropWord : Reading Unit :=
  modify fun s =>
    let (_, length, joints) := joinedWhile isReservedChar s.rest
    { s with rest := s.rest.drop length, line := s.line + joints, plainAt? := none }

/-- The operators of the grammar, the longer before the shorter. -/
def operators : List String :=
  ["&&", "||", ";;", ";", "&", "|", "(", ")"]

def quoteToken (token : String) : String :=
  "\"" ++ token ++ "\""

/-- The name of what a script goes on with, where a reserved word may count as a word. -/
def tokenName (reserves : Bool) (s : Source) : String :=
  match s.rest with
  | [] => "end of file"
  | '\n' :: _ => "newline"
  | '<' :: _ | '>' :: _ => "redirection"
  | c :: '<' :: _ | c :: '>' :: _ => if c.isDigit then "redirection" else otherName
  | _ => otherName
where
  otherName : String :=
    match operators.find? fun operator => operator.toList.isPrefixOf s.rest with
    | some operator => quoteToken operator
    | none => ((s.reserved?.filter fun _ => reserves).map quoteToken).getD "word"

/-- Throws a fault of what the script goes on with; a line feed and a reserved word count as
read. -/
def faultHere {α : Type} (fault : SyntaxFault) : Reading α := do
  modify fun s =>
    if s.rest.head? = some '\n' then { s with line := s.line + 1 }
    else if s.reserved?.isSome then
      { s with line := s.line + (joinedWhile isReservedChar s.rest).2.2 }
    else s
  throw fault

/-- Names what the script goes on with and refuses it; something else may have been expected. -/
def refuse {α : Type} (expected? : Option String := none) (reserves : Bool := true) :
    Reading α := do
  faultHere (.unexpected (tokenName reserves (← get)) expected?)

/-! ## Aliases -/

/-- The word that the script starts with, if nothing in it is quoted or expanded. -/
def bareWord (rest : List Char) : List Char :=
  let word := rest.takeWhile (!endsWord ·)
  if word.any fun c => "\\'\"$\x60".toList.contains c then [] else word

/-- Puts the text of an alias in the place of the word that the script starts with; tells whether it
did. Reserved words are no aliases, and an alias is none within its own text. -/
def rewrite : Reading Bool := do
  let s ← get
  let word := bareWord s.rest
  match if s.reserved?.isSome then none else s.aliases.lookup (String.ofList word) with
  | none => return false
  | some text =>
    let name := String.ofList word
    let left := s.rest.length
    let atWork := s.rewriting.atWork.filter fun (_, size) => size < left
    if atWork.any fun (other, _) => other = name then return false
    else
      let after := s.rest.drop word.length
      let goesOn := text.getLast? = some ' ' ∨ text.getLast? = some '\t'
      set { s with
        rest := text ++ after
        rewriting :=
          { atWork := (name, after.length) :: atWork
            next? := if goesOn then some (skipBlanks after).1.length else s.rewriting.next? } }
      return true

/-- Puts the texts of aliases in the place of the word that comes next; the number bounds how
often. -/
def rewriteAll : Nat → Reading Unit
  | 0 => return
  | tries + 1 => do
    blanks
    if ← rewrite then rewriteAll tries

/-- How often a word may be rewritten. -/
def Source.rewrites (s : Source) : Nat :=
  2 * s.aliases.length

/-- Whether the script has come to a word that follows the text of an alias with a blank at its
end. -/
def Source.isNext (s : Source) : Bool :=
  match s.rewriting.next? with
  | some left => s.rest.length == left
  | none => false

/-! ## Words that have to come -/

/-- Takes a reserved word that has to come next. -/
def expectWord (word : String) : Reading Unit := do
  blanks
  if (← get).reserved? = some word then dropWord else refuse (some (quoteToken word))

/-- Takes a character that has to come next. -/
def expectChar (c : Char) (reserves : Bool := true) : Reading Unit := do
  blanks
  if (← peek) = some c then advance else refuse (some (quoteToken (String.singleton c))) reserves

/-! ## Quotes -/

/-- The characters up to a single quote. -/
def singleQuoted : Reading (List Char) := do
  let text ← takeWhile (· ≠ '\'')
  match ← take? with
  | some _ => return text
  | none => throw .unclosedQuotes

/-- Whether a backslash in double quotes takes away the meaning of the character after it. -/
def isQuotedSpecial (c : Char) : Bool :=
  c == '$' || c == '`' || c == '"' || c == '\\'

/-- The text between backquotes, where a backslash takes away the meaning of some characters. -/
def backquotedText (inQuotes : Bool) : List Char → Option (List Char × List Char)
  | [] => none
  | '`' :: rest => some ([], rest)
  | '\\' :: c :: rest =>
    (backquotedText inQuotes rest).map fun (text, rest) =>
      if c = '\\' ∨ c = '`' ∨ c = '$' ∨ (inQuotes ∧ c = '"') then (c :: text, rest)
      else ('\\' :: c :: text, rest)
  | c :: rest => (backquotedText inQuotes rest).map fun (text, rest) => (c :: text, rest)

def quoteAll (text : List Char) : Word :=
  if text.isEmpty then [.hollow] else text.map .quoted

/-! ## Here-documents -/

def stripTabs (strips : Bool) (line : List Char) : List Char :=
  if strips then line.dropWhile (· = '\t') else line

/-- The lines of a here-document and what comes after it; the number bounds the lines. -/
def documentText (a : Announcement) : Nat → List Char → List Char × List Char
  | 0, rest => ([], rest)
  | _, [] => ([], [])
  | lines + 1, rest =>
    let line := stripTabs a.stripsTabs (rest.takeWhile (· ≠ '\n'))
    let rest := rest.dropWhile (· ≠ '\n')
    if line = a.delimiter then ([], rest.tail)
    else
      let (text, after) := documentText a lines rest.tail
      (line ++ (if rest.isEmpty then [] else ['\n']) ++ text, after)

/-- Whether the line that the script goes on with ends a here-document; then it is taken. Otherwise
its first tabs are taken if they do not count. -/
def takeDelimiter (a : Announcement) : Reading Bool := do
  let _ ← peek
  let s ← get
  let rest := stripTabs a.stripsTabs s.rest
  let line := rest.takeWhile (· ≠ '\n')
  if line = a.delimiter ∧ !rest.isEmpty then
    let after := rest.drop line.length
    set { s with rest := after.tail, line := if after.isEmpty then s.line else s.line + 1 }
    return true
  else
    set { s with rest }
    return false

/-! ## Redirections -/

/-- How a redirection goes on: with the path of a file, with a descriptor, or with the line that
ends a here-document. -/
inductive Arrow where
  | file (opening : Opening)
  | copy
  | document (stripsTabs : Bool)

/-- The arrow that the script starts with, the descriptor that it stands for, and what comes after
it. -/
def arrow? : List Char → Option (Arrow × Nat × List Char)
  | '<' :: '<' :: '-' :: rest => some (.document true, 0, rest)
  | '<' :: '<' :: rest => some (.document false, 0, rest)
  | '<' :: '&' :: rest => some (.copy, 0, rest)
  | '<' :: '>' :: rest => some (.file .both, 0, rest)
  | '<' :: rest => some (.file .input, 0, rest)
  | '>' :: '>' :: rest => some (.file .appending, 1, rest)
  | '>' :: '&' :: rest => some (.copy, 1, rest)
  | '>' :: '|' :: rest => some (.file .anyway, 1, rest)
  | '>' :: rest => some (.file .output, 1, rest)
  | c :: '<' :: rest => if c.isDigit then digit c (arrow? ('<' :: rest)) else none
  | c :: '>' :: rest => if c.isDigit then digit c (arrow? ('>' :: rest)) else none
  | _ => none
where
  digit (c : Char) (found : Option (Arrow × Nat × List Char)) : Option (Arrow × Nat × List Char) :=
    found.map fun (arrow, _, rest) => (arrow, c.toNat - '0'.toNat, rest)

/-- Drops the operator, the arrow or the line feed that the script goes on with. -/
def dropToken : Reading Unit :=
  modify fun s =>
    match s.rest, arrow? s.rest with
    | '\n' :: rest, _ => { s with rest, line := s.line + 1 }
    | _, some (_, _, rest) => { s with rest }
    | rest, none =>
      match operators.find? fun operator => operator.toList.isPrefixOf rest with
      | some operator => { s with rest := rest.drop operator.length }
      | none => s

/-- Notes a here-document to be read at the end of the line. -/
def announce (delimiter : Word) (stripsTabs : Bool) : Reading Nat := do
  let s ← get
  let verbatim := delimiter.any fun part =>
    match part with
    | .quoted _ | .hollow => true
    | _ => false
  let text := (literal? delimiter).getD []
  set { s with
    count := s.count + 1
    announced := ⟨s.count, text, stripsTabs, verbatim⟩ :: s.announced }
  return s.count

/-- The characters up to a double quote, in which nothing is expanded. -/
def doubleQuoted : Nat → List Char → Reading (List Char)
  | 0, _ => throw .unclosedQuotes
  | fuel + 1, text => do
    match ← peek with
    | none => throw .unclosedQuotes
    | some c =>
      advance
      match c with
      | '"' => return text.reverse
      | '\\' =>
        match ← take? with
        | none => throw .unclosedQuotes
        | some d => doubleQuoted fuel (if isQuotedSpecial d then d :: text else d :: '\\' :: text)
      | _ => doubleQuoted fuel (c :: text)

/-- The word that ends a here-document, in which nothing is expanded; the number bounds it. -/
def delimiterParts : Nat → Word → Reading Word
  | 0, parts => return parts.reverse
  | fuel + 1, parts => do
    match ← peek with
    | none => return parts.reverse
    | some c =>
      if endsWord c then return parts.reverse
      advance
      match c with
      | '\\' => delimiterParts fuel (.quoted ((← take?).getD '\\') :: parts)
      | '\'' => delimiterParts fuel ((quoteAll (← singleQuoted)).reverse ++ parts)
      | '"' =>
        let inner ← doubleQuoted (fuel + 1) []
        delimiterParts fuel ((quoteAll inner).reverse ++ parts)
      | '`' => delimiterParts fuel (.plain c :: .hollow :: parts)
      | _ => delimiterParts fuel (.plain c :: parts)

/-! ## Parameters -/

/-- The name of a parameter between braces: a variable, a number, or a sign. -/
def parameterName? : Reading (Option String) := do
  match ← peek with
  | none => return none
  | some c =>
    if isNameStart c then return some (String.ofList (← takeJoined isNameChar))
    else if c.isDigit then return some (String.ofList (← takeJoined Char.isDigit))
    else if "@*#?-$!".toList.contains c then
      advance
      return some (String.singleton c)
    else return none

/-- What follows the name of a parameter between braces. -/
inductive Suffix where
  | closed
  | word (use : Word → Use)
  | pattern (atEnd longest : Bool)
  | unknown

def wordUse? (nonEmpty : Bool) : Char → Option (Word → Use)
  | '-' => some (.orElse nonEmpty)
  | '=' => some (.assigned nonEmpty)
  | '?' => some (.demanded nonEmpty)
  | '+' => some (.replaced nonEmpty)
  | _ => none

/-- What follows the character with which a parameter between braces cannot go on. -/
def dropUnknown : List Char → List Char
  | '}' :: rest => '}' :: rest
  | ':' :: '}' :: rest => '}' :: rest
  | ':' :: _ :: rest => rest
  | _ :: rest => rest
  | [] => []

def suffix : Reading Suffix := do
  match (← get).rest with
  | '}' :: rest =>
    setRest rest
    return .closed
  | '%' :: '%' :: rest =>
    setRest rest
    return .pattern true true
  | '%' :: rest =>
    setRest rest
    return .pattern true false
  | '#' :: '#' :: rest =>
    setRest rest
    return .pattern false true
  | '#' :: rest =>
    setRest rest
    return .pattern false false
  | ':' :: c :: rest =>
    match wordUse? true c with
    | some use =>
      setRest rest
      return .word use
    | none => return .unknown
  | c :: rest =>
    match wordUse? false c with
    | some use =>
      setRest rest
      return .word use
    | none => return .unknown
  | [] => return .unknown

/-! ## The grammar -/

mutual

/-- The parts of a word, up to a character that ends it; those read so far are held backwards. -/
def wordParts : Nat → Word → Reading Word
  | 0, _ => throw .tooDeep
  | fuel + 1, parts => do
    match ← peek with
    | none => return parts.reverse
    | some c =>
      if endsWord c then
        return parts.reverse
      advance
      match c with
      | '\\' =>
        match ← take? with
        | none => wordParts fuel (.quoted '\\' :: parts)
        | some d => wordParts fuel (.quoted d :: parts)
      | '\'' =>
        let text ← singleQuoted
        wordParts fuel ((quoteAll text).reverse ++ parts)
      | '"' =>
        let inner ← quotedParts fuel []
        wordParts fuel ((if inner.isEmpty then [.hollow] else inner.reverse) ++ parts)
      | '$' =>
        let part ← dollar fuel false
        wordParts fuel (part :: parts)
      | '`' =>
        let part ← backquoted fuel false
        wordParts fuel (part :: parts)
      | _ => wordParts fuel (.plain c :: parts)

/-- The parts up to a double quote. -/
def quotedParts : Nat → Word → Reading Word
  | 0, _ => throw .tooDeep
  | fuel + 1, parts => do
    match ← peek with
    | none => throw .unclosedQuotes
    | some c =>
      advance
      match c with
      | '"' => return parts.reverse
      | '\\' =>
        match ← take? with
        | none => throw .unclosedQuotes
        | some d =>
          if isQuotedSpecial d then quotedParts fuel (.quoted d :: parts)
          else quotedParts fuel (.quoted d :: .quoted '\\' :: parts)
      | '$' =>
        let part ← dollar fuel true
        quotedParts fuel (part :: parts)
      | '`' =>
        let part ← backquoted fuel true
        quotedParts fuel (part :: parts)
      | _ => quotedParts fuel (.quoted c :: parts)

/-- The parts of a here-document from the start of a line to its end. -/
def documentLines : Nat → Announcement → Word → Reading Word
  | 0, _, _ => throw .tooDeep
  | fuel + 1, a, parts => do
    if ← takeDelimiter a then return parts.reverse
    documentParts fuel a parts

/-- The parts of a here-document, from within a line to its end. -/
def documentParts : Nat → Announcement → Word → Reading Word
  | 0, _, _ => throw .tooDeep
  | fuel + 1, a, parts => do
    match ← peek with
    | none => return parts.reverse
    | some c =>
      advance
      match c with
      | '\n' => documentLines fuel a (.quoted c :: parts)
      | '\\' =>
        match ← take? with
        | none => documentParts fuel a (.quoted '\\' :: parts)
        | some d =>
          if isQuotedSpecial d ∧ d ≠ '"' then documentParts fuel a (.quoted d :: parts)
          else documentParts fuel a (.quoted d :: .quoted '\\' :: parts)
      | '$' =>
        let part ← dollar fuel true
        documentParts fuel a (part :: parts)
      | '`' =>
        let part ← backquoted fuel true
        documentParts fuel a (part :: parts)
      | _ => documentParts fuel a (.quoted c :: parts)

/-- The part that a dollar sign starts. -/
def dollar : Nat → Bool → Reading Part
  | 0, _ => throw .tooDeep
  | fuel + 1, inQuotes => do
    let alone : Part := if inQuotes then .quoted '$' else .plain '$'
    match ← peek with
    | none => return alone
    | some '{' =>
      advance
      braced fuel inQuotes
    | some '(' =>
      advance
      match ← peek with
      | some '(' =>
        advance
        return .value inQuotes (← sumParts fuel 0 [])
      | _ =>
        let outer := (← get).document?
        modify fun s => { s with document? := none }
        let script ← commands fuel []
        expectChar ')'
        modify fun s => { s with document? := outer }
        return .output inQuotes script
    | some c =>
      if isNameStart c then
        return .parameter inQuotes (String.ofList (← takeJoined isNameChar)) .whole
      else if c.isDigit || "@*#?-$!".toList.contains c then
        advance
        return .parameter inQuotes (String.singleton c) .whole
      else
        return alone

/-- A parameter between braces. -/
def braced : Nat → Bool → Reading Part
  | 0, _ => throw .tooDeep
  | fuel + 1, inQuotes => do
    let unknown : Reading Part := do
      modify fun s => { s with rest := dropUnknown s.rest }
      let _ ← bracedParts fuel inQuotes (!inQuotes) []
      return .parameter inQuotes "" .unknown
    let use (name : String) : Reading Part := do
      match ← suffix with
      | .closed => return .parameter inQuotes name .whole
      | .word use =>
        return .parameter inQuotes name (use (← bracedParts fuel inQuotes (!inQuotes) []))
      | .pattern atEnd longest =>
        return .parameter inQuotes name (.trimmed atEnd longest (← bracedParts fuel false true []))
      | .unknown => unknown
    match (← get).rest with
    | '#' :: '}' :: rest =>
      setRest rest
      return .parameter inQuotes "#" .whole
    | '#' :: rest =>
      setRest rest
      let name? ← parameterName?
      match name?, (← get).rest with
      | some name, '}' :: after =>
        setRest after
        return .parameter inQuotes name .size
      | _, _ =>
        setRest rest
        use "#"
    | _ =>
      match ← parameterName? with
      | some name => use name
      | none => unknown

/-- The parts up to a closing brace; `singles` tells whether single quotes quote. -/
def bracedParts : Nat → Bool → Bool → Word → Reading Word
  | 0, _, _, _ => throw .tooDeep
  | fuel + 1, inQuotes, singles, parts => do
    let document? := (← get).document?
    let unclosed : SyntaxFault :=
      if inQuotes ∧ document?.isNone then .unclosedQuotes else .missing "\x7d"
    match ← peek with
    | none => throw unclosed
    | some c =>
      advance
      match c with
      | '}' => return parts.reverse
      | '\n' =>
        if let some a := document? then
          if ← takeDelimiter a then throw unclosed
        bracedParts fuel inQuotes singles ((if inQuotes then .quoted c else .plain c) :: parts)
      | '\\' =>
        match ← take? with
        | none => throw unclosed
        | some d =>
          if !inQuotes || isQuotedSpecial d || d == '}' then
            bracedParts fuel inQuotes singles (.quoted d :: parts)
          else bracedParts fuel inQuotes singles (.quoted d :: .quoted '\\' :: parts)
      | '"' =>
        let inner ← quotedParts fuel []
        bracedParts fuel inQuotes singles
          ((if inner.isEmpty then [.hollow] else inner.reverse) ++ parts)
      | '$' =>
        let part ← dollar fuel inQuotes
        bracedParts fuel inQuotes singles (part :: parts)
      | '`' =>
        let part ← backquoted fuel inQuotes
        bracedParts fuel inQuotes singles (part :: parts)
      | _ =>
        if c = '\'' ∧ singles then
          let text ← singleQuoted
          bracedParts fuel inQuotes singles ((quoteAll text).reverse ++ parts)
        else
          bracedParts fuel inQuotes singles ((if inQuotes then .quoted c else .plain c) :: parts)

/-- The parts of an arithmetic expression, up to two closing parentheses; `depth` counts the open
ones. -/
def sumParts : Nat → Nat → Word → Reading Word
  | 0, _, _ => throw .tooDeep
  | fuel + 1, depth, parts => do
    match ← peek with
    | none => throw (.missing "))")
    | some c =>
      advance
      match c with
      | '(' => sumParts fuel (depth + 1) (.quoted c :: parts)
      | ')' =>
        match depth with
        | depth + 1 => sumParts fuel depth (.quoted c :: parts)
        | 0 =>
          match ← peek with
          | some ')' =>
            advance
            return parts.reverse
          | _ => sumParts fuel 0 (.quoted c :: parts)
      | '\\' =>
        match ← take? with
        | none => throw (.missing "))")
        | some d =>
          if isQuotedSpecial d then sumParts fuel depth (.quoted d :: parts)
          else sumParts fuel depth (.quoted d :: .quoted '\\' :: parts)
      | '$' =>
        let part ← dollar fuel true
        sumParts fuel depth (part :: parts)
      | '`' =>
        let part ← backquoted fuel true
        sumParts fuel depth (part :: parts)
      | _ => sumParts fuel depth (.quoted c :: parts)

/-- A script between backquotes. -/
def backquoted : Nat → Bool → Reading Part
  | 0, _ => throw .tooDeep
  | fuel + 1, inQuotes => do
    let s ← get
    match backquotedText inQuotes s.rest with
    | none =>
      set { s with line := s.line + s.rest.count '\n' }
      throw .unclosedBackquotes
    | some (text, rest) =>
      set { s with rest := text, line := 1, document? := none, rewriting := {}, announced := [] }
      let script ← commands fuel []
      modify fun inner =>
        { inner with
          rest
          line := s.line + text.count '\n'
          document? := s.document?
          rewriting := s.rewriting
          announced := s.announced }
      return .output inQuotes script

/-- Takes a line feed and the here-documents after it. -/
def endLine : Nat → Reading Unit
  | 0 => throw .tooDeep
  | fuel + 1 => do
    let s ← get
    set { s with rest := s.rest.tail, line := s.line + 1, plainAt? := none, announced := [] }
    documents fuel s.announced.reverse

/-- Reads here-documents. -/
def documents : Nat → List Announcement → Reading Unit
  | 0, _ => throw .tooDeep
  | _, [] => return
  | fuel + 1, a :: announced => do
    let s ← get
    let word : Word ←
      if a.verbatim then
        let (text, rest) := documentText a s.bound s.rest
        let lines := text.count '\n' + (if rest.isEmpty then 0 else 1)
        set { s with rest, line := s.line + lines }
        pure (text.map .quoted)
      else
        set { s with document? := some a }
        documentLines fuel a []
    modify fun now =>
      { now with document? := s.document?, documents := (a.number, word) :: now.documents }
    documents fuel announced

/-- Passes blanks, comments and line feeds. -/
def lineFeeds : Nat → Reading Unit
  | 0 => throw .tooDeep
  | fuel + 1 => do
    blanks
    match (← get).rest with
    | '\n' :: _ =>
      endLine fuel
      lineFeeds fuel
    | _ => return

/-- Commands over several lines, up to something that starts no command; those read so far are held
backwards. -/
def commands : Nat → List Command → Reading (List Command)
  | 0, _ => throw .tooDeep
  | fuel + 1, before => do
    lineFeeds fuel
    let s ← get
    let ends :=
      match s.rest with
      | [] => true
      | ')' :: _ => true
      | ';' :: ';' :: _ => true
      | _ => (s.reserved?.map closingWords.contains).getD false
    if ends then
      return before.reverse
    let c ← andOr fuel
    blanks
    match (← get).rest with
    | ';' :: ';' :: _ => return (c :: before).reverse
    | ';' :: rest =>
      setRest rest
      commands fuel (c :: before)
    | '&' :: rest =>
      setRest rest
      commands fuel (.background c :: before)
    | '\n' :: _ => commands fuel (c :: before)
    | _ => return (c :: before).reverse

/-- Commands where there has to be one at least; if the script ends, it is what comes after them
that is missing. -/
def someCommands : Nat → Reading (List Command)
  | 0 => throw .tooDeep
  | fuel + 1 => do
    let found ← commands fuel []
    if found.isEmpty && !(← get).rest.isEmpty then refuse
    return found

/-- Pipelines joined by `&&` and `||`. -/
def andOr : Nat → Reading Command
  | 0 => throw .tooDeep
  | fuel + 1 => do
    let first ← pipeline fuel
    andOrRest fuel first

def andOrRest : Nat → Command → Reading Command
  | 0, _ => throw .tooDeep
  | fuel + 1, first => do
    blanks
    match (← get).rest with
    | '&' :: '&' :: rest =>
      setRest rest
      lineFeeds fuel
      let second ← pipeline fuel
      andOrRest fuel (.both first second)
    | '|' :: '|' :: rest =>
      setRest rest
      lineFeeds fuel
      let second ← pipeline fuel
      andOrRest fuel (.either first second)
    | _ => return first

def pipeline : Nat → Reading Command
  | 0 => throw .tooDeep
  | fuel + 1 => do
    blanks
    let isNegated := (← get).reserved? = some "!"
    if isNegated then
      dropWord
    blanks
    let first ← command fuel (← get).line
    let stages ← pipelineRest fuel [first]
    let whole : Command :=
      match stages with
      | [stage] => stage
      | _ => .pipeline stages
    return if isNegated then .negated whole else whole

def pipelineRest : Nat → List Command → Reading (List Command)
  | 0, _ => throw .tooDeep
  | fuel + 1, stages => do
    blanks
    match (← get).rest with
    | '|' :: '|' :: _ => return stages.reverse
    | '|' :: rest =>
      setRest rest
      let line := (← get).line
      lineFeeds fuel
      let stage ← command fuel line
      pipelineRest fuel (stage :: stages)
    | _ => return stages.reverse

/-- A command with the redirections after it. A compound command counts as one of the given line. -/
def command : Nat → Nat → Reading Command
  | 0, _ => throw .tooDeep
  | fuel + 1, line => do
    rewriteAll (← get).rewrites
    let s ← get
    match s.rest with
    | '(' :: after =>
      setRest after
      let body ← someCommands fuel
      expectChar ')'
      withRedirections fuel line (.subshell line body)
    | _ =>
      match s.reserved? with
      | none => simple fuel none [] [] []
      | some word =>
        if closingWords.contains word || word == "in" || word == "!" then refuse
        dropWord
        let body ← compound fuel line word
        withRedirections fuel line body

def withRedirections : Nat → Nat → Command → Reading Command
  | 0, _, _ => throw .tooDeep
  | fuel + 1, line, body => do
    let redirections ← redirectionList fuel []
    if redirections.isEmpty then return body
    blanks
    modify fun s => { s with plainAt? := some s.rest.length }
    return .redirected line body redirections

def redirectionList : Nat → List Redirection → Reading (List Redirection)
  | 0, _ => throw .tooDeep
  | fuel + 1, before => do
    blanks
    match arrow? (← get).rest with
    | none => return before.reverse
    | some (arrow, descriptor, rest) =>
      setRest rest
      let r ← redirection fuel arrow descriptor
      redirectionList fuel (r :: before)

/-- What comes after an arrow. -/
def redirection : Nat → Arrow → Nat → Reading Redirection
  | 0, _, _ => throw .tooDeep
  | fuel + 1, arrow, descriptor => do
    blanks
    if (arrow? (← get).rest).isSome then refuse
    let word ←
      match arrow with
      | .document _ => delimiterParts (← get).rest.length []
      | _ => wordParts fuel []
    if word.isEmpty then refuse
    match arrow with
    | .file opening => return .file descriptor opening word
    | .copy => return .copy descriptor word
    | .document stripsTabs => return .document descriptor (← announce word stripsTabs)

/-- A command of words, or the definition of a function; what has been read of it so far is held
backwards, with the line where its first word or redirection ends. -/
def simple : Nat → Option Nat → List (String × Word) → List Word → List Redirection →
    Reading Command
  | 0, _, _, _, _ => throw .tooDeep
  | fuel + 1, line?, assignments, words, redirections => do
    blanks
    let s ← get
    if words.isEmpty ∨ s.isNext then
      rewriteAll s.rewrites
    let rest := (← get).rest
    match arrow? rest with
    | some (arrow, descriptor, after) =>
      setRest after
      let line := line?.getD (← get).line
      let r ← redirection fuel arrow descriptor
      simple fuel (some line) assignments words (r :: redirections)
    | none =>
      if ((rest.head?).map endsWord).getD true then
        match words, rest with
        | [name], '(' :: after =>
          if !assignments.isEmpty || !redirections.isEmpty then
            return .simple (line?.getD s.line) assignments.reverse words.reverse
              redirections.reverse
          setRest after
          expectChar ')' false
          match literal? name with
          | some text =>
            if !isName text || specialBuiltins.contains (String.ofList text) then
              throw .badFunctionName
            let line := (← get).line
            lineFeeds fuel
            let body ← command fuel line
            return .definition (String.ofList text) body
          | none => throw .badFunctionName
        | _, _ =>
          if assignments.isEmpty && words.isEmpty && redirections.isEmpty then refuse
          return .simple (line?.getD s.line) assignments.reverse words.reverse redirections.reverse
      else
        let word ← wordParts fuel []
        let line? := some (line?.getD (← get).line)
        match words, assignment? word with
        | [], some assignment => simple fuel line? (assignment :: assignments) words redirections
        | _, _ => simple fuel line? assignments (word :: words) redirections

/-- The rest of a compound command of the given line after its reserved word. -/
def compound : Nat → Nat → String → Reading Command
  | 0, _, _ => throw .tooDeep
  | fuel + 1, line, word => do
    match word with
    | "if" => choice fuel
    | "while" => loop fuel false
    | "until" => loop fuel true
    | "for" =>
      blanks
      let word ← wordParts fuel []
      let name := word.filterMap fun
        | .plain c => some c
        | _ => none
      if !isName name || name.length != word.length then faultHere .badLoopVariable
      lineFeeds fuel
      let words? ←
        if (← get).reserved? = some "in" then
          dropWord
          let words ← wordList fuel []
          blanks
          match (← get).rest with
          | ';' :: ';' :: _ => refuse
          | ';' :: rest => setRest rest
          | '\n' :: _ => pure ()
          | _ => refuse
          pure (some words)
        else
          match (← get).rest with
          | ';' :: ';' :: _ => pure ()
          | ';' :: rest => setRest rest
          | _ => pure ()
          pure none
      lineFeeds fuel
      expectWord "do"
      let body ← someCommands fuel
      expectWord "done"
      return .each line (String.ofList name) words? body
    | "case" =>
      blanks
      let isArrow := (arrow? (← get).rest).isSome
      let subject ← if isArrow then pure [] else wordParts fuel []
      if subject.isEmpty then refuse (some "word")
      lineFeeds fuel
      expectWord "in"
      let branches ← branches fuel []
      return .cases line subject branches
    | "\x7b" =>
      let body ← someCommands fuel
      expectWord "\x7d"
      return .block body
    | _ => refuse

/-- A condition and what depends on it. -/
def choice : Nat → Reading Command
  | 0 => throw .tooDeep
  | fuel + 1 => do
    let condition ← someCommands fuel
    expectWord "then"
    let body ← someCommands fuel
    blanks
    match (← get).reserved? with
    | some "elif" =>
      dropWord
      let alternative ← choice fuel
      return .choice condition body [alternative]
    | some "else" =>
      dropWord
      let alternative ← someCommands fuel
      expectWord "fi"
      return .choice condition body alternative
    | _ =>
      expectWord "fi"
      return .choice condition body []

def loop : Nat → Bool → Reading Command
  | 0, _ => throw .tooDeep
  | fuel + 1, untilTrue => do
    let condition ← someCommands fuel
    expectWord "do"
    let body ← someCommands fuel
    expectWord "done"
    return .loop untilTrue condition body

def wordList : Nat → List Word → Reading (List Word)
  | 0, _ => throw .tooDeep
  | fuel + 1, words => do
    blanks
    if (((← get).rest.head?).map endsWord).getD true then return words.reverse
    let word ← wordParts fuel []
    wordList fuel (word :: words)

/-- The branches of a case distinction, up to its end. -/
def branches : Nat → List (List Word × List Command) → Reading (List (List Word × List Command))
  | 0, _ => throw .tooDeep
  | fuel + 1, before => do
    lineFeeds fuel
    if (← get).reserved? = some "esac" then
      dropWord
      return before.reverse
    match (← get).rest with
    | '(' :: rest => setRest rest
    | _ => pure ()
    let patterns ← patterns fuel []
    let body ← commands fuel []
    blanks
    match (← get).rest with
    | ';' :: ';' :: rest =>
      setRest rest
      branches fuel ((patterns, body) :: before)
    | _ =>
      if (← get).reserved? ≠ some "esac" then refuse (some (quoteToken ";;"))
      dropWord
      return ((patterns, body) :: before).reverse

def patterns : Nat → List Word → Reading (List Word)
  | 0, _ => throw .tooDeep
  | fuel + 1, before => do
    blanks
    let isArrow := (arrow? (← get).rest).isSome
    let word ← if isArrow then pure [] else wordParts fuel []
    if word.isEmpty then dropToken
    let word := if word.isEmpty then [.hollow] else word
    blanks
    match (← get).rest with
    | '|' :: '|' :: _ => refuse (some (quoteToken ")"))
    | '|' :: rest =>
      setRest rest
      patterns fuel (word :: before)
    | ')' :: rest =>
      setRest rest
      return (word :: before).reverse
    | _ => refuse (some (quoteToken ")")) false

end

/-! ## Lines -/

/-- The commands of a line; the number bounds them. -/
def lineCommands (fuel : Nat) : Nat → List Command → Reading (List Command)
  | 0, _ => throw .tooDeep
  | left + 1, before => do
    let c ← andOr fuel
    blanks
    let (c, more) ←
      match (← get).rest with
      | ';' :: ';' :: _ => refuse
      | ';' :: rest =>
        setRest rest
        pure (c, true)
      | '&' :: rest =>
        setRest rest
        pure (.background c, true)
      | '\n' :: _ => pure (c, true)
      | [] => pure (c, false)
      | _ => refuse
    blanks
    match (← get).rest with
    | [] => return (c :: before).reverse
    | '\n' :: _ =>
      endLine fuel
      return (c :: before).reverse
    | _ => if more then lineCommands fuel left (c :: before) else return (c :: before).reverse

/-- How deeply the reader may nest in a script. -/
def Source.fuel (s : Source) : Nat :=
  32 * (s.bound + 32) * (1 + s.aliases.foldl (fun size entry => size + entry.2.length) 0)

/-- Reads the word that has been refused, and refuses it then: a fault in the word counts before
that. -/
def afterRefusal (fault : SyntaxFault) : Reading Unit := do
  match fault with
  | .unexpected "word" _ =>
    let _ ← wordParts (← get).fuel []
  | _ => return

/-- Reads a line of commands, which goes on over several lines inside of a compound command; none at
the end of the script. -/
def readLine : Reading (Option (List Command)) := do
  blanks
  let s ← get
  match s.rest with
  | [] => return none
  | '\n' :: _ =>
    endLine s.fuel
    return some []
  | _ =>
    match (lineCommands s.fuel s.bound []).run s with
    | .ok line after =>
      set after
      return some line
    | .error fault at_ =>
      set at_
      afterRefusal fault
      throw fault

end Shell
end TemplateVariants
