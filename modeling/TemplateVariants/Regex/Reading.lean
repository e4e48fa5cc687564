import TemplateVariants.Regex.Basic
import TemplateVariants.Shell.Pattern

/-!
# Reading regular expressions

There are two ways of writing regular expressions, which differ in the characters that are special.
In the basic way a parenthesis, a brace, a bar, a plus and a question mark are special after a
backslash, in the extended way without one. A star is no operator where there is nothing to repeat.
-/

namespace TemplateVariants
namespace Regex

/-- Why a regular expression cannot be read. -/
inductive ReadFault where
  | openGroup
  | closedGroup
  | openBracket
  | openBrace
  | badBrace
  | badRange
  | badClass
  | trailingBackslash
  | badReference
  | nothingRepeated
  | tooBig
deriving DecidableEq, Repr

def ReadFault.message : ReadFault → String
  | .openGroup => "Unmatched ( or \\("
  | .closedGroup => "Unmatched ) or \\)"
  | .openBracket => "Unmatched [, [^, [:, [., or [="
  | .openBrace => "Unmatched \\\x7b"
  | .badBrace => "Invalid content of \\\x7b\\\x7d"
  | .badRange => "Invalid range end"
  | .badClass => "Invalid character class name"
  | .trailingBackslash => "Trailing backslash"
  | .badReference => "Invalid back reference"
  | .nothingRepeated => "Invalid preceding regular expression"
  | .tooBig => "Regular expression too big"

/-- What is left of an expression, how many groups have been opened, and which have been closed. -/
structure Source where
  rest : List Char
  isExtended : Bool
  groups : Nat := 0
  closed : List Nat := []

abbrev Reading := EStateM ReadFault Source

/-! ## Tokens -/

/-- What an expression goes on with. -/
inductive Token where
  | plain (c : Char)
  | dot
  | bracket
  | star
  | plus
  | optional
  | openBrace
  | openGroup
  | closeGroup
  | bar
  | caret
  | dollar
  | boundary (b : Boundary)
  | set (isNegated : Bool) (ranges : List (Char × Char))
  | reference (number : Nat)
  | dangling
deriving DecidableEq, Repr

def wordRanges : List (Char × Char) :=
  [('a', 'z'), ('A', 'Z'), ('0', '9'), ('_', '_')]

def spaceRanges : List (Char × Char) :=
  [(' ', ' '), ('\t', '\r')]

/-- The token that a character after a backslash makes. -/
def escapedToken (isExtended : Bool) (c : Char) : Token :=
  match c with
  | '(' => if isExtended then .plain c else .openGroup
  | ')' => if isExtended then .plain c else .closeGroup
  | '{' => if isExtended then .plain c else .openBrace
  | '|' => if isExtended then .plain c else .bar
  | '+' => if isExtended then .plain c else .plus
  | '?' => if isExtended then .plain c else .optional
  | 'w' => .set false wordRanges
  | 'W' => .set true wordRanges
  | 's' => .set false spaceRanges
  | 'S' => .set true spaceRanges
  | 'b' => .boundary .wordEdge
  | 'B' => .boundary .noWordEdge
  | '<' => .boundary .wordStart
  | '>' => .boundary .wordStop
  | '`' => .boundary .textStart
  | '\'' => .boundary .textStop
  | _ => if '1' ≤ c ∧ c ≤ '9' then .reference (c.toNat - '0'.toNat) else .plain c

/-- The token that a character makes. -/
def bareToken (isExtended : Bool) (c : Char) : Token :=
  match c with
  | '.' => .dot
  | '[' => .bracket
  | '*' => .star
  | '^' => .caret
  | '$' => .dollar
  | '(' => if isExtended then .openGroup else .plain c
  | ')' => if isExtended then .closeGroup else .plain c
  | '{' => if isExtended then .openBrace else .plain c
  | '|' => if isExtended then .bar else .plain c
  | '+' => if isExtended then .plus else .plain c
  | '?' => if isExtended then .optional else .plain c
  | _ => .plain c

/-- The token that a text starts with, and the rest. -/
def token? (isExtended : Bool) : List Char → Option (Token × List Char)
  | [] => none
  | ['\\'] => some (.dangling, [])
  | '\\' :: c :: rest => some (escapedToken isExtended c, rest)
  | c :: rest => some (bareToken isExtended c, rest)

def peek : Reading (Option (Token × List Char)) := do
  let s ← get
  return token? s.isExtended s.rest

def setRest (rest : List Char) : Reading Unit :=
  modify fun s => { s with rest }

/-! ## Brackets -/

/-- The ranges of the characters that pass a test. -/
def rangesOf (test : Char → Bool) : List (Char × Char) :=
  (((List.range 256).map Char.ofNat).filter test).map fun c => (c, c)

/-- One end of a range: a character, which may stand between marks. -/
def rangeEnd : List Char → Option (Char × List Char)
  | '[' :: '.' :: c :: '.' :: ']' :: rest => some (c, rest)
  | '[' :: '=' :: c :: '=' :: ']' :: rest => some (c, rest)
  | c :: rest => some (c, rest)
  | [] => none

/-- The members of a bracket up to its end; the number bounds them, and `isFirst` tells whether a
closing bracket is a member. -/
def members : Nat → Bool → List Char → Except ReadFault (List (Char × Char) × List Char)
  | 0, _, _ => .error .openBracket
  | _, _, [] => .error .openBracket
  | fuel + 1, isFirst, text =>
    match text with
    | '[' :: ':' :: rest =>
      let name := rest.takeWhile (· ≠ ':')
      match rest.drop name.length with
      | ':' :: ']' :: after =>
        match Shell.namedClass? (String.ofList name) with
        | some test => do
          let (others, rest) ← members fuel false after
          return (rangesOf test ++ others, rest)
        | none => .error .badClass
      | _ => .error .openBracket
    | ']' :: rest =>
      if isFirst then single fuel ']' rest else .ok ([], rest)
    | _ =>
      match rangeEnd text with
      | some (c, rest) => single fuel c rest
      | none => .error .openBracket
where
  /-- A member that starts with a character: the character, or a range. -/
  single (fuel : Nat) (c : Char) (rest : List Char) :
      Except ReadFault (List (Char × Char) × List Char) := do
    match rest with
    | '-' :: ']' :: after =>
      let (others, rest) ← members fuel false ('-' :: ']' :: after)
      return ((c, c) :: others, rest)
    | '-' :: after =>
      match rangeEnd after with
      | none => throw .openBracket
      | some (d, after) =>
        if d < c then throw .badRange
        let (others, rest) ← members fuel false after
        return ((c, d) :: others, rest)
    | _ =>
      let (others, rest) ← members fuel false rest
      return ((c, c) :: others, rest)

def bracket : Reading Node := do
  let s ← get
  let (isNegated, inside) :=
    match s.rest with
    | '^' :: rest => (true, rest)
    | rest => (false, rest)
  match members (inside.length + 1) true inside with
  | .ok (ranges, rest) =>
    setRest rest
    return .set isNegated ranges
  | .error fault => throw fault

/-! ## Counts -/

/-- Whether a text starts with counts and a closing brace. -/
def isInterval (text : List Char) : Bool :=
  let rest := text.dropWhile fun c => c.isDigit || c == ','
  rest.length < text.length && rest.head? == some '}'

/-- The counts between braces, and the text after them. -/
def counts? (isExtended : Bool) (text : List Char) :
    Except ReadFault (Nat × Option Nat × List Char) :=
  let number (digits : List Char) : Nat :=
    digits.foldl (fun n c => 10 * n + (c.toNat - '0'.toNat)) 0
  let first := text.takeWhile Char.isDigit
  let rest := text.drop first.length
  let close (least : Nat) (most? : Option Nat) (rest : List Char) :
      Except ReadFault (Nat × Option Nat × List Char) :=
    let after? : Option (List Char) :=
      match isExtended, rest with
      | true, '}' :: rest => some rest
      | false, '\\' :: '}' :: rest => some rest
      | _, _ => none
    match after? with
    | none => .error (if rest.isEmpty then .openBrace else .badBrace)
    | some rest =>
      if 32767 < max least (most?.getD 0) then .error .tooBig
      else if (most?.map fun most => decide (most < least)).getD false then .error .badBrace
      else .ok (least, most?, rest)
  match rest with
  | ',' :: rest =>
    let second := rest.takeWhile Char.isDigit
    close (number first) (if second.isEmpty then none else some (number second))
      (rest.drop second.length)
  | _ =>
    if first.isEmpty then .error (if rest.isEmpty then .openBrace else .badBrace)
    else close (number first) (some (number first)) rest

/-! ## Expressions -/

mutual

/-- Alternatives up to the end of a group or of the whole. -/
def alternatives : Nat → Reading Node
  | 0 => throw .tooBig
  | fuel + 1 => do
    let first ← sequence fuel true .empty
    match ← peek with
    | some (.bar, rest) =>
      setRest rest
      let others ← alternatives fuel
      return .either first others
    | _ => return first

/-- Parts one after the other; `isFirst` tells whether the next part is the first. -/
def sequence : Nat → Bool → Node → Reading Node
  | 0, _, _ => throw .tooBig
  | fuel + 1, isFirst, before => do
    let s ← get
    match token? s.isExtended s.rest with
    | none => return before
    | some (.bar, _) => return before
    | some (.closeGroup, rest) =>
      if s.groups = s.closed.length then
        if s.isExtended then
          setRest rest
          let part ← repetitions fuel (.char ')')
          sequence fuel false (joined before part)
        else throw .closedGroup
      else return before
    | some (found, rest) =>
      setRest rest
      match ← atom fuel isFirst found with
      | none => sequence fuel isFirst before
      | some (.boundary b) => sequence fuel false (joined before (.boundary b))
      | some part =>
        let part ← repetitions fuel part
        sequence fuel false (joined before part)
where
  joined (before part : Node) : Node :=
    match before with
    | .empty => part
    | _ => .both before part

/-- The part that a token makes; none if the token is passed over. -/
def atom : Nat → Bool → Token → Reading (Option Node)
  | 0, _, _ => throw .tooBig
  | fuel + 1, isFirst, found => do
    let s ← get
    match found with
    | .plain c => return some (.char c)
    | .dot => return some .any
    | .bracket => return some (← bracket)
    | .set isNegated ranges => return some (.set isNegated ranges)
    | .boundary b => return some (.boundary b)
    | .reference number =>
      if s.closed.contains number then return some (.same number) else throw .badReference
    | .dangling => throw .trailingBackslash
    | .caret =>
      if isFirst || s.isExtended then return some (.boundary .lineStart)
      else return some (.char '^')
    | .dollar =>
      let isLast :=
        match token? s.isExtended s.rest with
        | none => true
        | some (.bar, _) => true
        | some (.closeGroup, _) => true
        | _ => false
      if isLast || s.isExtended then return some (.boundary .lineStop) else return some (.char '$')
    | .openGroup =>
      let number := s.groups + 1
      set { s with groups := number }
      let body ← alternatives fuel
      match ← peek with
      | some (.closeGroup, rest) =>
        modify fun s => { s with rest, closed := number :: s.closed }
        return some (.group number body)
      | _ => throw .openGroup
    | .star => if s.isExtended then return none else return some (.char '*')
    | .plus => if s.isExtended then return none else return some (.char '+')
    | .optional => if s.isExtended then return none else return some (.char '?')
    | .openBrace => if s.isExtended then return some (.char '{') else throw .nothingRepeated
    | .bar | .closeGroup => return none

/-- A part with the operators after it that repeat it. -/
def repetitions : Nat → Node → Reading Node
  | 0, _ => throw .tooBig
  | fuel + 1, part => do
    let s ← get
    match token? s.isExtended s.rest with
    | some (.star, rest) => again fuel part rest 0 none
    | some (.plus, rest) => again fuel part rest 1 none
    | some (.optional, rest) => again fuel part rest 0 (some 1)
    | some (.openBrace, rest) =>
      match counts? s.isExtended rest with
      | .ok (least, most?, rest) => again fuel part rest least most?
      | .error fault =>
        if s.isExtended ∧ fault ≠ .tooBig ∧ !isInterval rest then
          setRest rest
          return .both part (← repetitions fuel (.char '{'))
        else throw fault
    | _ => return part

/-- A part that is repeated, with the operators after it. -/
def again : Nat → Node → List Char → Nat → Option Nat → Reading Node
  | 0, _, _, _, _ => throw .tooBig
  | fuel + 1, part, rest, least, most? => do
    setRest rest
    repetitions fuel (.repeated part least most?)

end

/-- A regular expression as it has been read, and how many groups it has. -/
structure Pattern where
  node : Node
  groups : Nat

/-- Reads a regular expression. -/
def read (isExtended : Bool) (text : List Char) : Except ReadFault Pattern :=
  match (alternatives (4 * text.length + 8)).run { rest := text, isExtended } with
  | .ok node s => if s.rest.isEmpty then .ok ⟨node, s.groups⟩ else .error .closedGroup
  | .error fault _ => .error fault

end Regex
end TemplateVariants
