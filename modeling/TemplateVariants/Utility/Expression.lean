import TemplateVariants.Regex.Reading
import TemplateVariants.Utility.Options

/-!
# Expressions of arguments

`expr` evaluates an expression each of whose parts is an argument, and writes its value. A value is
a text, which counts as a number where it spells one.
-/

namespace TemplateVariants
namespace Expression

/-- Why an expression has no value. -/
inductive Fault where
  | missingAfter (word : Octets)
  | unexpected (word : Octets)
  | unexpectedClosing
  | unclosedAfter (word : Octets)
  | unclosedBefore (word : Octets)
  | notANumber
  | divisionByZero
  | pattern (fault : Regex.ReadFault)

def Fault.message : Fault → Octets
  | .missingAfter word =>
    Text.octets "syntax error: missing argument after " ++ OptionTable.quote word
  | .unexpected word => Text.octets "syntax error: unexpected argument " ++ OptionTable.quote word
  | .unexpectedClosing => Text.octets "syntax error: unexpected ')'"
  | .unclosedAfter word =>
    Text.octets "syntax error: expecting ')' after " ++ OptionTable.quote word
  | .unclosedBefore word =>
    Text.octets "syntax error: expecting ')' instead of " ++ OptionTable.quote word
  | .notANumber => Text.octets "non-integer argument"
  | .divisionByZero => Text.octets "division by zero"
  | .pattern fault => Text.octets fault.message

/-- The arguments that are left, and the last one before them. -/
structure Source where
  rest : List Octets
  last : Octets := []

abbrev Reading := EStateM Fault Source

/-! ## Values -/

/-- The number that a text spells. -/
def number? (text : Octets) : Option Int :=
  let (isNegative, digits) :=
    match text with
    | '-' :: rest => (true, rest)
    | rest => (false, rest)
  if digits.isEmpty || !digits.all Char.isDigit then none
  else
    let n : Nat := digits.foldl (fun n c => 10 * n + (c.toNat - '0'.toNat)) 0
    some (if isNegative then -(n : Int) else n)

def ofNumber (n : Int) : Octets :=
  if n < 0 then '-' :: Nat.toDigits 10 n.natAbs else Nat.toDigits 10 n.natAbs

def ofTruth (holds : Bool) : Octets :=
  if holds then ['1'] else ['0']

/-- Whether a value counts as nothing: an empty text or a zero. -/
def isNull (text : Octets) : Bool :=
  let digits := if text.head? = some '-' then text.tail else text
  text.isEmpty || (!digits.isEmpty && digits.all (· == '0'))

def number (text : Octets) : Reading Int :=
  match number? text with
  | some n => return n
  | none => throw .notANumber

/-- What a text has that a pattern matches from its start on: the text of the first group, or the
length of the match. -/
def matched (text pattern : Octets) : Reading Octets :=
  match Regex.read false pattern with
  | .error fault => throw (.pattern fault)
  | .ok p =>
    let s : Regex.Subject := { text := text.toArray }
    let found? := Regex.matchAt p.node s 0
    if p.groups = 0 then return ofNumber ((found?.map (·.position)).getD 0)
    else
      match found?.bind (·.group? 1) with
      | some (start, stop) => return s.slice start stop
      | none => return []

/-- The part of a text from a position on, with a length. -/
def substring (text start length : Octets) : Octets :=
  match number? start, number? length with
  | some start, some length =>
    if start ≤ 0 ∨ length ≤ 0 then [] else (text.drop (start.toNat - 1)).take length.toNat
  | _, _ => []

/-- The first position of a character of a list in a text. -/
def indexOf (text chars : Octets) : Octets :=
  match text.findIdx? chars.contains with
  | some n => ofNumber (n + 1)
  | none => ['0']

def compared (operator left right : Octets) : Octets :=
  let (isLess, isSame) :=
    match number? left, number? right with
    | some a, some b => (decide (a < b), a == b)
    | _, _ => (decide (left < right), left == right)
  ofTruth
    (match String.ofList operator with
    | "<" => isLess
    | "<=" => isLess || isSame
    | "=" | "==" => isSame
    | "!=" => !isSame
    | ">=" => !isLess
    | _ => !isLess && !isSame)

/-! ## Expressions -/

/-- The operators of each level, the loosest first. -/
def levels : List (List String) :=
  [["|"], ["&"], ["<", "<=", "=", "==", "!=", ">=", ">"], ["+", "-"], ["*", "/", "%"], [":"]]

/-- The value of two operands. -/
def combine (operator left right : Octets) : Reading Octets := do
  match String.ofList operator with
  | "|" => return if !isNull left then left else if !isNull right then right else ['0']
  | "&" => return if isNull left ∨ isNull right then ['0'] else left
  | "+" => return ofNumber ((← number left) + (← number right))
  | "-" => return ofNumber ((← number left) - (← number right))
  | "*" => return ofNumber ((← number left) * (← number right))
  | "/" =>
    let (a, b) := (← number left, ← number right)
    if b = 0 then throw .divisionByZero
    return ofNumber (Int.tdiv a b)
  | "%" =>
    let (a, b) := (← number left, ← number right)
    if b = 0 then throw .divisionByZero
    return ofNumber (Int.tmod a b)
  | ":" => matched left right
  | _ => return compared operator left right

/-- Takes the next argument, which has to be there. -/
def take : Reading Octets := do
  let s ← get
  match s.rest with
  | [] => throw (.missingAfter s.last)
  | word :: rest =>
    set ({ rest, last := word } : Source)
    return word

mutual

/-- The value of an expression of some levels; `isLive` tells whether it is wanted. -/
def value : Nat → List (List String) → Bool → Reading Octets
  | 0, _, _ => throw .notANumber
  | fuel + 1, [], isLive => primary fuel isLive
  | fuel + 1, operators :: tighter, isLive => do
    let first ← value fuel tighter isLive
    chain fuel operators tighter isLive first

/-- The value of operands of one level after the first. -/
def chain : Nat → List String → List (List String) → Bool → Octets → Reading Octets
  | 0, _, _, _, _ => throw .notANumber
  | fuel + 1, operators, tighter, isLive, left => do
    match (← get).rest with
    | [] => return left
    | word :: _ =>
      if operators.contains (String.ofList word) then
        let _ ← take
        let isDecided := (word = ['|'] ∧ !isNull left) ∨ (word = ['&'] ∧ isNull left)
        let right ← value fuel tighter (isLive && !isDecided)
        let left ← if isLive then combine word left right else pure left
        chain fuel operators tighter isLive left
      else return left

/-- A value in parentheses, that of a function, or an argument. -/
def primary : Nat → Bool → Reading Octets
  | 0, _ => throw .notANumber
  | fuel + 1, isLive => do
    let word ← take
    match String.ofList word with
    | "(" =>
      let inner ← value fuel levels isLive
      let s ← get
      match s.rest with
      | [] => throw (.unclosedAfter s.last)
      | [')'] :: _ =>
        let _ ← take
        return inner
      | other :: _ => throw (.unclosedBefore other)
    | ")" => throw .unexpectedClosing
    | "+" => take
    | "length" => return ofNumber (← primary fuel isLive).length
    | "match" =>
      let text ← primary fuel isLive
      let pattern ← primary fuel isLive
      if isLive then matched text pattern else return []
    | "index" =>
      let text ← primary fuel isLive
      let chars ← primary fuel isLive
      return indexOf text chars
    | "substr" =>
      let text ← primary fuel isLive
      let start ← primary fuel isLive
      let length ← primary fuel isLive
      return substring text start length
    | _ => return word

end

/-- The value of a whole expression. -/
def evaluate (words : List Octets) : Except Fault Octets :=
  match (value (16 * words.length + 64) levels true).run { rest := words } with
  | .error fault _ => .error fault
  | .ok result s =>
    match s.rest with
    | [] => .ok result
    | [')'] :: _ => .error .unexpectedClosing
    | word :: _ => .error (.unexpected word)

end Expression

def expr : Utility := fun call =>
  let words :=
    match call.arguments with
    | ['-', '-'] :: words => words
    | words => words
  if words.isEmpty then call.refuseUsage (Text.octets "missing operand") 2
  else
    match Expression.evaluate words with
    | .error fault => call.refuse fault.message 2
    | .ok result =>
      { call.done (if Expression.isNull result then 1 else 0) with output := result ++ ['\n'] }

end TemplateVariants
