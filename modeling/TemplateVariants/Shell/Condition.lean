import TemplateVariants.Shell.Arithmetic
import TemplateVariants.Storage.FileTree
import TemplateVariants.Text.Octets
import TemplateVariants.Text.Utf8

/-!
# Conditions

What `test` and `[` say about texts, numbers and files. A word is an operator only where an operator
can stand: with one argument every word is a text, and with two a first word that goes with the
second is an operator.
-/

namespace TemplateVariants
namespace Shell

/-- Why a condition cannot be judged. -/
inductive ConditionFault where
  | notANumber (text : Octets)
  | missingArgument (operator : Octets)
  | unexpectedOperator (text : Octets)
  | unclosed
deriving DecidableEq, Repr

/-- What is asked about files. -/
abbrev Judging := Except ConditionFault

inductive WordKind where
  | unary | binary | negation | conjunction | disjunction | opening | closing
deriving DecidableEq, Repr

/-- What a word is as an operator. -/
def wordKind? (word : Octets) : Option WordKind :=
  match String.ofList word with
  | "!" => some .negation
  | "-a" => some .conjunction
  | "-o" => some .disjunction
  | "(" => some .opening
  | ")" => some .closing
  | "=" | "!=" | "<" | ">" | "-eq" | "-ne" | "-gt" | "-ge" | "-lt" | "-le"
  | "-nt" | "-ot" | "-ef" =>
    some .binary
  | "-r" | "-w" | "-x" | "-e" | "-f" | "-d" | "-c" | "-b" | "-p" | "-u" | "-g" | "-k" | "-s" | "-t"
  | "-z" | "-n" | "-h" | "-O" | "-G" | "-L" | "-S" => some .unary
  | _ => none

/-- What the first word is in its place: an operator, or a text if none fits there. -/
def kindIn (words : List Octets) : Option WordKind :=
  match words with
  | [] => none
  | word :: rest =>
    match wordKind? word with
    | none => none
    | some .unary =>
      match rest with
      | [] => none
      | [_] => some .unary
      | next :: _ => if wordKind? next = some .binary then none else some .unary
    | some .opening => if rest.isEmpty then none else some .opening
    | some kind => some kind

def number (text : Octets) : Judging Int :=
  match readNumber? text with
  | some n => .ok n
  | none => .error (.notANumber text)

/-- The node that a path leads to. -/
def node? (files : FileTree) (path : Octets) : Option FileNode :=
  (files.find (Text.decodeLossy (Text.bytesOfOctets path))).toOption

/-- The permissions of the node that a path leads to. -/
def mode? (files : FileTree) (path : Octets) : Option Nat :=
  match files.locate (Text.decodeLossy (Text.bytesOfOctets path)) with
  | .ok place => if (files.node? place).isSome then some (files.permissions place) else none
  | .error _ => none

def hasMode (files : FileTree) (path : Octets) (bits : Nat) : Bool :=
  ((mode? files path).map fun mode => mode &&& bits != 0).getD false

/-- Whether a path leads to a directory or to a file that may be run. -/
def isExecutable (files : FileTree) (path : Octets) : Bool :=
  hasMode files path 0o111

def isDevice (path : Octets) : Bool :=
  path == "/dev/null".toList

/-- Whether a path leads to the directory of the devices. -/
def isDeviceDirectory (path : Octets) : Bool :=
  path == "/dev".toList || path == "/dev/".toList

def unary (files : FileTree) (operator operand : Octets) : Judging Bool :=
  let node? := node? files operand
  match String.ofList operator with
  | "-z" => .ok operand.isEmpty
  | "-n" => .ok (!operand.isEmpty)
  | "-e" | "-r" | "-w" | "-O" | "-G" =>
    .ok (node?.isSome || isDevice operand || isDeviceDirectory operand)
  | "-c" => .ok (isDevice operand)
  | "-f" => .ok (match node? with | some (.file _) => true | _ => false)
  | "-d" =>
    .ok (match node? with | some .directory => true | _ => isDeviceDirectory operand)
  | "-x" => .ok (isExecutable files operand)
  | "-u" => .ok (hasMode files operand 0o4000)
  | "-g" => .ok (hasMode files operand 0o2000)
  | "-k" => .ok (hasMode files operand 0o1000)
  | "-s" =>
    .ok (match node? with
      | some (.file bytes) => bytes.size != 0
      | some .directory => true
      | _ => false)
  | "-t" => do
    let _ ← number operand
    return false
  | _ => .ok false

def binary (files : FileTree) (left operator right : Octets) : Judging Bool :=
  let compare (test : Int → Int → Bool) : Judging Bool := do
    return test (← number left) (← number right)
  match String.ofList operator with
  | "=" => .ok (left == right)
  | "!=" => .ok (left != right)
  | "<" => .ok (decide (left < right))
  | ">" => .ok (decide (right < left))
  | "-eq" => compare fun a b => a == b
  | "-ne" => compare fun a b => a != b
  | "-lt" => compare fun a b => decide (a < b)
  | "-le" => compare fun a b => decide (a ≤ b)
  | "-gt" => compare fun a b => decide (b < a)
  | "-ge" => compare fun a b => decide (b ≤ a)
  | "-ef" => .ok (left == right && (node? files left).isSome)
  | "-nt" => .ok ((node? files left).isSome && (node? files right).isNone)
  | "-ot" => .ok ((node? files left).isNone && (node? files right).isSome)
  | _ => .ok false

mutual

/-- A disjunction and the words after it. -/
def judgeEither (files : FileTree) : Nat → List Octets → Judging (Bool × List Octets)
  | 0, words => .ok (false, words)
  | fuel + 1, words => do
    let (a, rest) ← judgeBoth files fuel words
    if kindIn rest = some .disjunction then
      let (b, rest) ← judgeEither files fuel rest.tail
      return (a || b, rest)
    else return (a, rest)

/-- A conjunction and the words after it. -/
def judgeBoth (files : FileTree) : Nat → List Octets → Judging (Bool × List Octets)
  | 0, words => .ok (false, words)
  | fuel + 1, words => do
    let (a, rest) ← judgeNegation files fuel words
    if kindIn rest = some .conjunction then
      let (b, rest) ← judgeBoth files fuel rest.tail
      return (a && b, rest)
    else return (a, rest)

def judgeNegation (files : FileTree) : Nat → List Octets → Judging (Bool × List Octets)
  | 0, words => .ok (false, words)
  | fuel + 1, words => do
    if kindIn words = some .negation then
      let (a, rest) ← judgeNegation files fuel words.tail
      return (!a, rest)
    else judgePrimary files fuel words

def judgePrimary (files : FileTree) : Nat → List Octets → Judging (Bool × List Octets)
  | 0, words => .ok (false, words)
  | fuel + 1, words =>
    match words with
    | [] => .ok (false, [])
    | word :: rest =>
      match kindIn words with
      | some .opening =>
        if kindIn rest = some .closing then .ok (false, rest.tail)
        else do
          let (a, after) ← judgeEither files fuel rest
          if kindIn after = some .closing then return (a, after.tail)
          throw .unclosed
      | some .unary =>
        match rest with
        | [] => .error (.missingArgument word)
        | operand :: rest => do return (← unary files word operand, rest)
      | _ =>
        match rest with
        | operator :: after =>
          if kindIn rest = some .binary then
            match after with
            | [] => .error (.missingArgument operator)
            | right :: after => do return (← binary files word operator right, after)
          else .ok (!word.isEmpty, rest)
        | [] => .ok (!word.isEmpty, [])

end

/-- Judges a condition by the grammar; no word may be left, and the fault names the last word before
them. -/
def judgeAll (files : FileTree) (words : List Octets) : Judging Bool := do
  let (a, rest) ← judgeEither files (8 * (words.length + 1)) words
  if rest.isEmpty then return a
  else throw (.unexpectedOperator ((words[words.length - rest.length - 1]?).getD []))

/-- Judges a condition. Three words with an operator in the middle are a comparison, whatever the
first is; parentheses around up to two words and a negation before them are seen first. -/
def judge (files : FileTree) (words : List Octets) : Judging Bool :=
  match words with
  | [] => .ok false
  | [left, operator, right] =>
    if wordKind? operator = some .binary then binary files left operator right
    else if left = ['('] ∧ right = [')'] then .ok (!operator.isEmpty)
    else if left = ['!'] then do return !(← judgeAll files [operator, right])
    else judgeAll files words
  | [first, a, b, last] =>
    if first = ['('] ∧ last = [')'] then judgeAll files [a, b]
    else if first = ['!'] then do return !(← judge3 a b last)
    else judgeAll files words
  | _ => judgeAll files words
where
  judge3 (a b c : Octets) : Judging Bool :=
    if wordKind? b = some .binary then binary files a b c else judgeAll files [a, b, c]

end Shell
end TemplateVariants
