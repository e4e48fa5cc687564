import TemplateVariants.Utility.Options

/-!
# Counting

`wc` counts the line feeds, words and bytes of its inputs, and finds their longest lines. The counts
of an input share a line with its name, and the totals of several inputs follow.
-/

namespace TemplateVariants
namespace Count

structure Counts where
  lines : Nat := 0
  words : Nat := 0
  bytes : Nat := 0
  longest : Nat := 0

def Counts.add (a b : Counts) : Counts where
  lines := a.lines + b.lines
  words := a.words + b.words
  bytes := a.bytes + b.bytes
  longest := max a.longest b.longest

def isSpace (c : Char) : Bool :=
  c == ' ' || (decide ('\t' ≤ c) && decide (c ≤ '\r'))

def prints (c : Char) : Bool :=
  decide ('!' ≤ c) && decide (c ≤ '~')

/-- How many words there are, `inWord` telling whether one goes on. What does not print makes no
word. -/
def wordsFrom (inWord : Bool) : Octets → Nat
  | [] => 0
  | c :: cs =>
    if isSpace c then wordsFrom false cs
    else if prints c && !inWord then 1 + wordsFrom true cs
    else wordsFrom inWord cs

/-- The column after a character: a tab goes to the next multiple of eight, and what does not print
takes no place. -/
def columnAfter (column : Nat) (c : Char) : Nat :=
  if c = '\n' ∨ c = '\r' ∨ c = '\x0c' then 0
  else if c = '\t' then column + (8 - column % 8)
  else if c = ' ' ∨ prints c then column + 1
  else column

/-- The greatest column that a text reaches. -/
def longestFrom (column : Nat) : Octets → Nat
  | [] => column
  | c :: cs => max column (longestFrom (columnAfter column c) cs)

def ofText (text : Octets) : Counts where
  lines := text.count '\n'
  words := wordsFrom false text
  bytes := text.length
  longest := longestFrom 0 text

/-- Which counts are written. -/
structure Manner where
  lines : Bool := false
  words : Bool := false
  chars : Bool := false
  bytes : Bool := false
  longest : Bool := false

def table : OptionTable where
  shorts := "lwmcL".toList.map fun c => (c, .nothing)
  longs :=
    [("lines", .nothing, 'l'), ("words", .nothing, 'w'), ("chars", .nothing, 'm'),
      ("bytes", .nothing, 'c'), ("max-line-length", .nothing, 'L')]

def Manner.set (m : Manner) (letter : Char) : Manner :=
  match letter with
  | 'l' => { m with lines := true }
  | 'w' => { m with words := true }
  | 'm' => { m with chars := true }
  | 'c' => { m with bytes := true }
  | 'L' => { m with longest := true }
  | _ => m

/-- The counts that are asked for; a character is a byte. -/
def Manner.pick (m : Manner) (c : Counts) : List Nat :=
  [(m.lines, c.lines), (m.words, c.words), (m.chars, c.bytes), (m.bytes, c.bytes),
    (m.longest, c.longest)].filterMap fun (isAsked, n) => if isAsked then some n else none

/-- The line for counts of something named. -/
def Manner.line (m : Manner) (width : Nat) (c : Counts) (name : Octets) : Octets :=
  let column (n : Nat) : Octets :=
    let digits := Nat.toDigits 10 n
    List.replicate (width - digits.length) ' ' ++ digits
  let columns := List.intercalate [' '] ((m.pick c).map column)
  columns ++ (if name.isEmpty then [] else ' ' :: name) ++ ['\n']

/-- How wide the columns are: as the bytes of all files together, and at least seven if an input is
no file. -/
def Manner.width (m : Manner) (operands : List Octets) (inputs : Inputs) : Nat :=
  if operands.length ≤ 1 ∧ (m.pick {}).length = 1 then 1
  else
    let sizes := inputs.texts.map fun (operand, text) =>
      if operand = ['-'] then 0 else text.length
    let width := (Nat.toDigits 10 (sizes.foldl (· + ·) 0)).length
    if inputs.isMixed then max 7 width else width

end Count

def wc : Utility := fun call =>
  let read := Count.table.read call.arguments
  match read.fault? with
  | some what => call.refuseUsage what
  | none =>
    let manner := read.settings.foldl (fun m setting => m.set setting.letter) ({} : Count.Manner)
    let manner : Count.Manner :=
      if read.settings.isEmpty then { lines := true, words := true, bytes := true } else manner
    let inputs := call.inputs read.operands fun operand reason =>
      operand ++ Text.octets (": " ++ reason)
    let width := manner.width read.operands inputs
    let counted := inputs.texts.map fun (operand, text) => (operand, Count.ofText text)
    let lines := counted.flatMap fun (operand, counts) =>
      manner.line width counts (if read.operands.isEmpty then [] else operand)
    let total :=
      if read.operands.length ≤ 1 then []
      else
        manner.line width ((counted.map Prod.snd).foldl Count.Counts.add {}) (Text.octets "total")
    call.replyWith inputs (lines ++ total)

end TemplateVariants
