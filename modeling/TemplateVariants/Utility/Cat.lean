import TemplateVariants.Utility.Options

/-!
# Showing files

`cat` writes its inputs one after the other. It can number lines, leave out empty lines that follow
an empty line, and make characters visible that do not print.
-/

namespace TemplateVariants
namespace Cat

/-- How the lines are changed that are shown. -/
structure Manner where
  number : Bool := false
  numberFilled : Bool := false
  squeeze : Bool := false
  showEnds : Bool := false
  showTabs : Bool := false
  showUnprintable : Bool := false

def table : OptionTable where
  shorts := "AbeEnstTuv".toList.map fun c => (c, .nothing)
  longs :=
    [("number-nonblank", .nothing, 'b'), ("number", .nothing, 'n'),
      ("squeeze-blank", .nothing, 's'), ("show-nonprinting", .nothing, 'v'),
      ("show-ends", .nothing, 'E'), ("show-tabs", .nothing, 'T'), ("show-all", .nothing, 'A')]

def Manner.set (m : Manner) (letter : Char) : Manner :=
  match letter with
  | 'A' => { m with showUnprintable := true, showEnds := true, showTabs := true }
  | 'b' => { m with number := true, numberFilled := true }
  | 'e' => { m with showUnprintable := true, showEnds := true }
  | 'E' => { m with showEnds := true }
  | 'n' => { m with number := true }
  | 's' => { m with squeeze := true }
  | 't' => { m with showUnprintable := true, showTabs := true }
  | 'T' => { m with showTabs := true }
  | 'v' => { m with showUnprintable := true }
  | _ => m

/-- What stands before the next character: the middle of a line, or so many line feeds. -/
inductive Before where
  | middle
  | feeds (count : Nat)

/-- A text as far as it has been shown, backwards, and the number of the last numbered line. -/
structure Shown where
  text : Octets := []
  line : Nat := 0
  before : Before := .feeds 0

def Shown.write (s : Shown) (text : Octets) : Shown :=
  { s with text := text.reverse ++ s.text }

/-- Starts the next numbered line. -/
def Shown.label (s : Shown) : Shown :=
  let digits := Nat.toDigits 10 (s.line + 1)
  { s.write (List.replicate (6 - digits.length) ' ' ++ digits ++ ['\t']) with line := s.line + 1 }

/-- A character with a caret for a control and `M-` for the upper half of the bytes. -/
def visible (c : Char) : Octets :=
  let low (n : Nat) : Octets :=
    if n < 32 then ['^', Char.ofNat (n + 64)]
    else if n = 127 then ['^', '?']
    else [Char.ofNat n]
  if c.toNat < 128 then low c.toNat else 'M' :: '-' :: low (c.toNat - 128)

/-- Shows a character; `next?` is the one after it. -/
def Manner.show (m : Manner) (c : Char) (next? : Option Char) : Octets :=
  if c = '\t' then (if m.showTabs then ['^', 'I'] else [c])
  else if m.showUnprintable then visible c
  else if c = '\r' ∧ m.showEnds ∧ next? = some '\n' then ['^', 'M']
  else [c]

def Manner.step (m : Manner) (s : Shown) (c : Char) (next? : Option Char) : Shown :=
  if c = '\n' then
    let feeds :=
      match s.before with
      | .middle => 0
      | .feeds count => count + 1
    let s := { s with before := .feeds feeds }
    if 2 ≤ feeds ∧ m.squeeze then s
    else
      let s := if 0 < feeds ∧ m.number ∧ !m.numberFilled then s.label else s
      s.write (if m.showEnds then ['$', '\n'] else ['\n'])
  else
    let s :=
      match s.before with
      | .middle => s
      | .feeds _ => if m.number then s.label else s
    { s.write (m.show c next?) with before := .middle }

def Manner.run (m : Manner) : Shown → Octets → Shown
  | s, [] => s
  | s, c :: cs => m.run (m.step s c cs.head?) cs

end Cat

def cat : Utility := fun call =>
  let read := Cat.table.read call.arguments
  match read.fault? with
  | some what => call.refuseUsage what
  | none =>
    let manner := read.settings.foldl (fun m setting => m.set setting.letter) ({} : Cat.Manner)
    let inputs := call.inputs read.operands fun operand reason =>
      operand ++ Text.octets (": " ++ reason)
    let text := inputs.texts.flatMap Prod.snd
    call.replyWith inputs (manner.run {} text).text.reverse

end TemplateVariants
