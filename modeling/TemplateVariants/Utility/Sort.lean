import TemplateVariants.Utility.Options

/-!
# Sorting

`sort` writes the lines of its inputs in order: by their bytes, or by the numbers that they start
with. Lines that are equal so are ordered by their bytes.
-/

namespace TemplateVariants
namespace Sorting

structure Manner where
  reverse : Bool := false
  numeric : Bool := false
  unique : Bool := false
  folds : Bool := false
  skipsBlanks : Bool := false
  isStable : Bool := false

def table : OptionTable where
  shorts := "rnufbs".toList.map fun c => (c, .nothing)
  longs :=
    [("reverse", .nothing, 'r'), ("numeric-sort", .nothing, 'n'), ("unique", .nothing, 'u'),
      ("ignore-case", .nothing, 'f'), ("ignore-leading-blanks", .nothing, 'b'),
      ("stable", .nothing, 's')]

def Manner.set (m : Manner) (letter : Char) : Manner :=
  match letter with
  | 'r' => { m with reverse := true }
  | 'n' => { m with numeric := true }
  | 'u' => { m with unique := true }
  | 'f' => { m with folds := true }
  | 'b' => { m with skipsBlanks := true }
  | 's' => { m with isStable := true }
  | _ => m

def isBlank (c : Char) : Bool :=
  c == ' ' || c == '\t'

/-- The number that a line starts with, as one without sign and its sign; the number is a whole part
and the digits after the point. -/
def numberOf (line : Octets) : Bool × Nat × Octets :=
  let text := line.dropWhile fun c => isBlank c
  let (isNegative, text) :=
    match text with
    | '-' :: rest => (true, rest)
    | _ => (false, text)
  let whole := text.takeWhile Char.isDigit
  let n := whole.foldl (fun n c => 10 * n + (c.toNat - '0'.toNat)) 0
  let fraction :=
    match text.drop whole.length with
    | '.' :: rest => (rest.takeWhile Char.isDigit).reverse.dropWhile (· = '0')
    | _ => []
  (isNegative && (n != 0 || !fraction.isEmpty), n, fraction.reverse)

def compareMagnitudes (a b : Nat × Octets) : Ordering :=
  (compare a.1 b.1).then (if a.2 < b.2 then .lt else if b.2 < a.2 then .gt else .eq)

def compareNumbers (a b : Octets) : Ordering :=
  match numberOf a, numberOf b with
  | (false, m), (false, n) => compareMagnitudes m n
  | (true, m), (true, n) => compareMagnitudes n m
  | (true, _), (false, _) => .lt
  | (false, _), (true, _) => .gt

def compareTexts (a b : Octets) : Ordering :=
  if a < b then .lt else if b < a then .gt else .eq

/-- How two lines compare by what is asked for. -/
def Manner.compareKeys (m : Manner) (a b : Octets) : Ordering :=
  if m.numeric then compareNumbers a b
  else
    let key (line : Octets) : Octets :=
      let line := if m.skipsBlanks then line.dropWhile fun c => isBlank c else line
      if m.folds then line.map Char.toUpper else line
    compareTexts (key a) (key b)

/-- How two lines compare in the end. -/
def Manner.compare (m : Manner) (a b : Octets) : Ordering :=
  let order := m.compareKeys a b
  let order := if m.isStable || m.unique then order else order.then (compareTexts a b)
  if m.reverse then order.swap else order

/-- Drops the lines that are equal to the one before. -/
def Manner.dropEqual (m : Manner) : List Octets → List Octets
  | [] => []
  | [line] => [line]
  | a :: b :: lines =>
    if m.compareKeys a b = .eq then m.dropEqual (a :: lines) else a :: m.dropEqual (b :: lines)
termination_by lines => lines.length

/-- The lines of an input without what ends them. -/
def linesIn (text : Octets) : List Octets :=
  (linesOf '\n' text).map fun line =>
    if line.getLast? = some '\n' then line.dropLast else line

def Manner.run (m : Manner) (lines : List Octets) : List Octets :=
  let sorted := lines.mergeSort fun a b => m.compare a b != .gt
  if m.unique then m.dropEqual sorted else sorted

end Sorting

def sort : Utility := fun call =>
  let read := Sorting.table.read call.arguments
  match read.fault? with
  | some what => call.refuseUsage what 2
  | none =>
    let manner := read.settings.foldl (fun m setting => m.set setting.letter) ({} : Sorting.Manner)
    let inputs := call.inputs read.operands fun operand reason =>
      let verb :=
        if reason = StorageFault.reason .isDirectory then "read failed: " else "cannot read: "
      Text.octets verb ++ operand ++ Text.octets (": " ++ reason)
    match inputs.complaints with
    | what :: _ => call.refuse what 2
    | [] =>
      let lines := inputs.texts.flatMap fun (_, text) => Sorting.linesIn text
      call.replyWith inputs ((manner.run lines).flatMap (· ++ ['\n']))

end TemplateVariants
