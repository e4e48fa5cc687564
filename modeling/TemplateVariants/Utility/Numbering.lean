import TemplateVariants.Regex.Reading
import TemplateVariants.Utility.Columns

/-!
# Numbered lines

`nl` writes numbers before lines: before those that are not empty, before all, before none, or
before those in which a pattern is found. Lines of marks begin the parts of a page, of which only
the body is numbered.
-/

namespace TemplateVariants
namespace LineNumbers

/-- Which lines get a number. -/
inductive Style where
  | all
  | filled
  | none
  | fitting (pattern : Regex.Node)

/-- Where a number stands in its column. -/
inductive Side where
  | left
  | right
  | zeros

structure Manner where
  body : Style := .filled
  header : Style := .none
  footer : Style := .none
  side : Side := .right
  width : Nat := 6
  start : Int := 1
  step : Int := 1
  separator : Octets := ['\t']
  blanks : Nat := 1
  restarts : Bool := true
  fault? : Option Refusal := none

def table : OptionTable where
  shorts := [('b', .value), ('h', .value), ('f', .value), ('n', .value), ('w', .value),
    ('v', .value), ('i', .value), ('s', .value), ('l', .value), ('p', .nothing), ('d', .value)]
  longs :=
    [("body-numbering", .value, 'b'), ("header-numbering", .value, 'h'),
      ("footer-numbering", .value, 'f'), ("number-format", .value, 'n'),
      ("number-width", .value, 'w'),
      ("starting-line-number", .value, 'v'), ("line-increment", .value, 'i'),
      ("number-separator", .value, 's'), ("join-blank-lines", .value, 'l'),
      ("no-renumber", .nothing, 'p'), ("section-delimiter", .value, 'd')]

def styleOf? (text : Octets) : Option Style :=
  match text with
  | ['a'] => some .all
  | ['t'] => some .filled
  | ['n'] => some .none
  | 'p' :: pattern => (Regex.read false pattern).toOption.map fun pattern => .fitting pattern.node
  | _ => none

def integer? (text : Octets) : Option Int :=
  match text with
  | '-' :: digits => (numberOf? digits).map fun n => -(n : Int)
  | '+' :: digits | digits => (numberOf? digits).map Int.ofNat

def Manner.fail (m : Manner) (what : String) (value : Octets) (pointsToHelp : Bool := false) :
    Manner :=
  { m with
    fault? := m.fault? <|> some
      { what := Text.octets (what ++ ": ") ++ OptionTable.quote value, pointsToHelp } }

def Manner.set (m : Manner) (setting : Setting) : Manner :=
  let value := setting.value
  match setting.letter with
  | 'b' =>
    match styleOf? value with
    | some body => { m with body }
    | none => m.fail "invalid body numbering style" value true
  | 'h' =>
    match styleOf? value with
    | some header => { m with header }
    | none => m.fail "invalid header numbering style" value true
  | 'f' =>
    match styleOf? value with
    | some footer => { m with footer }
    | none => m.fail "invalid footer numbering style" value true
  | 'n' =>
    match String.ofList value with
    | "ln" => { m with side := .left }
    | "rn" => { m with side := .right }
    | "rz" => { m with side := .zeros }
    | _ => m.fail "invalid line numbering format" value true
  | 'w' =>
    match numberOf? value with
    | some 0 =>
      { m with
        fault? := m.fault? <|> some
          { what := Text.octets ("invalid line number field width: '0': " ++
              "Numerical result out of range") } }
    | some width => { m with width }
    | none => m.fail "invalid line number field width" value
  | 'v' =>
    match integer? value with
    | some start => { m with start }
    | none => m.fail "invalid starting line number" value
  | 'i' =>
    match integer? value with
    | some step => { m with step }
    | none => m.fail "invalid line number increment" value
  | 'l' =>
    match numberOf? value with
    | some blanks => { m with blanks := max blanks 1 }
    | none => m.fail "invalid line number of blank lines" value
  | 's' => { m with separator := value }
  | 'p' => { m with restarts := false }
  | _ => m

/-- A number in its column. -/
def Manner.column (m : Manner) (number : Int) : Octets :=
  let digits := Nat.toDigits 10 number.natAbs
  let sign := if number < 0 then ['-'] else []
  let fill (c : Char) : Octets := List.replicate (m.width - sign.length - digits.length) c
  match m.side with
  | .left => sign ++ digits ++ fill ' '
  | .right => fill ' ' ++ sign ++ digits
  | .zeros => sign ++ fill '0' ++ digits

/-- What has been written, backwards, with the next number, the style of the part at hand, and the
empty lines since the last number. -/
structure Page where
  written : List Octets := []
  next : Int
  style : Style
  empties : Nat := 0

/-- The part that a line of marks begins. -/
def Manner.part? (m : Manner) (line : Octets) : Option Style :=
  match String.ofList line with
  | "\\:\\:\\:" => some m.header
  | "\\:\\:" => some m.body
  | "\\:" => some m.footer
  | _ => none

def Manner.add (m : Manner) (page : Page) (line : Octets) : Page :=
  match m.part? line with
  | some style =>
    { page with
      written := [] :: page.written
      style
      next := if m.restarts then m.start else page.next }
  | none =>
    let empties := if line.isEmpty then page.empties + 1 else 0
    let isNumbered :=
      match page.style with
      | .all => !line.isEmpty || empties % m.blanks == 0
      | .filled => !line.isEmpty
      | .none => false
      | .fitting pattern => (Regex.search pattern { text := line.toArray } 0).isSome
    if isNumbered then
      { page with
        written := (m.column page.next ++ m.separator ++ line) :: page.written
        next := page.next + m.step
        empties := 0 }
    else
      let blanks := List.replicate (m.width + m.separator.length) ' '
      { page with written := (blanks ++ line) :: page.written, empties }

end LineNumbers

open LineNumbers in
def nl : Utility := fun call =>
  let read := table.read call.arguments
  let m := read.settings.foldl Manner.set {}
  match read.fault?, m.fault? with
  | some what, _ => call.refuseUsage what
  | none, some refusal => call.refuseWith refusal
  | none, none =>
    let inputs := call.inputs read.operands fun operand reason =>
      operand ++ Text.octets (": " ++ reason)
    let lines := inputs.texts.flatMap fun (_, text) => Columns.bareLines '\n' text
    let page := lines.foldl m.add { next := m.start, style := m.body }
    call.replyWith inputs (page.written.reverse.flatMap (· ++ ['\n']))

end TemplateVariants
