import TemplateVariants.Utility.Options

/-!
# Sequences of numbers

`seq` writes numbers from a first to a last with a step between them. They are decimal, with as many
digits after the point as the first and the step have.
-/

namespace TemplateVariants
namespace Sequence

/-- A decimal number: a whole number of units, of which `places` digits stand after the point. -/
structure Decimal where
  units : Int
  places : Nat

/-- The number that a text spells. -/
def Decimal.read? (text : Octets) : Option Decimal :=
  let (isNegative, digits) :=
    match text.dropWhile (· = ' ') with
    | '-' :: rest => (true, rest)
    | '+' :: rest => (false, rest)
    | rest => (false, rest)
  let whole := digits.takeWhile Char.isDigit
  let fraction? : Option Octets :=
    match digits.drop whole.length with
    | [] => some []
    | '.' :: rest => if rest.all Char.isDigit then some rest else none
    | _ => none
  match fraction? with
  | none => none
  | some fraction =>
    if whole.isEmpty ∧ fraction.isEmpty then none
    else
      let n : Int := (whole ++ fraction).foldl (fun n c => 10 * n + (c.toNat - '0'.toNat)) (0 : Nat)
      some ⟨if isNegative then -n else n, fraction.length⟩

/-- The units of a number where so many digits stand after the point. -/
def Decimal.unitsAt (d : Decimal) (places : Nat) : Int :=
  d.units * Nat.pow 10 (places - d.places)

/-- The text of so many units, with zeros in front up to a width. -/
def unitsText (places width : Nat) (units : Int) : Octets :=
  let digits := Nat.toDigits 10 units.natAbs
  let digits := List.replicate (places + 1 - digits.length) '0' ++ digits
  let whole := digits.take (digits.length - places)
  let text := if places = 0 then whole else whole ++ '.' :: digits.drop (digits.length - places)
  let sign := if units < 0 then ['-'] else []
  sign ++ List.replicate (width - sign.length - text.length) '0' ++ text

/-- The numbers from `first` on that do not pass `last`. -/
def range (first step last : Int) : List Int :=
  let count := if step = 0 then 0 else (Int.fdiv (last - first) step + 1).toNat
  (List.range count).map fun n : Nat => first + step * n

structure Manner where
  separator : Octets := ['\n']
  isEven : Bool := false

def table : OptionTable where
  shorts := [('s', .value), ('w', .nothing)]
  longs := [("separator", .value, 's'), ("equal-width", .nothing, 'w')]
  comeFirst := true

def Manner.set (m : Manner) (setting : Setting) : Manner :=
  match setting.letter with
  | 's' => { m with separator := setting.value }
  | 'w' => { m with isEven := true }
  | _ => m

/-- The arguments before and after the first number that starts with a hyphen, which is no
option. -/
def splitOperands (args : List Octets) : List Octets × List Octets :=
  args.span fun arg =>
    match arg with
    | '-' :: c :: _ => !(c.isDigit || c == '.')
    | _ => true

def Manner.text (m : Manner) (first step last : Decimal) : Octets :=
  let places := max first.places step.places
  let scale := max places last.places
  let numbers := range (first.unitsAt scale) (step.unitsAt scale) (last.unitsAt scale)
  let narrow (units : Int) : Int := Int.tdiv units (Nat.pow 10 (scale - places))
  let width (units : Int) : Nat := (unitsText places 0 (narrow units)).length
  let widest :=
    if m.isEven then max (width (first.unitsAt scale)) (width (last.unitsAt scale)) else 0
  let texts := numbers.map fun units => unitsText places widest (narrow units)
  if texts.isEmpty then [] else List.intercalate m.separator texts ++ ['\n']

end Sequence

def seq : Utility := fun call =>
  let (before, after) := Sequence.splitOperands call.arguments
  let read := Sequence.table.read before
  let operands := read.operands ++ after
  let manner := read.settings.foldl Sequence.Manner.set {}
  let invalid (text : Octets) : Reply :=
    call.refuseUsage (Text.octets "invalid floating point argument: " ++ OptionTable.quote text)
  match read.fault? with
  | some what => call.refuseUsage what
  | none =>
    match operands with
    | [] => call.refuseUsage (Text.octets "missing operand")
    | _ :: _ :: _ :: extra :: _ =>
      call.refuseUsage (Text.octets "extra operand " ++ OptionTable.quote extra)
    | _ =>
      match operands.find? fun text => (Sequence.Decimal.read? text).isNone with
      | some text => invalid text
      | none =>
        let run (first step last : Sequence.Decimal) : Reply :=
          { call.done with output := manner.text first step last }
        match operands.filterMap Sequence.Decimal.read?, operands with
        | [last], _ => run ⟨1, 0⟩ ⟨1, 0⟩ last
        | [first, last], _ => run first ⟨1, 0⟩ last
        | [first, step, last], [_, text, _] =>
          if step.units = 0 then
            call.refuseUsage (Text.octets "invalid Zero increment value: " ++
              OptionTable.quote text)
          else run first step last
        | _, _ => call.done

end TemplateVariants
