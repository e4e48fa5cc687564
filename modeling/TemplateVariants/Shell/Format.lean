import TemplateVariants.Numeral.Decimal
import TemplateVariants.Shell.Arithmetic

/-!
# Formats

What `echo` makes of backslashes, and what `printf` makes of a format and arguments. A format is
used again until all arguments are used up; a missing argument counts as empty.
-/

namespace TemplateVariants
namespace Shell

/-! ## Backslashes -/

def isOctal (c : Char) : Bool :=
  decide ('0' ≤ c) && decide (c ≤ '7')

/-- The character that a letter after a backslash stands for. -/
def escape? : Char → Option Char
  | 'a' => some '\x07'
  | 'b' => some '\x08'
  | 'e' => some '\x1b'
  | 'f' => some '\x0c'
  | 'n' => some '\n'
  | 'r' => some '\r'
  | 't' => some '\t'
  | 'v' => some '\x0b'
  | '\\' => some '\\'
  | _ => none

/-- The character that a backslash and the text after it stand for, and what is left of the text. Up
to three octal digits stand for a byte; a backslash before anything else stands for itself. -/
def escapeFrom (text : List Char) : Char × List Char :=
  match text with
  | [] => ('\\', [])
  | c :: rest =>
    match escape? c with
    | some d => (d, rest)
    | none =>
      let digits := (text.takeWhile isOctal).take 3
      if digits.isEmpty then ('\\', text)
      else
        let byte := digits.foldl (fun n d => 8 * n + (d.toNat - '0'.toNat)) 0
        (Char.ofNat (byte % 256), text.drop digits.length)

/-- The text with its backslashes read, and whether a backslash and `c` have ended it; the number
bounds its characters. A zero may come before three octal digits. -/
def readEscapes : Nat → List Char → List Char × Bool
  | 0, _ => ([], false)
  | _, [] => ([], false)
  | fuel + 1, '\\' :: rest =>
    match rest with
    | 'c' :: _ => ([], true)
    | _ =>
      let rest :=
        match rest with
        | '0' :: d :: after => if isOctal d then d :: after else rest
        | _ => rest
      let (c, rest) := escapeFrom rest
      let (text, ended) := readEscapes fuel rest
      (c :: text, ended)
  | fuel + 1, c :: rest =>
    let (text, ended) := readEscapes fuel rest
    (c :: text, ended)

/-- What `echo` writes: the arguments with a space between them, and a line feed unless the first
argument is `-n`. A backslash and `c` end the whole. -/
def echo (args : List (List Char)) : List Char :=
  let rec words : List (List Char) → List Char × Bool
    | [] => ([], false)
    | [arg] => readEscapes arg.length arg
    | arg :: args =>
      let (text, ended) := readEscapes arg.length arg
      if ended then (text, true)
      else
        let (more, ended) := words args
        (text ++ ' ' :: more, ended)
  let (isOpen, args) :=
    match args with
    | ['-', 'n'] :: args => (true, args)
    | _ => (false, args)
  let (text, ended) := words args
  if isOpen || ended then text else text ++ ['\n']

/-! ## Fields -/

/-- How a value is written. -/
structure Spec where
  toLeft : Bool := false
  plus : Bool := false
  space : Bool := false
  alternate : Bool := false
  zeros : Bool := false
  width : Nat := 0
  precision? : Option Nat := none
deriving Repr

/-- A text in a field of the given width, blanks being on the side that the value leaves. -/
def Spec.pad (spec : Spec) (text : List Char) : List Char :=
  let blanks := List.replicate (spec.width - text.length) ' '
  if spec.toLeft then text ++ blanks else blanks ++ text

/-- Digits with a sign or a mark of their base in front, filled with zeros if that is asked for. -/
def Spec.padNumber (spec : Spec) (front digits : List Char) (mayFill : Bool) : List Char :=
  if spec.zeros && mayFill && !spec.toLeft then
    front ++ List.replicate (spec.width - front.length - digits.length) '0' ++ digits
  else spec.pad (front ++ digits)

def Spec.sign (spec : Spec) (isNegative : Bool) : List Char :=
  if isNegative then ['-']
  else if spec.plus then ['+']
  else if spec.space then [' ']
  else []

/-- The digits of a number, at least as many as the precision says. -/
def Spec.digits (spec : Spec) (base : Nat) (n : Nat) : List Char :=
  let digits := if n = 0 ∧ spec.precision? = some 0 then [] else Nat.toDigits base n
  List.replicate (spec.precision?.getD 1 - digits.length) '0' ++ digits

def Spec.signed (spec : Spec) (n : Int) : List Char :=
  spec.padNumber (spec.sign (n < 0)) (spec.digits 10 n.natAbs) spec.precision?.isNone

def upper (text : List Char) : List Char :=
  text.map Char.toUpper

/-- A number without sign in the base of a letter. -/
def Spec.unsigned (spec : Spec) (letter : Char) (n : Nat) : List Char :=
  let base := if letter = 'o' then 8 else if letter = 'u' then 10 else 16
  let digits := spec.digits base n
  let digits :=
    if letter = 'o' ∧ spec.alternate ∧ digits.head? ≠ some '0' then '0' :: digits else digits
  let front := if base = 16 ∧ spec.alternate ∧ n ≠ 0 then ['0', 'x'] else []
  let mayFill := spec.precision?.isNone
  if letter = 'X' then spec.padNumber (upper front) (upper digits) mayFill
  else spec.padNumber front digits mayFill

/-! ## Fractions -/

/-- A number as numerator and denominator. -/
structure Quotient where
  num : Nat
  den : Nat
deriving Repr

/-- The nearest whole multiple of a power of ten, an exact half going to the even one. -/
def Quotient.round (q : Quotient) (places : Int) : Nat :=
  if places ≥ 0 then Numeral.Binary.roundDiv (q.num * Nat.pow 10 places.toNat) q.den
  else Numeral.Binary.roundDiv q.num (q.den * Nat.pow 10 (-places).toNat)

/-- Digits with a point before the last `places` of them. -/
def withPoint (alternate : Bool) (places : Nat) (n : Nat) : List Char :=
  let digits := Nat.toDigits 10 n
  let digits := List.replicate (places + 1 - digits.length) '0' ++ digits
  let whole := digits.take (digits.length - places)
  if places = 0 then (if alternate then whole ++ ['.'] else whole)
  else whole ++ '.' :: digits.drop (digits.length - places)

/-- The power of ten that a positive number starts at. -/
def Quotient.decade (q : Quotient) : Int :=
  let whole := q.num / q.den
  if whole ≠ 0 then (Nat.toDigits 10 whole).length - 1
  else
    let e : Int := -((Nat.toDigits 10 (q.den / q.num)).length : Int)
    if q.num * Nat.pow 10 (-(e + 1)).toNat ≥ q.den then e + 1 else e

/-- The digits of a number in scientific form and the power of ten that they start at. -/
def Quotient.scientific (q : Quotient) (places : Nat) : Nat × Int :=
  if q.num = 0 then (0, 0)
  else
    let e := q.decade
    let n := q.round (places - e)
    if n < Nat.pow 10 (places + 1) then (n, e) else (n / 10, e + 1)

def exponentText (e : Int) : List Char :=
  let digits := Nat.toDigits 10 e.natAbs
  ['e', if e < 0 then '-' else '+'] ++ List.replicate (2 - digits.length) '0' ++ digits

/-- Drops the zeros at the end of a fraction, and the point if nothing stays after it. -/
def dropZeros (text : List Char) : List Char :=
  if text.contains '.' then
    let kept := (text.reverse.dropWhile (· = '0'))
    (if kept.head? = some '.' then kept.tail else kept).reverse
  else text

/-- A number in the form of a letter: `f` with a point, `e` with a power of ten, `g` as it suits. -/
def Quotient.text (q : Quotient) (spec : Spec) (letter : Char) : List Char :=
  let places := spec.precision?.getD 6
  match letter with
  | 'f' => withPoint spec.alternate places (q.round places)
  | 'e' =>
    let (n, e) := q.scientific places
    withPoint spec.alternate places n ++ exponentText e
  | _ =>
    let places := if places = 0 then 0 else places - 1
    let (n, e) := q.scientific places
    let tidy (text : List Char) := if spec.alternate then text else dropZeros text
    if -4 ≤ e ∧ e ≤ places then
      let places := (places - e).toNat
      tidy (withPoint spec.alternate places (q.round places))
    else tidy (withPoint spec.alternate places n) ++ exponentText e

/-- The magnitude of a double as a quotient. -/
def Quotient.ofBits (bits : UInt64) : Quotient :=
  let b := Numeral.Binary.ofBits bits
  if b.exponent ≥ 0 then ⟨b.significand <<< b.exponent.toNat, 1⟩
  else ⟨b.significand, 1 <<< (-b.exponent).toNat⟩

/-! ## Arguments -/

/-- The start of a text that is a decimal numeral, and the rest. -/
def decimalFrom (text : List Char) : List Char × List Char :=
  let (sign, rest) :=
    match text with
    | '-' :: rest => (['-'], rest)
    | '+' :: rest => (['+'], rest)
    | _ => ([], text)
  let (whole, rest) := rest.span Char.isDigit
  let (point, rest) :=
    match rest with
    | '.' :: after =>
      let (fraction, after) := after.span Char.isDigit
      if whole.isEmpty && fraction.isEmpty then ([], rest) else ('.' :: fraction, after)
    | _ => ([], rest)
  if whole.isEmpty && point.isEmpty then ([], text)
  else
    let mantissa := sign ++ whole ++ point
    match rest with
    | e :: after =>
      if e = 'e' ∨ e = 'E' then
        let (mark, digits) :=
          match after with
          | '-' :: digits => (['-'], digits)
          | '+' :: digits => (['+'], digits)
          | _ => ([], after)
        let (digits, more) := digits.span Char.isDigit
        if digits.isEmpty then (mantissa, rest) else (mantissa ++ e :: mark ++ digits, more)
      else (mantissa, rest)
    | [] => (mantissa, rest)

/-- Why an argument is no number: only its start is one, nothing of it is, or it is too large. -/
inductive Misread where
  | isPartial
  | isNone
  | isTooLarge
deriving DecidableEq, Repr

/-- Why a format cannot be followed: a letter means nothing, or there is no letter. -/
inductive FormatFault where
  | unknown (directive : List Char)
  | unfinished (directive : List Char)

/-- A formatted text as far as it has been made: what is to be written, the arguments left, whether
an argument has been taken, what was said about arguments, and what has ended the text. -/
structure Formatting where
  written : List Char := []
  arguments : List (List Char) := []
  hasTaken : Bool := false
  complaints : List (List Char × Misread) := []
  ended : Bool := false
  fault? : Option FormatFault := none

namespace Formatting

def write (f : Formatting) (text : List Char) : Formatting :=
  { f with written := text.reverse ++ f.written }

def complain (f : Formatting) (argument : List Char) (misread : Misread) : Formatting :=
  { f with complaints := (argument, misread) :: f.complaints }

/-- The next argument; none if there is no more. -/
def next (f : Formatting) : Option (List Char) × Formatting :=
  match f.arguments with
  | [] => (none, f)
  | a :: rest => (some a, { f with arguments := rest, hasTaken := true })

/-- Complains about an argument that is not all of a numeral. -/
def check (f : Formatting) (argument rest : List Char) (isRead : Bool) : Formatting :=
  if rest.isEmpty then f
  else if isRead then f.complain argument .isPartial
  else f.complain argument .isNone

/-- The next argument as a whole number between the bounds; a quote stands for the number of the
character after it. -/
def nextNumber (f : Formatting) (least greatest : Int) : Int × Formatting :=
  let (argument?, f) := f.next
  match argument? with
  | none => (0, f)
  | some argument =>
    match argument with
    | '"' :: rest => (((rest.head?).map fun c => (c.toNat : Int)).getD 0, f)
    | '\'' :: rest => (((rest.head?).map fun c => (c.toNat : Int)).getD 0, f)
    | _ =>
      match signedFrom? argument with
      | none => (0, f.check argument argument false)
      | some (n, rest) =>
        if n < least ∨ greatest < n then
          let f :=
            if rest.isEmpty then f.complain argument .isTooLarge
            else f.check argument rest true
          (if n < least then least else greatest, f)
        else (n, f.check argument rest true)

/-- The word for no number or for infinity that a text starts with, in small letters, and the
rest. -/
def wordFrom? (text : List Char) : Option (String × List Char) :=
  let small := text.map Char.toLower
  if "infinity".toList.isPrefixOf small then some ("inf", text.drop 8)
  else if "inf".toList.isPrefixOf small then some ("inf", text.drop 3)
  else if "nan".toList.isPrefixOf small then some ("nan", text.drop 3)
  else none

/-- The hexadecimal number that a text starts with, and the rest. -/
def hexadecimalFrom? : List Char → Option (Nat × List Char)
  | '0' :: x :: c :: rest =>
    if (x = 'x' ∨ x = 'X') ∧ (digitValue? 16 c).isSome then some (digitsFrom 16 (c :: rest))
    else none
  | _ => none

/-- Writes the next argument as a fraction. -/
def writeFraction (f : Formatting) (spec : Spec) (letter : Char) : Formatting :=
  let (argument?, f) := f.next
  let argument := argument?.getD []
  let small := if letter.isUpper then Char.ofNat (letter.toNat + 32) else letter
  let cased (text : List Char) := if letter.isUpper then upper text else text
  match argument with
  | '"' :: rest => quoted f spec small cased rest
  | '\'' :: rest => quoted f spec small cased rest
  | _ =>
    let text := argument.dropWhile isSpace
    let (isNegative, unsigned) :=
      match text with
      | '-' :: rest => (true, rest)
      | '+' :: rest => (false, rest)
      | _ => (false, text)
    match wordFrom? unsigned, hexadecimalFrom? unsigned with
    | some (word, rest), _ =>
      (f.check argument rest true).write
        (spec.padNumber (spec.sign isNegative) (cased word.toList) false)
    | none, some (n, rest) =>
      (f.check argument rest true).write
        (spec.padNumber (spec.sign isNegative) (cased ((Quotient.mk n 1).text spec small)) true)
    | none, none => decimal f spec small cased argument text
where
  decimal (f : Formatting) (spec : Spec) (letter : Char) (cased : List Char → List Char)
      (argument text : List Char) : Formatting :=
    let (numeral, rest) := decimalFrom text
    let f := f.check argument (if numeral.isEmpty then argument else rest) (!numeral.isEmpty)
    let decimal := (Numeral.Decimal.read? numeral).getD ⟨false, 0, 0⟩
    match decimal.magnitude? with
    | some bits =>
      f.write (spec.padNumber (spec.sign decimal.negative)
        (cased ((Quotient.ofBits bits).text spec letter)) true)
    | none =>
      let f := if rest.isEmpty then f.complain argument .isTooLarge else f
      f.write (spec.padNumber (spec.sign decimal.negative) (cased "inf".toList) false)
  quoted (f : Formatting) (spec : Spec) (letter : Char) (cased : List Char → List Char)
      (rest : List Char) : Formatting :=
    let n := ((rest.head?).map Char.toNat).getD 0
    f.write (spec.padNumber (spec.sign false) (cased ((Quotient.mk n 1).text spec letter)) true)

/-! ## Formats -/

def readNat (digits : List Char) : Nat :=
  digits.foldl (fun n c => 10 * n + (c.toNat - '0'.toNat)) 0

/-- The flags of a field and what follows them. -/
def readFlags : List Char → Spec × List Char
  | '#' :: rest => let (spec, rest) := readFlags rest; ({ spec with alternate := true }, rest)
  | '-' :: rest => let (spec, rest) := readFlags rest; ({ spec with toLeft := true }, rest)
  | '+' :: rest => let (spec, rest) := readFlags rest; ({ spec with plus := true }, rest)
  | ' ' :: rest => let (spec, rest) := readFlags rest; ({ spec with space := true }, rest)
  | '0' :: rest => let (spec, rest) := readFlags rest; ({ spec with zeros := true }, rest)
  | rest => ({}, rest)

/-- The greatest width of a field, and the most digits in it. -/
def greatestWidth : Nat := 1 <<< 20

/-- A width that an argument gives, which counts in 32 bits. -/
def widthOf (n : Int) : Int :=
  let n := Int.bmod n UInt32.size
  if n < 0 then max n (-greatestWidth) else min n greatestWidth

/-- The width of a field and what follows it; a star takes it from the arguments. -/
def readWidth (f : Formatting) (spec : Spec) (text : List Char) : Formatting × Spec × List Char :=
  match text with
  | '*' :: rest =>
    let (n, f) := f.nextNumber leastNumber greatestNumber
    let n := widthOf n
    (f, { spec with width := n.natAbs, toLeft := spec.toLeft || decide (n < 0) }, rest)
  | _ =>
    let digits := text.takeWhile Char.isDigit
    (f, { spec with width := min (readNat digits) greatestWidth }, text.drop digits.length)

/-- The precision of a field and what follows it. -/
def readPrecision (f : Formatting) (spec : Spec) (text : List Char) :
    Formatting × Spec × List Char :=
  match text with
  | '.' :: '*' :: rest =>
    let (n, f) := f.nextNumber leastNumber greatestNumber
    let n := widthOf n
    (f, { spec with precision? := if n < 0 then none else some n.toNat }, rest)
  | '.' :: rest =>
    let digits := rest.takeWhile Char.isDigit
    (f, { spec with precision? := some (min (readNat digits) greatestWidth) },
      rest.drop digits.length)
  | _ => (f, spec, text)

/-- Writes the next argument as the letter of a field says. -/
def writeField (f : Formatting) (spec : Spec) (letter : Char) (directive : List Char) :
    Formatting :=
  let cut (text : List Char) : List Char :=
    match spec.precision? with
    | some n => text.take n
    | none => text
  match letter with
  | 's' =>
    let (argument?, f) := f.next
    f.write (spec.pad (cut (argument?.getD [])))
  | 'b' =>
    let (argument?, f) := f.next
    let argument := argument?.getD []
    let (text, ended) := readEscapes argument.length argument
    { f.write (spec.pad (cut text)) with ended }
  | 'c' =>
    let (argument?, f) := f.next
    f.write (spec.pad [((argument?.getD []).head?).getD '\x00'])
  | 'd' | 'i' =>
    let (n, f) := f.nextNumber leastNumber greatestNumber
    f.write (spec.signed n)
  | 'o' | 'u' | 'x' | 'X' =>
    let (n, f) := f.nextNumber (-greatestBits) greatestBits
    f.write (spec.unsigned letter (bits n))
  | 'e' | 'E' | 'f' | 'F' | 'g' | 'G' => f.writeFraction spec letter
  | _ => { f with fault? := some (.unknown directive) }

/-- Goes once over a format; the number bounds its characters. -/
def round : Nat → List Char → Formatting → Formatting
  | 0, _, f => f
  | _, [], f => f
  | fuel + 1, '\\' :: rest, f =>
    let (c, rest) := escapeFrom rest
    round fuel rest (f.write [c])
  | fuel + 1, '%' :: '%' :: rest, f => round fuel rest (f.write ['%'])
  | fuel + 1, '%' :: text, f =>
    let (spec, rest) := readFlags text
    let (f, spec, rest) := f.readWidth spec rest
    let (f, spec, rest) := f.readPrecision spec rest
    match rest with
    | [] => { f with fault? := some (.unfinished text) }
    | letter :: rest =>
      let f := f.writeField spec letter (text.take (text.length - rest.length))
      if f.ended || f.fault?.isSome then f else round fuel rest f
  | fuel + 1, c :: rest, f => round fuel rest (f.write [c])

/-- Goes over a format until the arguments are used up; the number bounds the rounds. -/
def rounds (format : List Char) : Nat → Formatting → Formatting
  | 0, f => f
  | left + 1, f =>
    let f := round format.length format { f with hasTaken := false }
    if f.ended || f.fault?.isSome || f.arguments.isEmpty || !f.hasTaken then f
    else rounds format left f

end Formatting

/-- What `printf` makes of a format and arguments. -/
def format (text : List Char) (args : List (List Char)) : Formatting :=
  Formatting.rounds text (args.length + 1) { arguments := args }

end Shell
end TemplateVariants
