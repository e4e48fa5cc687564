import TemplateVariants.Shell.Format
import TemplateVariants.Utility.Options
import TemplateVariants.Utility.Quoting
import TemplateVariants.Utility.Translate

/-!
# Writing arguments

`echo` writes its arguments on a line, and `yes` does so again and again, until nobody reads on;
`printf` writes them as a format says.
-/

namespace TemplateVariants
namespace Speech

/-- Whether an argument is made of the letters of options. -/
def isOption (arg : Octets) : Bool :=
  match arg with
  | '-' :: c :: cs => (c :: cs).all "neE".toList.contains
  | _ => false

/-- The value of some digits in a base. -/
def valueOf (base : Nat) (digits : Octets) : Nat :=
  digits.foldl
    (fun n c =>
      let digit := if c.isDigit then c.toNat - '0'.toNat else c.toLower.toNat - 'a'.toNat + 10
      base * n + digit)
    0

def isHex (c : Char) : Bool :=
  c.isDigit || (decide ('a' ≤ c.toLower) && decide (c.toLower ≤ 'f'))

/-- A text with its backslashes read, and whether it ends the output; the number bounds it. -/
def unescape : Nat → Octets → Octets × Bool
  | 0, _ => ([], false)
  | _, [] => ([], false)
  | fuel + 1, '\\' :: c :: rest =>
    let then_ (d : Char) (rest : Octets) : Octets × Bool :=
      let (text, ends) := unescape fuel rest
      (d :: text, ends)
    let digits (most : Nat) (test : Char → Bool) (rest : Octets) : Octets :=
      (rest.takeWhile test).take most
    match c with
    | '\\' => then_ '\\' rest
    | 'a' => then_ '\x07' rest
    | 'b' => then_ '\x08' rest
    | 'c' => ([], true)
    | 'e' => then_ '\x1b' rest
    | 'f' => then_ '\x0c' rest
    | 'n' => then_ '\n' rest
    | 'r' => then_ '\r' rest
    | 't' => then_ '\t' rest
    | 'v' => then_ '\x0b' rest
    | '0' =>
      let found := digits 3 Translate.isOctal rest
      then_ (Char.ofNat (valueOf 8 found % 256)) (rest.drop found.length)
    | 'x' =>
      let found := digits 2 isHex rest
      if found.isEmpty then
        let (text, ends) := unescape fuel rest
        ('\\' :: 'x' :: text, ends)
      else then_ (Char.ofNat (valueOf 16 found)) (rest.drop found.length)
    | _ =>
      if Translate.isOctal c then
        let found := digits 3 Translate.isOctal (c :: rest)
        then_ (Char.ofNat (valueOf 8 found % 256)) ((c :: rest).drop found.length)
      else
        let (text, ends) := unescape fuel rest
        ('\\' :: c :: text, ends)
  | fuel + 1, c :: rest =>
    let (text, ends) := unescape fuel rest
    (c :: text, ends)

/-- What `printf` says of an argument that is no number. -/
def misreadText (misread : Shell.Misread) : String :=
  match misread with
  | .isPartial => "value not completely converted"
  | .isNone => "expected a numeric value"
  | .isTooLarge => "Numerical result out of range"

/-- The directive of a format that cannot be followed. -/
def directiveOf (fault : Shell.FormatFault) : Octets :=
  match fault with
  | .unknown directive | .unfinished directive => '%' :: directive

/-- How much `yes` writes before it counts as unread. -/
def room : Nat := 1 <<< 20

end Speech

def echo : Utility := fun call =>
  let options := call.arguments.takeWhile Speech.isOption
  let words := call.arguments.drop options.length
  let letters := options.flatMap (·.drop 1)
  let escapes := (letters.reverse.find? (· ≠ 'n')) = some 'e'
  let text := List.intercalate [' '] words
  let (text, ends) := if escapes then Speech.unescape text.length text else (text, false)
  { call.done with output := if ends ∨ letters.contains 'n' then text else text ++ ['\n'] }

def printf : Utility := fun call =>
  let arguments :=
    match call.arguments with
    | ['-', '-'] :: rest => rest
    | rest => rest
  match arguments with
  | [] => call.refuseUsage (Text.octets "missing operand")
  | text :: arguments =>
    let f := Shell.format text arguments
    let complaints := f.complaints.reverse.map fun (argument, misread) =>
      Quoting.quoteName argument ++ Text.octets (": " ++ Speech.misreadText misread)
    let fault := f.fault?.toList.map fun fault =>
      Speech.directiveOf fault ++ Text.octets ": invalid conversion specification"
    let excess :=
      match f.fault?, f.ended, f.arguments with
      | none, false, argument :: _ =>
        [Text.octets "warning: ignoring excess arguments, starting with " ++
          Quoting.quoteName argument]
      | _, _, _ => []
    { call.done (if complaints.isEmpty ∧ fault.isEmpty then 0 else 1) with
      output := f.written.reverse
      errors := (complaints ++ fault ++ excess).flatMap call.complaint }

def yes : Utility := fun call =>
  let words :=
    match call.arguments with
    | ['-', '-'] :: words => words
    | words => words
  match words.find? fun word => word.head? = some '-' ∧ 1 < word.length with
  | some word =>
    let what :=
      if word[1]? = some '-' then Text.octets "unrecognized option " ++ OptionTable.quote word
      else Text.octets "invalid option -- " ++ OptionTable.quote (word.drop 1 |>.take 1)
    call.refuseUsage what
  | none =>
    let line := (if words.isEmpty then ['y'] else List.intercalate [' '] words) ++ ['\n']
    { call.done 141 with
      output := (List.replicate (Speech.room / line.length + 1) line).flatten
      signal? := some 13 }

end TemplateVariants
