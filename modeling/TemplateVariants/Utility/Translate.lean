import TemplateVariants.Shell.Pattern
import TemplateVariants.Utility.Options
import TemplateVariants.Utility.Quoting

/-!
# Translating characters

`tr` replaces, deletes or squeezes the characters of its input. A set of characters is written as a
list, with ranges, classes that have a name, and repetitions.
-/

namespace TemplateVariants
namespace Translate

/-- All bytes. -/
def allOctets : Octets :=
  (List.range 256).map Char.ofNat

def isOctal (c : Char) : Bool :=
  decide ('0' ≤ c) && decide (c ≤ '7')

/-- The character that a text starts with, a backslash having been read, and the rest. -/
def escaped (text : Octets) : Char × Octets :=
  match text with
  | [] => ('\\', [])
  | c :: rest =>
    let digits := (text.takeWhile isOctal).take 3
    if !digits.isEmpty then
      let n := digits.foldl (fun n d => 8 * n + (d.toNat - '0'.toNat)) 0
      if n < 256 then (Char.ofNat n, text.drop digits.length)
      else (Char.ofNat (n / 8), text.drop 2)
    else
      match c with
      | 'a' => ('\x07', rest)
      | 'b' => ('\x08', rest)
      | 'f' => ('\x0c', rest)
      | 'n' => ('\n', rest)
      | 'r' => ('\r', rest)
      | 't' => ('\t', rest)
      | 'v' => ('\x0b', rest)
      | _ => (c, rest)

/-- The characters of a set with whether each has been escaped; the number bounds them. -/
def unescape : Nat → Octets → Shell.Glyphs
  | 0, _ => []
  | _, [] => []
  | fuel + 1, '\\' :: rest =>
    let (c, rest) := escaped rest
    (c, true) :: unescape fuel rest
  | fuel + 1, c :: rest => (c, false) :: unescape fuel rest

/-- A part of a set: characters, those of a class, those that count as the same as one, or one that
is repeated so often, or as often as is needed. -/
inductive Part where
  | chars (cs : Octets)
  | named (isCase : Bool) (cs : Octets)
  | same (c : Char)
  | repeated (c : Char) (count? : Option Nat)

/-- The repetition that the text after a bracket spells, and the rest. -/
def repeated? (glyphs : Shell.Glyphs) : Option (Part × Shell.Glyphs) :=
  match glyphs with
  | (c, _) :: ('*', false) :: rest =>
    let digits := (rest.takeWhile fun g => g.1.isDigit).map Prod.fst
    match rest.drop digits.length with
    | (']', false) :: after =>
      let base := if digits.head? = some '0' then 8 else 10
      let n := digits.foldl (fun n d => base * n + (d.toNat - '0'.toNat)) 0
      some (.repeated c (if n = 0 then none else some n), after)
    | _ => none
  | _ => none

/-- The parts of a set; the number bounds them. -/
def partsFrom : Nat → Shell.Glyphs → Except Octets (List Part)
  | 0, _ => .ok []
  | _, [] => .ok []
  | fuel + 1, ('[', false) :: (':', false) :: rest =>
    let name := (rest.takeWhile fun g => g.1 != ':').map Prod.fst
    match rest.drop name.length with
    | _ :: (']', false) :: after =>
      match Shell.namedClass? (String.ofList name) with
      | some test => do
        let isCase := ["upper", "lower"].contains (String.ofList name)
        return .named isCase (allOctets.filter test) :: (← partsFrom fuel after)
      | none => .error (Text.octets "invalid character class " ++ Quoting.quoteText name)
    | _ => do return .chars ['['] :: (← partsFrom fuel ((':', false) :: rest))
  | fuel + 1, ('[', false) :: ('=', false) :: (c, _) :: ('=', false) :: (']', false) :: rest => do
    return .same c :: (← partsFrom fuel rest)
  | fuel + 1, (c, isQuoted) :: rest =>
    match if c = '[' ∧ !isQuoted then repeated? rest else none with
    | some (part, after) => do return part :: (← partsFrom fuel after)
    | none =>
      match rest with
      | ('-', false) :: (d, _) :: after =>
        if d < c then
          .error (Text.octets "range-endpoints of " ++ OptionTable.quote [c, '-', d] ++
            Text.octets " are in reverse collating sequence order")
        else do
          let range := (List.range (d.toNat - c.toNat + 1)).map fun n => Char.ofNat (c.toNat + n)
          return .chars range :: (← partsFrom fuel after)
      | _ => do return .chars [c] :: (← partsFrom fuel rest)

def parts (set : Octets) : Except Octets (List Part) :=
  partsFrom set.length (unescape set.length set)

def Part.size : Part → Nat
  | .chars cs | .named _ cs => cs.length
  | .same _ => 1
  | .repeated _ count? => count?.getD 0

/-- The characters of a set that is to be at least so long; a repetition without a number fills it
up. -/
def expand (parts : List Part) (size : Nat) : Octets :=
  let missing := parts.foldl (fun missing part => missing - part.size) size
  parts.flatMap fun part =>
    match part with
    | .chars cs | .named _ cs => cs
    | .same c => [c]
    | .repeated c count? => List.replicate (count?.getD missing) c

/-- Replaces each character of the first set by the one at its place in the second, the last place
of which counts for it. -/
def replace (first second : Octets) (c : Char) : Char :=
  ((first.zip second).reverse.lookup c).getD c

/-- Drops the characters of a set that follow their like. -/
def squeeze (set : Octets) : Octets → Octets
  | [] => []
  | [c] => [c]
  | c :: d :: cs =>
    if c = d ∧ set.contains c then squeeze set (d :: cs) else c :: squeeze set (d :: cs)

structure Manner where
  complements : Bool := false
  deletes : Bool := false
  squeezes : Bool := false
  truncates : Bool := false

def table : OptionTable where
  shorts := "cCdst".toList.map fun c => (c, .nothing)
  longs :=
    [("complement", .nothing, 'c'), ("delete", .nothing, 'd'),
      ("squeeze-repeats", .nothing, 's'), ("truncate-set1", .nothing, 't')]

def Manner.set (m : Manner) (letter : Char) : Manner :=
  match letter with
  | 'c' | 'C' => { m with complements := true }
  | 'd' => { m with deletes := true }
  | 's' => { m with squeezes := true }
  | 't' => { m with truncates := true }
  | _ => m

/-- What a manner makes of a text with two sets. -/
def Manner.apply (m : Manner) (first : Octets) (second : List Part) (text : Octets) : Octets :=
  if m.deletes then
    let kept := text.filter (!first.contains ·)
    if m.squeezes then squeeze (expand second 0) kept else kept
  else
    let second := expand second first.length
    let second :=
      if m.truncates then second
      else second ++ List.replicate (first.length - second.length) (second.getLast?.getD ' ')
    let translated := text.map (replace first second)
    if m.squeezes then squeeze second translated else translated

/-- Why the operands do not do, if they do not. -/
def Manner.fault? (m : Manner) (operands : List Octets) : Option Octets :=
  let quoteLast := Quoting.quoteText (operands.getLast?.getD [])
  let needed := if m.deletes == m.squeezes then 2 else 1
  let allowed := if m.deletes && !m.squeezes then 1 else 2
  if operands.isEmpty then some (Text.octets "missing operand")
  else if operands.length < needed then
    let why :=
      if m.squeezes then "Two strings must be given when both deleting and squeezing repeats."
      else "Two strings must be given when translating."
    some (Text.octets "missing operand after " ++ quoteLast ++ Text.octets ("\n" ++ why))
  else
    match operands.drop allowed with
    | [] => none
    | extra :: _ =>
      let why :=
        if operands.length = 2 then
          "\nOnly one string may be given when deleting without squeezing repeats."
        else ""
      some (Text.octets "extra operand " ++ Quoting.quoteText extra ++ Text.octets why)

/-! ## Sets that do not go together -/

/-- Where the classes of capital and of small letters start in a set that is to be at least so
long. -/
def casePlaces (parts : List Part) (size : Nat) : List Nat :=
  let missing := parts.foldl (fun missing part => missing - part.size) size
  (parts.foldl
    (fun (place, places) part =>
      match part with
      | .named true cs => (place + cs.length, place :: places)
      | .repeated _ none => (place + missing, places)
      | part => (place + part.size, places))
    (0, [])).2

/-- Why two sets do not go together, where the first has so many characters in the end. -/
def Manner.conflict? (m : Manner) (first second : List Part) (size : Nat) : Option String :=
  let isClass : Part → Bool
    | .named _ _ => true
    | _ => false
  let isRestricted : Part → Bool
    | .named isCase _ => !isCase
    | _ => false
  let isSame : Part → Bool
    | .same _ => true
    | _ => false
  let isOpen : Part → Bool
    | .repeated _ none => true
    | _ => false
  let expanded := expand second size
  if 1 < (second.filter isOpen).length then
    some "only one [c*] repeat construct may appear in string2"
  else if m.deletes then
    if second.any isOpen then
      some "the [c*] construct may appear in string2 only when translating"
    else none
  else if second.any isSame then
    some "[=c=] expressions may not appear in string2 when translating"
  else if second.any isRestricted then
    some ("when translating, the only character classes that may appear in\n" ++
      "string2 are 'upper' and 'lower'")
  else if !m.complements ∧
      (casePlaces second size).any fun place =>
        decide (place ≤ size) && !(casePlaces first 0).contains place then
    some "misaligned [:upper:] and/or [:lower:] construct"
  else if expanded.length < size ∧ !m.truncates ∧ expanded.isEmpty then
    some "when not truncating set1, string2 must be non-empty"
  else if expanded.length < size ∧ !m.truncates ∧ (second.getLast?.map isClass).getD false then
    some ("when translating with string1 longer than string2,\n" ++
      "the latter string must not end with a character class")
  else
    let isOne := expanded.all fun c => expanded.head? == some c
    if m.complements ∧ first.any isClass ∧
        !(isOne && (expanded.length == size || (expanded.length < size && !m.truncates))) then
      some ("when translating with complemented character classes,\n" ++
        "string2 must map all characters in the domain to one")
    else none

/-- Why sets do not do, where the first has so many characters in the end. -/
def Manner.misfit? (m : Manner) (sets : List (List Part)) (size : Nat) : Option String :=
  let isOpen : Part → Bool
    | .repeated _ none => true
    | _ => false
  if (sets.headD []).any isOpen then
    some "the [c*] repeat construct may not appear in string1"
  else
    match sets with
    | [first, second] => m.conflict? first second size
    | _ => none

end Translate

def tr : Utility := fun call =>
  let read := Translate.table.read call.arguments
  let manner := read.settings.foldl (fun m setting => m.set setting.letter)
    ({} : Translate.Manner)
  match read.fault? <|> manner.fault? read.operands with
  | some what => call.refuseUsage what
  | none =>
    let sets := read.operands.mapM Translate.parts
    match sets with
    | .error what => call.refuse what
    | .ok sets =>
      let first := Translate.expand (sets.headD []) 0
      let first :=
        if manner.complements then Translate.allOctets.filter (!first.contains ·) else first
      let output (text : Octets) : Reply :=
        { call.done with output := text, unread := [] }
      match manner.misfit? sets first.length, sets with
      | some what, _ => call.refuse (Text.octets what)
      | none, [_, second] => output (manner.apply first second call.input)
      | none, _ =>
        output
          (if manner.deletes then manner.apply first [] call.input
            else Translate.squeeze first call.input)

end TemplateVariants
