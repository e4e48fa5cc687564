import TemplateVariants.Utility.Options

/-!
# Bytes as text

`base64` writes three bytes as four characters of an alphabet, or reads such characters back; `od`
writes bytes as numbers or characters, after the place at which each line starts. Of lines with the
same bytes, `od` writes a star for all after the first.
-/

namespace TemplateVariants
namespace Encoding

/-! ## An alphabet of sixty-four characters -/

def alphabet : Octets :=
  "ABCDEFGHIJKLMNOPQRSTUVWXYZabcdefghijklmnopqrstuvwxyz0123456789+/".toList

def letter (n : Nat) : Char :=
  (alphabet[n % 64]?).getD 'A'

/-- Bytes in the alphabet, filled up with equals signs to fours. -/
def encode : Octets → Octets
  | a :: b :: c :: rest =>
    let n := a.toNat * 65536 + b.toNat * 256 + c.toNat
    letter (n / 262144) :: letter (n / 4096) :: letter (n / 64) :: letter n :: encode rest
  | [a, b] =>
    let n := a.toNat * 65536 + b.toNat * 256
    [letter (n / 262144), letter (n / 4096), letter (n / 64), '=']
  | [a] => [letter (a.toNat / 4), letter (a.toNat * 16), '=', '=']
  | [] => []

def valueOf? (c : Char) : Option Nat :=
  alphabet.idxOf? c

def byte (n : Nat) : Char :=
  Char.ofNat (n % 256)

/-- The bytes that fours of the alphabet stand for, and whether that is all; a start of four stands
for what it holds. -/
def decode : Octets → Octets × Bool
  | [] => ([], true)
  | [_] => ([], false)
  | a :: b :: rest =>
    match valueOf? a, valueOf? b with
    | some x, some y =>
      let first := byte (x * 4 + y / 16)
      match rest with
      | [] => ([first], false)
      | c :: rest =>
        match valueOf? c with
        | none =>
          match rest with
          | d :: rest =>
            if c = '=' ∧ d = '=' ∧ y % 16 = 0 then
              let (text, isWhole) := decode rest
              (first :: text, isWhole)
            else ([first], false)
          | [] => ([first], false)
        | some z =>
          let second := byte (y * 16 + z / 4)
          match rest with
          | [] => ([first, second], false)
          | d :: rest =>
            match valueOf? d with
            | some w =>
              let (text, isWhole) := decode rest
              (first :: second :: byte (z * 64 + w) :: text, isWhole)
            | none =>
              if d = '=' ∧ z % 4 = 0 then
                let (text, isWhole) := decode rest
                (first :: second :: text, isWhole)
              else ([first, second], false)
    | _, _ => ([], false)

def encodingTable : OptionTable where
  shorts := [('d', .nothing), ('i', .nothing), ('w', .value)]
  longs := [("decode", .nothing, 'd'), ("ignore-garbage", .nothing, 'i'), ("wrap", .value, 'w')]

/-- A text in lines of a width; the number bounds the lines. -/
def wrap (width : Nat) : Nat → Octets → Octets
  | 0, text => text
  | fuel + 1, text =>
    if text.isEmpty then []
    else text.take width ++ '\n' :: wrap width fuel (text.drop width)

/-! ## Dumps -/

/-- How a unit is written. -/
inductive Form where
  | number (base : Nat) (isSigned : Bool)
  | character
  | name

/-- A form with the bytes that a unit has and the columns that it takes, and whether the characters
are shown after the line. -/
structure Cell where
  form : Form
  size : Nat
  width : Nat
  shows : Bool := false

/-- How many numbers so many bytes can be. -/
def capacity (size : Nat) : Nat :=
  Nat.pow 256 size

/-- The columns of a number of so many bytes, with the blank before it and room for a sign. -/
def widthOf (base : Nat) (isSigned : Bool) (size : Nat) : Nat :=
  if isSigned then (Nat.toDigits base (capacity size / 2)).length + 2
  else (Nat.toDigits base (capacity size - 1)).length + 1

def numberCell (base : Nat) (isSigned : Bool) (size : Nat) : Cell :=
  { form := .number base isSigned, size, width := widthOf base isSigned size }

def valueOf (bytes : Octets) : Nat :=
  bytes.foldr (fun c n => 256 * n + c.toNat) 0

def controlNames : List String :=
  ["nul", "soh", "stx", "etx", "eot", "enq", "ack", "bel", "bs", "ht", "nl", "vt", "ff", "cr",
    "so", "si", "dle", "dc1", "dc2", "dc3", "dc4", "nak", "syn", "etb", "can", "em", "sub", "esc",
    "fs", "gs", "rs", "us", "sp"]

def padLeft (fill : Char) (width : Nat) (text : Octets) : Octets :=
  List.replicate (width - text.length) fill ++ text

def showCharacter (c : Char) : Octets :=
  match c with
  | '\x00' => ['\\', '0']
  | '\x07' => ['\\', 'a']
  | '\x08' => ['\\', 'b']
  | '\x0c' => ['\\', 'f']
  | '\n' => ['\\', 'n']
  | '\r' => ['\\', 'r']
  | '\t' => ['\\', 't']
  | '\x0b' => ['\\', 'v']
  | _ =>
    if decide (' ' ≤ c) && decide (c ≤ '~') then [c]
    else padLeft '0' 3 (Nat.toDigits 8 c.toNat)

def Cell.text (u : Cell) (bytes : Octets) : Octets :=
  match u.form with
  | .character => showCharacter (bytes.headD ' ')
  | .name =>
    let code := (bytes.headD ' ').toNat % 128
    match controlNames[code]? with
    | some name => name.toList
    | none => if code = 127 then "del".toList else [Char.ofNat code]
  | .number base isSigned =>
    let n := valueOf bytes
    let size := capacity u.size
    if base = 10 then
      if isSigned ∧ size / 2 ≤ n then '-' :: Nat.toDigits 10 (size - n) else Nat.toDigits 10 n
    else padLeft '0' (u.width - 1) (Nat.toDigits base n)

/-- Parts of a list of so many members; the number bounds them. -/
def chunks (size : Nat) : Nat → Octets → List Octets
  | 0, _ => []
  | _, [] => []
  | fuel + 1, text => text.take size :: chunks size fuel (text.drop size)

structure Dump where
  units : List Cell := []
  base? : Option Nat := some 8
  skipped : Nat := 0
  most? : Option Nat := none
  width : Nat := 16
  showsAll : Bool := false
  fault? : Option Octets := none

def dumpTable : OptionTable where
  shorts := [('A', .value), ('j', .value), ('N', .value), ('t', .value), ('v', .nothing),
    ('w', .optional), ('a', .nothing), ('b', .nothing), ('c', .nothing), ('d', .nothing),
    ('i', .nothing), ('l', .nothing), ('o', .nothing), ('s', .nothing), ('x', .nothing),
    ('h', .nothing)]
  longs :=
    [("address-radix", .value, 'A'), ("skip-bytes", .value, 'j'), ("read-bytes", .value, 'N'),
      ("format", .value, 't'), ("output-duplicates", .nothing, 'v'), ("width", .optional, 'w')]

/-- The units that a text of types spells; the number bounds it. -/
def unitsFrom (whole : Octets) : Nat → Octets → Except Octets (List Cell)
  | 0, _ => .ok []
  | _, [] => .ok []
  | fuel + 1, c :: rest =>
    let next (make : Nat → Cell) (usual : Nat) (rest : Octets) : Except Octets (List Cell) :=
      let digits := rest.takeWhile Char.isDigit
      let (size, rest) : Nat × Octets :=
        match digits, rest with
        | [], 'C' :: rest => (1, rest)
        | [], 'S' :: rest => (2, rest)
        | [], 'I' :: rest => (4, rest)
        | [], 'L' :: rest => (8, rest)
        | [], rest => (usual, rest)
        | _, rest => ((numberOf? digits).getD usual, rest.drop digits.length)
      let (shows, rest) :=
        match rest with
        | 'z' :: rest => (true, rest)
        | rest => (false, rest)
      if [1, 2, 4, 8].contains size then
        (unitsFrom whole fuel rest).map fun units => { make size with shows } :: units
      else
        .error (Text.octets "invalid type string " ++ OptionTable.quote whole ++
          Text.octets (";\nthis system doesn't provide a " ++ Nat.repr size ++
            "-byte integral type"))
    match c with
    | 'x' => next (numberCell 16 false) 4 rest
    | 'o' => next (numberCell 8 false) 4 rest
    | 'u' => next (numberCell 10 false) 4 rest
    | 'd' => next (numberCell 10 true) 4 rest
    | 'c' => next (fun _ => { form := .character, size := 1, width := 4 }) 1 rest
    | 'a' => next (fun _ => { form := .name, size := 1, width := 4 }) 1 rest
    | _ =>
      .error (Text.octets "invalid character " ++ OptionTable.quote [c] ++
        Text.octets " in type string " ++ OptionTable.quote whole)

def Dump.addUnits (d : Dump) (units : List Cell) : Dump :=
  { d with units := d.units ++ units }

def Dump.fail (d : Dump) (what : Octets) : Dump :=
  { d with fault? := d.fault? <|> some what }

def Dump.set (d : Dump) (setting : Setting) : Dump :=
  let value := setting.value
  let counted (option : String) (next : Nat → Dump) : Dump :=
    match numberOf? value with
    | some n => next n
    | none => d.fail (Text.octets ("invalid " ++ option ++ " argument ") ++ OptionTable.quote value)
  match setting.letter with
  | 'A' =>
    match value with
    | ['d'] => { d with base? := some 10 }
    | ['o'] => { d with base? := some 8 }
    | ['x'] => { d with base? := some 16 }
    | ['n'] => { d with base? := none }
    | _ =>
      d.fail (Text.octets "invalid output address radix " ++ OptionTable.quote value ++
        Text.octets "; it must be one character from [doxn]")
  | 'j' => counted "-j" fun n => { d with skipped := n }
  | 'N' => counted "-N" fun n => { d with most? := some n }
  | 'w' =>
    if value.isEmpty then { d with width := 32 } else counted "-w" fun n => { d with width := n }
  | 'v' => { d with showsAll := true }
  | 't' =>
    match unitsFrom value value.length value with
    | .ok units => d.addUnits units
    | .error what => d.fail what
  | 'a' => d.addUnits [{ form := .name, size := 1, width := 4 }]
  | 'b' => d.addUnits [numberCell 8 false 1]
  | 'c' => d.addUnits [{ form := .character, size := 1, width := 4 }]
  | 'd' => d.addUnits [numberCell 10 false 2]
  | 'i' => d.addUnits [numberCell 10 true 4]
  | 'l' => d.addUnits [numberCell 10 true 8]
  | 'o' => d.addUnits [numberCell 8 false 2]
  | 's' => d.addUnits [numberCell 10 true 2]
  | _ => d.addUnits [numberCell 16 false 2]

/-- The columns that eight bytes take, which is where the units of all forms meet. -/
def Dump.blockWidth (d : Dump) : Nat :=
  (d.units.map fun u => 8 / u.size * u.width).foldl max 0

/-- A line of units: each has its share of the columns of eight bytes. -/
def Dump.unitLine (d : Dump) (u : Cell) (bytes : Octets) : Octets :=
  let count := 8 / u.size
  let extra := d.blockWidth - count * u.width
  let cells := (chunks u.size bytes.length bytes).mapIdx fun i part =>
    let place := i % count
    let before := extra * (count - place) / count - extra * (count - place - 1) / count
    List.replicate before ' ' ++ padLeft ' ' u.width (u.text part)
  cells.flatten

def Dump.address (d : Dump) (position : Nat) : Octets :=
  match d.base? with
  | none => []
  | some base => padLeft '0' (if base = 16 then 6 else 7) (Nat.toDigits base position)

/-- The lines for the bytes from a position on. -/
def Dump.block (d : Dump) (position : Nat) (bytes : Octets) : Octets :=
  (d.units.mapIdx fun i u =>
    let front := if i = 0 then d.address position
      else List.replicate (d.address position).length ' '
    let cells := d.unitLine u bytes
    let shown :=
      if u.shows then
        let full := d.width / 8 * d.blockWidth
        List.replicate (full - cells.length) ' ' ++ "  >".toList ++
          bytes.map (fun c => if decide (' ' ≤ c) && decide (c ≤ '~') then c else '.') ++ ['<']
      else []
    front ++ cells ++ shown ++ ['\n']).flatten

/-- The lines of parts of a text from a position on, given the part before them and whether a star
stands for it. -/
def Dump.lines (d : Dump) : Nat → Option Octets → Bool → List Octets → Octets
  | _, _, _, [] => []
  | position, before?, starred, part :: parts =>
    if !d.showsAll ∧ before? = some part ∧ (!parts.isEmpty ∨ part.length = d.width) then
      (if starred then [] else ['*', '\n']) ++
        d.lines (position + part.length) before? true parts
    else d.block position part ++ d.lines (position + part.length) (some part) false parts

end Encoding

open Encoding in
def base64 : Utility := fun call =>
  let read := encodingTable.read call.arguments
  let width? := (read.settings.reverse.find? (·.letter = 'w')).map (·.value)
  match read.fault?, width?.map fun text => (text, numberOf? text), read.operands with
  | some fault, _, _ => call.refuseUsage fault
  | none, some (text, none), _ =>
    call.refuse (Text.octets "invalid wrap size: " ++ OptionTable.quote text)
  | none, _, _ :: extra :: _ =>
    call.refuseUsage (Text.octets "extra operand " ++ OptionTable.quote extra)
  | none, width?, operands =>
    let inputs := call.inputs operands fun operand reason => operand ++ Text.octets (": " ++ reason)
    let text := inputs.texts.flatMap Prod.snd
    if read.settings.any (·.letter = 'd') then
      let ignores := read.settings.any (·.letter = 'i')
      let kept := text.filter fun c =>
        if ignores then (valueOf? c).isSome || c == '=' else c != '\n'
      let (bytes, isWhole) := decode kept
      let reply := call.replyWith inputs bytes
      if isWhole then reply else reply.complain call (Text.octets "invalid input")
    else
      let width := (width?.bind (·.2)).getD 76
      let encoded := encode text
      call.replyWith inputs (if width = 0 then encoded else wrap width (encoded.length + 1) encoded)

open Encoding in
def od : Utility := fun call =>
  let read := dumpTable.read call.arguments
  let d := read.settings.foldl Dump.set {}
  match read.fault?, d.fault? with
  | some what, _ => call.refuseUsage what
  | none, some what => call.refuse what
  | none, none =>
    let d := if d.units.isEmpty then { d with units := [numberCell 8 false 2] } else d
    let inputs := call.inputs read.operands fun operand reason =>
      operand ++ Text.octets (": " ++ reason)
    let text := (inputs.texts.flatMap Prod.snd).drop d.skipped
    let text := match d.most? with
      | some n => text.take n
      | none => text
    let parts := chunks (max d.width 1) text.length text
    let last :=
      match d.base? with
      | none => []
      | some _ => d.address (d.skipped + text.length) ++ ['\n']
    if inputs.texts.isEmpty ∧ !inputs.complaints.isEmpty then call.replyWith inputs []
    else call.replyWith inputs (d.lines d.skipped none false parts ++ last)

end TemplateVariants
