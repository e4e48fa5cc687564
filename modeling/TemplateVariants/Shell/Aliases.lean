import TemplateVariants.Shell.State
import TemplateVariants.Storage.Permission

/-!
# Aliases and the mask

The built-in commands for words that stand for texts, and for the permissions that new files do not
get.
-/

namespace TemplateVariants
namespace Shell
namespace State

/-! ## Aliases -/

/-- Where an alias stands in a listing. -/
def aliasRank (name : String) : Nat :=
  let codes := (Text.octets name).map Char.toNat
  (16 * codes.headD 0 + codes.foldl (· + ·) 0) % 39

def aliasLine (entry : String × Octets) : Octets :=
  Text.octets entry.1 ++ '=' :: quoteValue entry.2 ++ ['\n']

/-- The aliases in the order of a listing. -/
def aliasListing (s : State) : Octets :=
  let sorted := s.aliases.mergeSort fun a b => decide (aliasRank a.1 ≤ aliasRank b.1)
  sorted.flatMap aliasLine

/-- Makes a word stand for a text; an alias that is there keeps its place. -/
def setAlias (s : State) (name : String) (text : Octets) : State :=
  if (s.aliases.lookup name).isSome then
    { s with aliases := s.aliases.map fun entry => if entry.1 = name then (name, text) else entry }
  else { s with aliases := s.aliases ++ [(name, text)] }

/-- Sets the aliases that come with a text, and tells the others. -/
def aliasing (s : State) (args : List Octets) : State :=
  match args with
  | [] => s.say s.aliasListing
  | _ =>
    args.foldl
      (fun s arg =>
        let name := arg.takeWhile (· ≠ '=')
        if !name.isEmpty ∧ arg.contains '=' then
          s.setAlias (String.ofList name) (arg.drop (name.length + 1))
        else
          match s.aliases.lookup (String.ofList arg) with
          | some text => s.write 1 (aliasLine (String.ofList arg, text))
          | none =>
            { s.write 2 (Text.octets "alias: " ++ arg ++ Text.octets " not found\n") with
              status := 1 })
      s.succeed

def unaliasing (s : State) (args : List Octets) : State :=
  match args with
  | ['-', 'a'] :: _ => { s.succeed with aliases := [] }
  | _ =>
    args.foldl
      (fun s arg =>
        let name := String.ofList arg
        if (s.aliases.lookup name).isSome then
          { s with aliases := s.aliases.filter (·.1 != name) }
        else
          { s.write 2 (Text.octets "unalias: " ++ arg ++ Text.octets " not found\n") with
            status := 1 })
      s.succeed

/-! ## The mask -/

/-- The permissions that a letter gives, where `given` are all that are given so far. -/
def permissionBits? (given : Nat) (c : Char) : Option Nat :=
  match c with
  | 'r' => some 4
  | 'w' => some 2
  | 'x' => some 1
  | 'u' => some (given >>> 6)
  | 'g' => some (given >>> 3)
  | 'o' => some given
  | 'X' => some (if given &&& 0o111 = 0 then 0 else 1)
  | 's' => some 0
  | _ => none

/-- The permissions after changes in letters; the number bounds the changes, and `classes` are those
that the next change is about. -/
def changePermissions (given : Nat) : Nat → Nat → List Char → Nat → Option Nat
  | 0, _, _, _ => none
  | _, _, [], permissions => some permissions
  | fuel + 1, classes, text, permissions =>
    let who := text.takeWhile (Permission.classBit? · |>.isSome)
    let classes := (who.filterMap Permission.classBit?).foldl (· ||| ·) classes
    let classes := if classes = 0 then 0o111 else classes
    match text.drop who.length with
    | [] => some permissions
    | op :: rest =>
      if !"=+-".toList.contains op then none
      else
        let what := rest.takeWhile (permissionBits? given · |>.isSome)
        let bits := (what.filterMap (permissionBits? given)).foldl (· ||| ·) 0 % 8 * classes
        let kept := permissions &&& (0o777 ^^^ 7 * classes)
        let permissions :=
          if op = '+' then permissions ||| bits
          else if op = '-' then permissions &&& (0o777 ^^^ bits)
          else kept ||| bits
        match rest.drop what.length with
        | [] => some permissions
        | ',' :: rest => changePermissions given fuel 0 rest permissions
        | rest => changePermissions given fuel classes rest permissions

/-- The permissions in letters. -/
def permissionText (permissions : Nat) : Octets :=
  let part (name : Char) (bits : Nat) : Octets :=
    [name, '='] ++ (if bits &&& 4 = 0 then [] else ['r']) ++
      (if bits &&& 2 = 0 then [] else ['w']) ++ (if bits &&& 1 = 0 then [] else ['x'])
  List.intercalate [',']
    [part 'u' (permissions >>> 6), part 'g' (permissions >>> 3), part 'o' permissions]

def masking (s : State) (args : List Octets) : State :=
  let given := 0o777 ^^^ (s.mask &&& 0o777)
  let set (word : Octets) : State :=
    if (word.head?.map Char.isDigit).getD false then
      if word.all fun c => '0' ≤ c ∧ c ≤ '7' then
        let n := word.foldl (fun n c => 8 * n + (c.toNat - '0'.toNat)) 0
        { s.succeed with mask := n &&& 0o777 }
      else s.reject (Text.octets "Illegal number: " ++ word) 2
    else
      match changePermissions given (word.length + 1) 0 word given with
      | some permissions => { s.succeed with mask := 0o777 ^^^ permissions }
      | none => s.reject (Text.octets "Illegal mode: " ++ word) 2
  match args with
  | [] =>
    let digits := Nat.toDigits 8 s.mask
    s.say (List.replicate (4 - digits.length) '0' ++ digits ++ ['\n'])
  | [['-', 'S']] => s.say (permissionText given ++ ['\n'])
  | ['-', '-'] :: word :: _ | ['-', 'S'] :: word :: _ => set word
  | ('-' :: letter :: _) :: _ => s.reject (Text.octets "Illegal option -" ++ [letter]) 2
  | word :: _ => set word

end State
end Shell
end TemplateVariants
