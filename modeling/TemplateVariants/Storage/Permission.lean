import TemplateVariants.Text.Octets

/-!
# Permissions

Permissions are bits: for the owner, the group and the others, each may read, write and run, and
three bits above these are for special cases. Changes to them are written as an octal number or in
letters: whose permissions, an operator, and which.
-/

namespace TemplateVariants
namespace Permission

/-- The bits of a class of users, one bit for each class. -/
def classBit? (c : Char) : Option Nat :=
  match c with
  | 'a' => some 0o111
  | 'u' => some 0o100
  | 'g' => some 0o010
  | 'o' => some 0o001
  | _ => none

def isOctal (c : Char) : Bool :=
  decide ('0' ≤ c) && decide (c ≤ '7')

def readOctal (text : Octets) : Nat :=
  text.foldl (fun n c => 8 * n + (c.toNat - '0'.toNat)) 0

/-- The permissions without some of them. -/
def without (permissions bits : Nat) : Nat :=
  permissions &&& (0o7777 ^^^ (bits &&& 0o7777))

/-- The bits that letters give to some classes, where a node has so many permissions and may be a
directory. -/
def letterBits (permissions : Nat) (isDirectory : Bool) (classes : Nat) (c : Char) : Option Nat :=
  match c with
  | 'r' => some (4 * classes)
  | 'w' => some (2 * classes)
  | 'x' => some classes
  | 'X' => some (if isDirectory ∨ permissions &&& 0o111 ≠ 0 then classes else 0)
  | 's' =>
    some ((if classes &&& 0o100 = 0 then 0 else 0o4000) +
      (if classes &&& 0o010 = 0 then 0 else 0o2000))
  | 't' => some 0o1000
  | 'u' => some (permissions / 0o100 % 8 * classes)
  | 'g' => some (permissions / 0o010 % 8 * classes)
  | 'o' => some (permissions % 8 * classes)
  | _ => none

/-- The permissions after changes in letters; the number bounds the changes, `mask` is what changes
for nobody in particular leave out, and `classes?` are the classes of the change at hand. -/
def changeFrom (mask : Nat) (isDirectory : Bool) :
    Nat → Option Nat → Octets → Nat → Option Nat
  | 0, _, _, _ => none
  | fuel + 1, classes?, text, permissions =>
    let who := text.takeWhile (classBit? · |>.isSome)
    let classes? :=
      if who.isEmpty then classes? else some ((who.filterMap classBit?).foldl (· ||| ·) 0)
    let classes := classes?.getD 0o111
    match text.drop who.length with
    | op :: rest =>
      if !"=+-".toList.contains op then none
      else
        let what := rest.takeWhile fun c => (letterBits permissions isDirectory classes c).isSome
        let given := (what.filterMap (letterBits permissions isDirectory classes)).foldl (· ||| ·) 0
        let bits := if classes?.isSome then given else without given mask
        let special := if isDirectory then 0 else
          (if classes &&& 0o100 = 0 then 0 else 0o4000) +
            (if classes &&& 0o010 = 0 then 0 else 0o2000)
        let next :=
          if op = '+' then permissions ||| bits
          else if op = '-' then without permissions bits
          else without permissions (7 * classes + special) ||| bits
        match rest.drop what.length with
        | [] => some next
        | ',' :: rest => changeFrom mask isDirectory fuel none rest next
        | c :: rest =>
          if (classBit? c).isSome then none
          else changeFrom mask isDirectory fuel classes? (c :: rest) next
    | [] => none

/-- The permissions after a change that a text spells. -/
def change? (mask : Nat) (isDirectory : Bool) (text : Octets) (permissions : Nat) : Option Nat :=
  if !text.isEmpty && text.all isOctal then
    let bits := readOctal text
    if 0o7777 < bits then none
    else if isDirectory ∧ text.length < 5 then some (permissions &&& 0o6000 ||| bits) else some bits
  else changeFrom mask isDirectory (text.length + 1) none text permissions

/-- The permissions as a listing of files shows them. -/
def text (permissions : Nat) : Octets :=
  let part (bits : Nat) (isSpecial : Bool) (mark : Char) : Octets :=
    let run :=
      match bits &&& 1 != 0, isSpecial with
      | true, true => mark
      | false, true => mark.toUpper
      | true, false => 'x'
      | false, false => '-'
    [if bits &&& 4 != 0 then 'r' else '-', if bits &&& 2 != 0 then 'w' else '-', run]
  part (permissions / 0o100) (permissions &&& 0o4000 != 0) 's' ++
    part (permissions / 0o010) (permissions &&& 0o2000 != 0) 's' ++
    part permissions (permissions &&& 0o1000 != 0) 't'

end Permission
end TemplateVariants
