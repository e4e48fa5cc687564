import TemplateVariants.Expand.Session

/-!
# Fresh identifiers

An identifier for a name is drawn until one comes up that is not taken: one of the candidates, the
name itself, a letter, or a stock name. When ten thousand draws in a row were taken, the name is
numbered instead, with the first number that gives a free identifier.
-/

namespace TemplateVariants
namespace Fresh

open Randomness

def stockNames : List String :=
  ["a_var", "variable", "my_var", "some_var", "new_var", "temp"]

/-- A candidate is preferred in one half of the draws. -/
def candidateChance : Nat := 1 <<< 63

def maxDraws : Nat := 10000

/-- The lower-case letter with the given number. -/
def letter (n : Nat) : String :=
  String.singleton (Char.ofNat ('a'.toNat + n % 26))

/-- The name followed by a number. -/
def numbered (name : String) (n : Nat) : String :=
  name ++ "_" ++ Nat.repr n

/-- The first numbered name from `n` on that is not taken; of the `tries` first ones each is
tested, and the one after them is the answer if all are taken. -/
def firstNumbered (taken : String → Bool) (name : String) (n : Nat) : Nat → String
  | 0 => numbered name n
  | tries + 1 =>
    if taken (numbered name n) then firstNumbered taken name (n + 1) tries else numbered name n

section Draws

variable {G : Type} [WordSource G]

/-- The name itself, a letter, or a stock name. -/
def drawStock (name : String) : Draw G String := do
  match ← Draw.below64 (stockNames.length + 2) with
  | 0 => return name
  | 1 => return letter (← Draw.belowWidest32 26)
  | i + 2 => return stockNames.getD i name

def drawName (name : String) (candidates : List String) : Draw G String := do
  match ← Draw.choose candidates with
  | none => drawStock name
  | some candidate =>
    if ← Draw.chance candidateChance then return candidate else drawStock name

/-- Draws until something comes up that is not taken, at most as often as the number says. -/
def drawFree (taken : String → Bool) (draw : Draw G String) : Nat → Draw G (Option String)
  | 0 => return none
  | tries + 1 => do
    let name ← draw
    if taken name then drawFree taken draw tries else return some name

/-- An identifier for the name that is not among those taken. -/
def identifier (taken : Std.HashSet String) (name : String) (candidates : List String) :
    Draw G String := do
  match ← drawFree taken.contains (drawName name candidates) maxDraws with
  | some drawn => return drawn
  | none => return firstNumbered taken.contains name 1 taken.size

end Draws

/-- The candidate that an argument gives: one hyphen at its start is dropped, and nothing is no
candidate. -/
def candidate? (text : String) : Option String :=
  let chars :=
    match text.toList with
    | '-' :: cs => cs
    | cs => cs
  if chars.isEmpty then none else some (String.ofList chars)

end Fresh
end TemplateVariants
