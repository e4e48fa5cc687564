import TemplateVariants.Text.Octets

/-!
# Regular expressions

A regular expression stands for the texts that it matches. It is matched at a position of a subject
and gives the places where a match may end, the preferred first; parts of the match are kept by the
numbers of their groups. A search takes the first position with a match and the longest match there.
-/

namespace TemplateVariants
namespace Regex

/-- What stands between two characters: a start or an end of the whole subject, of a line in it, or
of a word, or the inside or an edge of a word. -/
inductive Boundary where
  | textStart
  | textStop
  | lineStart
  | lineStop
  | wordStart
  | wordStop
  | wordEdge
  | noWordEdge
deriving DecidableEq, Repr

/-- A regular expression. A set lists ranges of characters; a repetition may have a greatest count;
`same` is the text that a group has matched. -/
inductive Node where
  | empty
  | char (c : Char)
  | any
  | set (isNegated : Bool) (ranges : List (Char × Char))
  | boundary (b : Boundary)
  | group (number : Nat) (body : Node)
  | both (first second : Node)
  | either (first second : Node)
  | repeated (body : Node) (least : Nat) (most? : Option Nat)
  | same (number : Nat)

instance : Inhabited Node := ⟨.empty⟩

/-- What is matched, and whether the case of letters counts and lines in it have starts and ends. -/
structure Subject where
  text : Array Char
  ignoresCase : Bool := false
  byLines : Bool := false

/-- A place in a subject, with what the groups have matched so far. -/
structure Place where
  position : Nat
  groups : List (Nat × Nat × Nat) := []
deriving DecidableEq, Repr

namespace Place

def group? (p : Place) (number : Nat) : Option (Nat × Nat) :=
  p.groups.lookup number

def setGroup (p : Place) (number start : Nat) : Place :=
  { p with groups := (number, start, p.position) :: p.groups.filter (·.1 != number) }

end Place

/-! ## Characters -/

def isWordChar (c : Char) : Bool :=
  c.isAlphanum || c == '_'

/-- The same letter in the other case. -/
def otherCase (c : Char) : Char :=
  if c.isUpper then c.toLower else c.toUpper

def inRanges (ranges : List (Char × Char)) (c : Char) : Bool :=
  ranges.any fun (first, last) => decide (first ≤ c) && decide (c ≤ last)

namespace Subject

def size (s : Subject) : Nat :=
  s.text.size

/-- The part of the text between two positions. -/
def slice (s : Subject) (start stop : Nat) : Octets :=
  (s.text.extract start stop).toList

def isSame (s : Subject) (a b : Char) : Bool :=
  a == b || (s.ignoresCase && a == otherCase b)

def isWordAt (s : Subject) (position : Nat) : Bool :=
  ((s.text[position]?).map isWordChar).getD false

def isWordBefore (s : Subject) (position : Nat) : Bool :=
  position != 0 && s.isWordAt (position - 1)

/-- Whether there is a boundary at a position. -/
def hasBoundary (s : Subject) (position : Nat) : Boundary → Bool
  | .textStart => position == 0
  | .textStop => position == s.size
  | .lineStart =>
    position == 0 || (s.byLines && s.text[position - 1]? == some '\n')
  | .lineStop => position == s.size || (s.byLines && s.text[position]? == some '\n')
  | .wordStart => !s.isWordBefore position && s.isWordAt position
  | .wordStop => s.isWordBefore position && !s.isWordAt position
  | .wordEdge => s.isWordBefore position != s.isWordAt position
  | .noWordEdge => s.isWordBefore position == s.isWordAt position

/-- The test of a single character that an expression makes, if it is one. -/
def test? (s : Subject) : Node → Option (Char → Bool)
  | .char c => some (s.isSame c)
  | .any => some fun _ => true
  | .set isNegated ranges =>
    some fun c =>
      (inRanges ranges c || (s.ignoresCase && inRanges ranges (otherCase c))) != isNegated
  | _ => none

end Subject

/-! ## Matching -/

/-- Places without those that come to the same position as one before them. -/
def distinct (places : List Place) : List Place :=
  (places.foldl
    (fun kept p => if kept.any (·.position == p.position) then kept else p :: kept)
    []).reverse

/-- How many characters from a position on pass a test, up to a bound. -/
def runLength (s : Subject) (test : Char → Bool) : Nat → Nat → Nat
  | 0, _ => 0
  | fuel + 1, position =>
    match s.text[position]? with
    | some c => if test c then runLength s test fuel (position + 1) + 1 else 0
    | none => 0

/-- The places after so many steps and more, those after more steps first; the number bounds the
steps, and `seen` are the positions that have been come to. -/
def iterate (step : Place → List Place) : Nat → Nat → List Nat → List Place → List Place
  | 0, _, _, places => places
  | fuel + 1, due, seen, places =>
    let next := distinct (places.flatMap step)
    if due = 0 then
      let fresh := next.filter fun p => !seen.contains p.position
      if fresh.isEmpty then places
      else iterate step fuel 0 (fresh.map (·.position) ++ seen) fresh ++ places
    else
      let reached := if due = 1 then next.map (·.position) else []
      if next.isEmpty then [] else iterate step fuel (due - 1) reached next

/-- The places where a match that starts at a place may end. -/
def ends (s : Subject) : Node → Place → List Place
  | .empty, p => [p]
  | .boundary b, p => if s.hasBoundary p.position b then [p] else []
  | .char c, p =>
    match s.text[p.position]? with
    | some d => if s.isSame c d then [{ p with position := p.position + 1 }] else []
    | none => []
  | .any, p => if p.position < s.size then [{ p with position := p.position + 1 }] else []
  | .set isNegated ranges, p =>
    match s.text[p.position]?, s.test? (.set isNegated ranges) with
    | some d, some test => if test d then [{ p with position := p.position + 1 }] else []
    | _, _ => []
  | .group number body, p => (ends s body p).map (·.setGroup number p.position)
  | .both first second, p => distinct ((ends s first p).flatMap (ends s second))
  | .either first second, p => distinct (ends s first p ++ ends s second p)
  | .same number, p =>
    match p.group? number with
    | none => []
    | some (start, stop) =>
      let text := s.slice start stop
      let here := s.slice p.position (p.position + text.length)
      if text.length = here.length ∧ (text.zip here).all fun (a, b) => s.isSame a b then
        [{ p with position := p.position + text.length }]
      else []
  | .repeated body least most?, p =>
    match s.test? body with
    | some test =>
      let count := runLength s test ((most?.getD (s.size + 1))) p.position
      if count < least then []
      else
        (List.range (count - least + 1)).map fun n =>
          { p with position := p.position + (count - n) }
    | none =>
      let steps := most?.getD (least + s.size + 1)
      iterate (ends s body) steps least (if least = 0 then [p.position] else []) [p]

/-- The place at the farthest position; of two at the same position it is the first. -/
def farthest (places : List Place) : Option Place :=
  places.foldl
    (fun best? p =>
      match best? with
      | none => some p
      | some best => if best.position < p.position then some p else best?)
    none

/-- The longest match that starts at a position, by its end. -/
def matchAt (node : Node) (s : Subject) (position : Nat) : Option Place :=
  farthest (ends s node { position })

/-- The first match that starts at a position or, of so many positions after it, at the first that
has one. -/
def searchFrom (node : Node) (s : Subject) : Nat → Nat → Option (Nat × Place)
  | 0, _ => none
  | fuel + 1, position =>
    match matchAt node s position with
    | some stop => some (position, stop)
    | none => searchFrom node s fuel (position + 1)

/-- The first match from a position on: where it starts and its end. -/
def search (node : Node) (s : Subject) (position : Nat) : Option (Nat × Place) :=
  searchFrom node s (s.size + 1 - position) position

end Regex
end TemplateVariants
