import TemplateVariants.Shell.Pattern

/-!
# Fields

The expansion of a word is a row of pieces, which are then parted into fields: a character from an
expansion outside of quotes parts them if it is one of the separators. Blank separators count
together as one; each other separator ends a field, which may be empty.
-/

namespace TemplateVariants
namespace Shell

/-- A piece of an expanded word. `splits` marks a character that may part fields, `hollow` is a
field that is there though it has no character, and `boundary` parts two arguments of the script. An
`edge` stands where something starts that is parted by itself: the arguments in quotes, or what is
not in quotes. -/
inductive Piece where
  | char (c : Char) (isQuoted splits : Bool)
  | hollow
  | boundary
  | edge (isQuoted : Bool)
deriving DecidableEq, Repr

/-- The separators if none are set. -/
def defaultSeparators : List Char := [' ', '\t', '\n']

def isBlankSeparator (c : Char) : Bool :=
  c == ' ' || c == '\t' || c == '\n'

/-- Fields as far as they have been parted, held backwards; `afterBlank` tells whether a blank
separator has just ended one, so that the next separator goes with it. In what stands right after
the arguments in quotes, blank separators are like all others. -/
structure Splitting where
  fields : List Glyphs := []
  current? : Option Glyphs := none
  afterBlank : Bool := false
  inArguments : Bool := false
  afterArguments : Bool := false

namespace Splitting

def finish (s : Splitting) : Splitting :=
  match s.current? with
  | none => s
  | some field => { s with fields := field.reverse :: s.fields, current? := none }

/-- Ends a field, which may be empty. -/
def endField (s : Splitting) : Splitting :=
  { s with current? := some (s.current?.getD []) }.finish

/-- A blank separator ends a field that has begun. -/
def blank (s : Splitting) : Splitting :=
  if s.afterArguments then s.endField
  else if s.current?.isSome then { s.finish with afterBlank := true }
  else s

def step (separators : List Char) (s : Splitting) (piece : Piece) : Splitting :=
  match piece with
  | .char c isQuoted splits =>
    if splits && separators.contains c then
      if isBlankSeparator c then s.blank
      else if s.afterBlank then { s with afterBlank := false }
      else s.endField
    else { s with current? := some ((c, isQuoted) :: s.current?.getD []), afterBlank := false }
  | .hollow => { s with current? := some (s.current?.getD []), afterBlank := false }
  | .boundary => s.blank
  | .edge isQuoted =>
    { s with afterBlank := false, inArguments := isQuoted, afterArguments := s.inArguments }

end Splitting

/-- The fields of an expanded word. -/
def fieldsOf (separators : List Char) (pieces : List Piece) : List Glyphs :=
  (pieces.foldl (Splitting.step separators) {}).finish.fields.reverse

/-- The characters of an expanded word that is one field. -/
def glyphsOf (pieces : List Piece) : Glyphs :=
  pieces.filterMap fun piece =>
    match piece with
    | .char c isQuoted _ => some (c, isQuoted)
    | .hollow => none
    | .boundary => some (' ', true)
    | .edge _ => none

def textOf (pieces : List Piece) : List Char :=
  (glyphsOf pieces).map Prod.fst

/-- The pieces of a value: in quotes they are one field, else they may be parted. -/
def piecesOf (inQuotes : Bool) (text : List Char) : List Piece :=
  if !inQuotes then .edge false :: text.map (.char · false true)
  else if text.isEmpty then [.hollow]
  else text.map (.char · true false)

/-- The pieces of a word that stands for a value outside of quotes: what has not been quoted may be
parted; `isInside` tells whether such text goes on. -/
def asValue (isInside : Bool) : List Piece → List Piece
  | [] => []
  | .char c false false :: pieces =>
    (if isInside then [] else [.edge false]) ++ .char c false true :: asValue true pieces
  | piece :: pieces => piece :: asValue false pieces

/-- The pieces of several values, each a field of its own. -/
def piecesOfAll (inQuotes : Bool) (values : List (List Char)) : List Piece :=
  let pieces (value : List Char) : List Piece :=
    if inQuotes then .hollow :: value.map (.char · true false)
    else value.map (.char · false true)
  .edge inQuotes :: ((values.map pieces).intersperse [.boundary]).flatten

end Shell
end TemplateVariants
