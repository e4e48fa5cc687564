/-!
# Patterns

The patterns of file names and of case distinctions: a star stands for any text, a question mark for
any character, and brackets for one of the characters that they list. A character that has been
quoted stands for itself.
-/

namespace TemplateVariants
namespace Shell

/-- The characters of a pattern; with each, whether it has been quoted. -/
abbrev Glyphs := List (Char × Bool)

/-- What one member of a bracket lists. -/
inductive Member where
  | range (first last : Char)
  | named (test : Char → Bool)

def Member.has (c : Char) : Member → Bool
  | .range first last => decide (first ≤ c) && decide (c ≤ last)
  | .named test => test c

/-- An item of a pattern. -/
inductive Item where
  | one (c : Char)
  | any
  | many
  | listed (isNegated : Bool) (members : List Member)

def Item.has (item : Item) (c : Char) : Bool :=
  match item with
  | .one d => c == d
  | .any | .many => true
  | .listed isNegated members => (members.any (·.has c)) != isNegated

/-! ## Reading -/

/-- The classes of characters that have a name. -/
def namedClass? : String → Option (Char → Bool)
  | "alpha" => some Char.isAlpha
  | "digit" => some Char.isDigit
  | "alnum" => some Char.isAlphanum
  | "upper" => some Char.isUpper
  | "lower" => some Char.isLower
  | "space" => some fun c => c == ' ' || (decide ('\t' ≤ c) && decide (c ≤ '\r'))
  | "blank" => some fun c => c == ' ' || c == '\t'
  | "punct" => some fun c => decide ('!' ≤ c) && decide (c ≤ '~') && !c.isAlphanum
  | "print" => some fun c => decide (' ' ≤ c) && decide (c ≤ '~')
  | "graph" => some fun c => decide ('!' ≤ c) && decide (c ≤ '~')
  | "cntrl" => some fun c => decide (c < ' ') || c == '\x7f'
  | "xdigit" => some fun c =>
      c.isDigit || (decide ('a' ≤ c) && decide (c ≤ 'f')) || (decide ('A' ≤ c) && decide (c ≤ 'F'))
  | _ => none

/-- The class that the text after `[:` names, and what follows its `:]`. -/
def readClass? (glyphs : Glyphs) : Option (Member × Glyphs) :=
  let isLetter (g : Char × Bool) : Bool := g.1.isAlpha
  match glyphs.dropWhile isLetter with
  | (':', _) :: (']', _) :: rest =>
    (namedClass? (String.ofList ((glyphs.takeWhile isLetter).map Prod.fst))).map
      fun test => (.named test, rest)
  | _ => none

/-- The members of a bracket up to its end, and what follows; `first` tells whether a closing
bracket is still a member. -/
def readMembers? : Nat → Bool → Glyphs → Option (List Member × Glyphs)
  | 0, _, _ => none
  | _, _, [] => none
  | fuel + 1, first, (c, isQuoted) :: rest =>
    if c = ']' ∧ !isQuoted ∧ !first then some ([], rest)
    else
      let (c, rest) :=
        match c, isQuoted, rest with
        | '\\', false, (d, _) :: after => (d, after)
        | _, _, _ => (c, rest)
      let single :=
        match rest with
        | ('-', false) :: (d, dQuoted) :: after =>
          if d = ']' ∧ !dQuoted then
            (readMembers? fuel false rest).map fun (ms, rest) => (.range c c :: ms, rest)
          else (readMembers? fuel false after).map fun (ms, rest) => (.range c d :: ms, rest)
        | _ => (readMembers? fuel false rest).map fun (ms, rest) => (.range c c :: ms, rest)
      match c, isQuoted, rest with
      | '[', false, (':', _) :: after =>
        match readClass? after with
        | some (m, rest) => (readMembers? fuel false rest).map fun (ms, rest) => (m :: ms, rest)
        | none => single
      | _, _, _ => single

/-- The bracket whose inside the characters start with, and what follows it. -/
def readBracket? (glyphs : Glyphs) : Option (Item × Glyphs) :=
  let (isNegated, inside) :=
    match glyphs with
    | ('!', false) :: rest => (true, rest)
    | ('^', false) :: rest => (true, rest)
    | _ => (false, glyphs)
  (readMembers? (inside.length + 1) true inside).map
    fun (members, rest) => (.listed isNegated members, rest)

/-- The items of a pattern; the number bounds them. -/
def itemsFrom : Nat → Glyphs → List Item
  | 0, _ => []
  | _, [] => []
  | fuel + 1, (c, isQuoted) :: rest =>
    if isQuoted then .one c :: itemsFrom fuel rest
    else
      match c with
      | '*' => .many :: itemsFrom fuel rest
      | '?' => .any :: itemsFrom fuel rest
      | '[' =>
        match readBracket? rest with
        | some (item, rest) => item :: itemsFrom fuel rest
        | none => .one '[' :: itemsFrom fuel rest
      | '\\' =>
        match rest with
        | (d, _) :: after => .one d :: itemsFrom fuel after
        | [] => [.one '\\']
      | _ => .one c :: itemsFrom fuel rest

def items (glyphs : Glyphs) : List Item :=
  itemsFrom glyphs.length glyphs

/-- Whether a pattern stands for more than one text. -/
def isPattern (glyphs : Glyphs) : Bool :=
  glyphs.any fun (c, isQuoted) => !isQuoted && (c == '*' || c == '?' || c == '[')

/-! ## Matching -/

/-- Whether the items match a whole text. The stars are tried from the left, the last one first. -/
def fits : List Item → List Char → Bool
  | [], text => text.isEmpty
  | .many :: items, text =>
    let rec fitsTail : List Char → Bool
      | [] => fits items []
      | c :: cs => fits items (c :: cs) || fitsTail cs
    fitsTail text
  | item :: items, text =>
    match text with
    | [] => false
    | c :: cs => item.has c && fits items cs

/-- Whether a text fits a pattern. -/
def Glyphs.fit (pattern : Glyphs) (text : List Char) : Bool :=
  fits (items pattern) text

/-- The ends of a text, the longest first. -/
def tailsOf : List Char → List (List Char)
  | [] => [[]]
  | c :: cs => (c :: cs) :: tailsOf cs

/-- Whether the text up to a NUL fits a pattern. -/
def Glyphs.fitBefore (pattern : Glyphs) (text : List Char) : Bool :=
  pattern.fit (text.takeWhile (· ≠ '\x00'))

/-- The text without the shortest or the longest end that fits, as far as there is no NUL in it; the
longest starts before the first NUL. -/
def trimEnd (pattern : Glyphs) (longest : Bool) (text : List Char) : List Char :=
  let candidates :=
    if longest then (tailsOf text).take ((text.takeWhile (· ≠ '\x00')).length + 1)
    else (tailsOf text).reverse
  match candidates.find? pattern.fitBefore with
  | some found => text.take (text.length - found.length)
  | none => text

/-- The text without the shortest or the longest start that fits, as far as there is no NUL in
it. -/
def trimStart (pattern : Glyphs) (longest : Bool) (text : List Char) : List Char :=
  let lengths := List.range (text.length + 1)
  let candidates := if longest then lengths.reverse else lengths
  match candidates.find? fun n => pattern.fitBefore (text.take n) with
  | some n => text.drop n
  | none => text

end Shell
end TemplateVariants
