import TemplateVariants.Utility.Copy

/-!
# Differences

`diff` tells how the lines of one file become those of another: which lines go and which come
instead, in as few lines as possible. Two directories are compared file by file.
-/

namespace TemplateVariants
namespace Difference

/-! ## Lines in common -/

/-- The row of lengths for one more line in front: for each rest of the second list, how many lines
it has in common with the first list. `below` is the row without the line. -/
def addRow (a : Octets) (bs : List Octets) (below : List Nat) : List Nat :=
  (bs.zip (below.zip below.tail)).foldr
    (fun (b, here, next) row => (if a = b then next + 1 else max here (row.headD 0)) :: row)
    [0]

/-- The rows for all rests of the first list, the whole list first. -/
def rows (as bs : List Octets) : Array (Array Nat) :=
  let lists := as.foldr (fun a rows => addRow a bs (rows.headD []) :: rows)
    [List.replicate (bs.length + 1) 0]
  (lists.map List.toArray).toArray

/-- A change: where it is in both files, how many lines go, and how many come. -/
structure Change where
  first : Nat
  second : Nat
  gone : Nat := 0
  come : Nat := 0

/-- A change that comes before others: it is one with the first of them if it reaches it. -/
def addChange (change : Change) (changes : List Change) : List Change :=
  match changes with
  | [] => [change]
  | next :: rest =>
    if change.first + change.gone = next.first ∧ change.second + change.come = next.second then
      { change with gone := change.gone + next.gone, come := change.come + next.come } :: rest
    else change :: next :: rest

/-- The changes that make one list of another; the positions are those of the lists in the files. -/
def changesFrom (rows : Array (Array Nat)) (shift : Nat) :
    Nat → Nat → Nat → List Octets → List Octets → List Change
  | 0, _, _, _, _ => []
  | _, _, _, [], [] => []
  | _, i, j, [], bs => [{ first := shift + i, second := shift + j, come := bs.length }]
  | _, i, j, as, [] => [{ first := shift + i, second := shift + j, gone := as.length }]
  | fuel + 1, i, j, a :: as, b :: bs =>
    let common (i j : Nat) : Nat := ((rows[i]?.getD #[])[j]?).getD 0
    if a = b then changesFrom rows shift fuel (i + 1) (j + 1) as bs
    else if common i (j + 1) ≤ common (i + 1) j then
      addChange { first := shift + i, second := shift + j, gone := 1 }
        (changesFrom rows shift fuel (i + 1) j as (b :: bs))
    else
      addChange { first := shift + i, second := shift + j, come := 1 }
        (changesFrom rows shift fuel i (j + 1) (a :: as) bs)

/-- How many lines two lists start with in common. -/
def commonFront : List Octets → List Octets → Nat
  | a :: as, b :: bs => if a = b then commonFront as bs + 1 else 0
  | _, _ => 0

/-- Moves changes of one kind down as far as the lines allow it, so that two that meet become one;
the number bounds the moves. -/
def settle (as bs : Array Octets) : Nat → List Change → List Change
  | 0, changes => changes
  | _, [] => []
  | fuel + 1, change :: changes =>
    let next? := changes.head?
    let isFree (next? : Option Change) : Bool :=
      (next?.map fun next => decide (change.first + change.gone < next.first)).getD true
    let slides :=
      isFree next? &&
        ((change.come == 0 && as[change.first]? == as[change.first + change.gone]? &&
            (as[change.first]?).isSome) ||
          (change.gone == 0 && bs[change.second]? == bs[change.second + change.come]? &&
            (bs[change.second]?).isSome))
    if slides then
      settle as bs fuel
        (addChange { change with first := change.first + 1, second := change.second + 1 } changes)
    else change :: settle as bs fuel changes

/-- The changes that make the second list of the first. -/
def changes (as bs : List Octets) : List Change :=
  let front := commonFront as bs
  let as' := as.drop front
  let bs' := bs.drop front
  let back := commonFront as'.reverse bs'.reverse
  let as' := as'.take (as'.length - back)
  let bs' := bs'.take (bs'.length - back)
  let found := changesFrom (rows as' bs') front (as'.length + bs'.length + 1) 0 0 as' bs'
  settle as.toArray bs.toArray (as.length + bs.length + 1) found

/-! ## Writing changes -/

/-- Lines after a mark; the end of a file without a line feed is told. -/
def marked (mark : Octets) (lines : List Octets) : Octets :=
  lines.flatMap fun line =>
    mark ++ line ++
      if line.getLast? = some '\n' then [] else Text.octets "\n\\ No newline at end of file\n"

def decimal (n : Nat) : Octets :=
  Nat.toDigits 10 n

/-- The numbers of the first and the last of some lines after a position. -/
def range (position count : Nat) : Octets :=
  if count ≤ 1 then decimal (position + count)
  else decimal (position + 1) ++ ',' :: decimal (position + count)

def Change.text (as bs : List Octets) (c : Change) : Octets :=
  let letter := if c.gone = 0 then 'a' else if c.come = 0 then 'd' else 'c'
  let between := if c.gone = 0 ∨ c.come = 0 then [] else Text.octets "---\n"
  range c.first c.gone ++ letter :: range c.second c.come ++ '\n' ::
    marked ['<', ' '] ((as.drop c.first).take c.gone) ++ between ++
    marked ['>', ' '] ((bs.drop c.second).take c.come)

/-- The changes in groups of which each has fewer than so many lines between its changes. -/
def groups (gap : Nat) (changes : List Change) : List (List Change) :=
  changes.foldr
    (fun change groups =>
      match groups with
      | (next :: group) :: rest =>
        if next.first ≤ change.first + change.gone + gap then (change :: next :: group) :: rest
        else [change] :: groups
      | _ => [change] :: groups)
    []

/-- The position and the count of lines in the head of a group. -/
def span (position count : Nat) : Octets :=
  if count = 1 then decimal (position + 1)
  else decimal (if count = 0 then position else position + 1) ++ ',' :: decimal count

/-- The lines of a group from a position of the first file on. -/
def groupLines (as bs : List Octets) (stop : Nat) : Nat → List Change → Octets
  | position, [] => marked [' '] ((as.drop position).take (stop - position))
  | position, c :: rest =>
    marked [' '] ((as.drop position).take (c.first - position)) ++
      marked ['-'] ((as.drop c.first).take c.gone) ++
      marked ['+'] ((bs.drop c.second).take c.come) ++
      groupLines as bs stop (c.first + c.gone) rest

/-- A group of changes with so many lines around it. -/
def groupText (context : Nat) (as bs : List Octets) (group : List Change) : Octets :=
  match group.head?, group.getLast? with
  | some first, some last =>
    let before := min context first.first
    let after := min context (as.length - (last.first + last.gone))
    let start := first.first - before
    let start' := first.second - before
    let stop := last.first + last.gone + after
    let stop' := last.second + last.come + after
    Text.octets "@@ -" ++ span start (stop - start) ++ ' ' :: '+' :: span start' (stop' - start') ++
      Text.octets " @@\n" ++ groupLines as bs stop start group
  | _, _ => []

/-! ## Options -/

structure Manner where
  brief : Bool := false
  reports : Bool := false
  ignoresCase : Bool := false
  ignoresChange : Bool := false
  ignoresBlanks : Bool := false
  recursive : Bool := false
  takesMissing : Bool := false
  asText : Bool := false
  context? : Option Nat := none
  labels : List Octets := []

def optionTable : OptionTable where
  shorts := [('q', .nothing), ('s', .nothing), ('i', .nothing), ('b', .nothing), ('w', .nothing),
    ('r', .nothing), ('N', .nothing), ('a', .nothing), ('u', .nothing), ('U', .value)]
  longs :=
    [("brief", .nothing, 'q'), ("report-identical-files", .nothing, 's'),
      ("ignore-case", .nothing, 'i'), ("ignore-space-change", .nothing, 'b'),
      ("ignore-all-space", .nothing, 'w'), ("recursive", .nothing, 'r'),
      ("new-file", .nothing, 'N'),
      ("text", .nothing, 'a'), ("unified", .optional, 'U'), ("label", .value, 'L'),
      ("normal", .nothing, 'n')]

def Manner.set (m : Manner) (setting : Setting) : Manner :=
  match setting.letter with
  | 'q' => { m with brief := true }
  | 's' => { m with reports := true }
  | 'i' => { m with ignoresCase := true }
  | 'b' => { m with ignoresChange := true }
  | 'w' => { m with ignoresBlanks := true }
  | 'r' => { m with recursive := true }
  | 'N' => { m with takesMissing := true }
  | 'a' => { m with asText := true }
  | 'u' => { m with context? := some 3 }
  | 'U' => { m with context? := some ((numberOf? setting.value).getD 3) }
  | 'L' => { m with labels := m.labels ++ [setting.value] }
  | _ => m

def isBlank (c : Char) : Bool :=
  c == ' ' || (decide ('\t' ≤ c) && decide (c ≤ '\r') && c != '\n')

/-- A line with one blank for each run of blanks, and none at its end. -/
def squeeze : Octets → Octets
  | [] => []
  | c :: rest =>
    if isBlank c then
      match squeeze rest with
      | [] => []
      | d :: text => if d = ' ' ∨ d = '\n' then d :: text else ' ' :: d :: text
    else c :: squeeze rest

/-- What of a line is compared. -/
def Manner.key (m : Manner) (line : Octets) : Octets :=
  let line := if m.ignoresBlanks then line.filter (!isBlank ·)
    else if m.ignoresChange then squeeze line else line
  if m.ignoresCase then line.map Char.toLower else line

/-! ## Files and directories -/

/-- The heads of changes with lines around them. -/
def Manner.heads (m : Manner) (first second : Octets) : Octets :=
  let label (place : Nat) (path : Octets) : Octets :=
    (m.labels[place]?).getD (path ++ Text.octets "\t1970-01-01 00:00:00.000000000 +0000")
  "--- ".toList ++ label 0 first ++ "\n+++ ".toList ++ label 1 second ++ ['\n']

/-- What is written about two texts, and whether they differ. -/
def Manner.compare (m : Manner) (first second : Octets) (a b : Octets) (head : Octets) :
    Octets × Bool :=
  let names := first ++ " and ".toList ++ second
  let isBinary := !m.asText && (a.contains '\x00' || b.contains '\x00')
  let as := linesOf '\n' a
  let bs := linesOf '\n' b
  let found := if a = b then [] else if isBinary then [{ first := 0, second := 0 }]
    else changes (as.map m.key) (bs.map m.key)
  if found.isEmpty then
    let report := Text.octets "Files " ++ names ++ Text.octets " are identical\n"
    (if m.reports then report else [], false)
  else if m.brief then (Text.octets "Files " ++ names ++ Text.octets " differ\n", true)
  else if isBinary then (Text.octets "Binary files " ++ names ++ Text.octets " differ\n", true)
  else
    match m.context? with
    | none => (head ++ found.flatMap (Change.text as bs), true)
    | some context =>
      (head ++ m.heads first second ++
        (groups (2 * context) found).flatMap (groupText context as bs), true)

/-- What is written about what two paths lead to; the number bounds the depth of the directories. -/
def Manner.compareNodes (m : Manner) (call : Call) (options : Octets) :
    Nat → Reply → Octets → Octets → Reply
  | 0, reply, _, _ => reply
  | depth + 1, reply, first, second =>
    let node? (path : Octets) := (call.files.find (pathOfOctets path)).toOption
    let isHere (path : Octets) : Bool := (node? path).isSome
    let names (path : Octets) : List Octets :=
      (call.files.list (pathOfOctets path)).map fun (name, _) => Text.octets name
    let only (reply : Reply) (path name : Octets) : Reply :=
      { reply.say (Text.octets "Only in " ++ path ++ ": ".toList ++ name ++ ['\n']) with
        status := max reply.status 1 }
    let all := ((names first ++ names second).eraseDups).mergeSort fun a b => !decide (b < a)
    all.foldl
      (fun reply name =>
        let one := Transfer.inside first name
        let two := Transfer.inside second name
        match node? one, node? two with
        | some (.file a), some (.file b) =>
          let head := Text.octets "diff " ++ options ++ one ++ ' ' :: two ++ ['\n']
          let (text, differs) :=
            m.compare one two (Text.octetsOfBytes a) (Text.octetsOfBytes b) head
          { reply.say text with status := if differs then max reply.status 1 else reply.status }
        | some .directory, some .directory =>
          if m.recursive then m.compareNodes call options depth reply one two
          else
            reply.say
              (Text.octets "Common subdirectories: " ++ one ++ " and ".toList ++ two ++ ['\n'])
        | some a, some _ =>
          let (left, right) : String × String :=
            if sameNode (some a) .directory then ("directory", "regular file")
            else ("regular file", "directory")
          { reply.say
              (Text.octets "File " ++ one ++ Text.octets (" is a " ++ left ++ " while file ") ++
                two ++ Text.octets (" is a " ++ right ++ "\n")) with
            status := max reply.status 1 }
        | _, _ => if isHere one then only reply first name else only reply second name)
      reply
where
  sameNode (node? : Option FileNode) (other : FileNode) : Bool :=
    match node?, other with
    | some .directory, .directory => true
    | _, _ => false

end Difference

open Difference in
def diff : Utility := fun call =>
  let read := optionTable.read call.arguments
  let m := read.settings.foldl Manner.set {}
  let help (what : Octets) : Reply :=
    { call.done 2 with
      errors := call.complaint what ++
        call.complaint (Text.octets ("Try '" ++ call.name ++ " --help' for more information.")) }
  match read.fault?, read.operands with
  | some what, _ => help what
  | none, [] =>
    help (Text.octets "missing operand after " ++ OptionTable.quote (Text.octets call.name))
  | none, [first] => help (Text.octets "missing operand after " ++ OptionTable.quote first)
  | none, _ :: _ :: extra :: _ => help (Text.octets "extra operand " ++ OptionTable.quote extra)
  | none, [first, second] =>
    let isDirectory (path : Octets) : Bool := call.files.isDirectory (pathOfOctets path)
    let options := (call.arguments.filter fun arg => arg.head? = some '-' ∧ arg ≠ ['-']).flatMap
      (· ++ [' '])
    if isDirectory first ∧ isDirectory second then
      m.compareNodes call options FileTree.maxPathSize call.done first second
    else
      let first' :=
        if isDirectory first then Transfer.inside first (Transfer.lastName second) else first
      let second' := if isDirectory second then Transfer.inside second (Transfer.lastName first)
        else second
      let text (path : Octets) : Except Octets Octets :=
        if path = ['-'] then .ok call.input
        else
          match call.read path with
          | .ok text => .ok text
          | .error .missing =>
            if m.takesMissing then .ok []
            else .error (path ++ Text.octets (": " ++ StorageFault.missing.reason))
          | .error fault => .error (path ++ Text.octets (": " ++ fault.reason))
      let usesInput := first = ['-'] ∨ second = ['-']
      let start : Reply := { call.done with unread := if usesInput then [] else call.input }
      match text first', text second' with
      | .ok a, .ok b =>
        let (text, differs) := m.compare first' second' a b []
        { start.say text with status := if differs then 1 else 0 }
      | a, b =>
        let faults := [a, b].filterMap fun
          | .error what => some what
          | .ok _ => none
        faults.foldl (fun reply what => reply.complain call what 2) start

end TemplateVariants
