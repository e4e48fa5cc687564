import TemplateVariants.Shell.Pattern
import TemplateVariants.Storage.Permission
import TemplateVariants.Utility.Copy
import TemplateVariants.Utility.Running

/-!
# Finding files

`find` goes through directories and asks of each file and directory what an expression says: tests,
actions, and words that join them. If the expression has no action, the paths for which it holds are
written.
-/

namespace TemplateVariants
namespace Finding

/-! ## Expressions -/

/-- What is asked of a node or done with it. -/
inductive Step where
  | named (ignoresCase : Bool) (pattern : Octets)
  | pathed (ignoresCase : Bool) (pattern : Octets)
  | typed (kinds : List Char)
  | isEmpty
  | sized (order : Ordering) (unit count : Nat)
  | permitted (all : Bool) (exact : Bool) (bits : Nat)
  | constant (holds : Bool)
  | print (ending : Char)
  | printAs (format : Octets)
  | delete
  | prune
  | quit
  | run (words : List Octets)
  | collect (words : List Octets)

/-- Whether a step is an action, so that nothing is written unless it is said. -/
def Step.isAction : Step → Bool
  | .print _ | .printAs _ | .delete | .quit | .run _ | .collect _ => true
  | _ => false

inductive Word where
  | step (step : Step)
  | negation (text : Octets)
  | conjunction (text : Octets)
  | disjunction (text : Octets)
  | sequence
  | opening
  | closing

inductive Query where
  | step (step : Step)
  | not (query : Query)
  | and (first second : Query)
  | or (first second : Query)
  | then (first second : Query)

/-- What is said about the search as a whole, and the words of the expression. -/
structure Request where
  words : List Word := []
  deepest? : Option Nat := none
  shallowest : Nat := 0
  contentsFirst : Bool := false

def quoted (text : Octets) : Octets :=
  '\x60' :: text ++ ['\'']

/-- The unit and the number of a size; a unit of blocks if nothing else is said. -/
def sizeOf? (text : Octets) : Option (Nat × Nat) :=
  let digits := text.takeWhile Char.isDigit
  let unit? : Option Nat :=
    match text.drop digits.length with
    | [] | ['b'] => some 512
    | ['c'] => some 1
    | ['w'] => some 2
    | ['k'] => some 1024
    | ['M'] => some 1048576
    | ['G'] => some 1073741824
    | _ => none
  match unit?, numberOf? digits with
  | some unit, some n => some (unit, n)
  | _, _ => none

/-- The order that a number is compared in, and what comes after the sign that says so. -/
def ordered (text : Octets) : Ordering × Octets :=
  match text with
  | '+' :: rest => (.gt, rest)
  | '-' :: rest => (.lt, rest)
  | _ => (.eq, text)

/-- The words of a command up to its end, whether it collects paths, and the arguments after it. -/
def commandFrom? (words : List Octets) : List Octets → Option (List Octets × Bool × List Octets)
  | [] => none
  | [';'] :: rest => some (words.reverse, false, rest)
  | ['+'] :: rest =>
    if words.head? = some ['\x7b', '\x7d'] then some (words.tail.reverse, true, rest)
    else commandFrom? (['+'] :: words) rest
  | word :: rest => commandFrom? (word :: words) rest

/-- Reads the words of an expression; the number bounds them. -/
def Request.readFrom (isPath : Octets → Bool) (before : Octets) :
    Nat → List Octets → Request → Except (List Octets) Request
  | 0, _, r => .ok r
  | _, [], r => .ok { r with words := r.words.reverse }
  | fuel + 1, arg :: args, r =>
    let next (word : Word) (args : List Octets) : Except (List Octets) Request :=
      readFrom isPath arg fuel args { r with words := word :: r.words }
    let step (step : Step) : Except (List Octets) Request := next (.step step) args
    let missing : Except (List Octets) Request :=
      .error [Text.octets "missing argument to " ++ quoted arg]
    let valued (use : Octets → List Octets → Except (List Octets) Request) :
        Except (List Octets) Request :=
      match args with
      | value :: args => use value args
      | [] => missing
    let depthed (use : Nat → Request) : Except (List Octets) Request :=
      valued fun value args =>
        match numberOf? value with
        | some n =>
          readFrom isPath arg fuel args { use n with words := .step (.constant true) :: r.words }
        | none =>
          .error [Text.octets "Expected a positive decimal integer argument to " ++ arg ++
            Text.octets ", but got " ++ OptionTable.quote value]
    match String.ofList arg with
    | "(" => next .opening args
    | ")" => next .closing args
    | "!" | "-not" => next (.negation arg) args
    | "-a" | "-and" => next (.conjunction arg) args
    | "-o" | "-or" => next (.disjunction arg) args
    | "," => next .sequence args
    | "-name" => valued fun value => next (.step (.named false value))
    | "-iname" => valued fun value => next (.step (.named true value))
    | "-path" | "-wholename" => valued fun value => next (.step (.pathed false value))
    | "-ipath" | "-iwholename" => valued fun value => next (.step (.pathed true value))
    | "-type" =>
      valued fun value args =>
        let kinds := value.filter (· ≠ ',')
        match kinds.find? fun c => !"bcdpfls".toList.contains c with
        | some c => .error [Text.octets "Unknown argument to -type: " ++ [c]]
        | none => next (.step (.typed kinds)) args
    | "-empty" => step .isEmpty
    | "-true" => step (.constant true)
    | "-false" => step (.constant false)
    | "-size" =>
      valued fun value args =>
        let (order, rest) := ordered value
        match sizeOf? rest with
        | some (unit, n) => next (.step (.sized order unit n)) args
        | none =>
          .error [Text.octets "Invalid argument " ++ quoted value ++ Text.octets " to -size"]
    | "-perm" =>
      valued fun value args =>
        let (all, exact, digits) : Bool × Bool × Octets :=
          match value with
          | '-' :: digits => (true, false, digits)
          | '/' :: digits => (false, false, digits)
          | _ => (false, true, value)
        if !digits.isEmpty && digits.all Permission.isOctal then
          next (.step (.permitted all exact (Permission.readOctal digits))) args
        else .error [Text.octets "invalid mode " ++ quoted value]
    | "-maxdepth" => depthed fun n => { r with deepest? := some n }
    | "-mindepth" => depthed fun n => { r with shallowest := n }
    | "-depth" | "-d" => readFrom isPath arg fuel args
        { r with contentsFirst := true, words := .step (.constant true) :: r.words }
    | "-print" => step (.print '\n')
    | "-print0" => step (.print '\x00')
    | "-printf" => valued fun value => next (.step (.printAs value))
    | "-delete" =>
      readFrom isPath arg fuel args
        { r with contentsFirst := true, words := .step .delete :: r.words }
    | "-prune" => step .prune
    | "-quit" => step .quit
    | "-exec" =>
      match commandFrom? [] args with
      | none | some ([], _, _) => missing
      | some (words, collects, args) =>
        next (.step (if collects then .collect words else .run words)) args
    | _ =>
      if arg.head? = some '-' ∧ 1 < arg.length then
        .error [Text.octets "unknown predicate " ++ quoted arg]
      else
        let first := Text.octets "paths must precede expression: " ++ quoted arg
        .error (if isPath arg then
          [first,
            Text.octets "possible unquoted pattern after predicate " ++ quoted before ++ ['?']]
        else [first])

/-! ## Reading queries -/

mutual

/-- Reads queries after each other that count by the last of them. -/
def readSequence : Nat → List Word → Except Octets (Query × List Word)
  | 0, _ => .error []
  | fuel + 1, words => do
    let (first, rest) ← readEither fuel words
    match rest with
    | .sequence :: rest => do
      let (second, rest) ← readSequence fuel rest
      return (.then first second, rest)
    | rest => return (first, rest)

def readEither : Nat → List Word → Except Octets (Query × List Word)
  | 0, _ => .error []
  | fuel + 1, words => do
    let (first, rest) ← readBoth fuel words
    match rest with
    | .disjunction text :: rest => do
      if rest.isEmpty then
        throw (Text.octets "expected an expression after " ++ OptionTable.quote text)
      let (second, rest) ← readEither fuel rest
      return (.or first second, rest)
    | rest => return (first, rest)

def readBoth : Nat → List Word → Except Octets (Query × List Word)
  | 0, _ => .error []
  | fuel + 1, words => do
    let (first, rest) ← readOne fuel words
    match rest with
    | .conjunction text :: rest => do
      if rest.isEmpty then
        throw (Text.octets "expected an expression after " ++ OptionTable.quote text)
      let (second, rest) ← readBoth fuel rest
      return (.and first second, rest)
    | .step _ :: _ | .negation _ :: _ | .opening :: _ => do
      let (second, rest) ← readBoth fuel rest
      return (.and first second, rest)
    | rest => return (first, rest)

def readOne : Nat → List Word → Except Octets (Query × List Word)
  | 0, _ => .error []
  | fuel + 1, words =>
    match words with
    | .step step :: rest => .ok (.step step, rest)
    | .negation text :: rest => do
      if rest.isEmpty then
        throw (Text.octets "expected an expression after " ++ OptionTable.quote text)
      let (query, rest) ← readOne fuel rest
      return (.not query, rest)
    | .opening :: .closing :: _ =>
      .error (Text.octets "invalid expression; empty parentheses are not allowed.")
    | .opening :: rest =>
      let unclosed :=
        Text.octets ("invalid expression; expected to find a ')' but didn't see one. " ++
          "Perhaps you need an extra predicate after '('")
      if rest.isEmpty then .error unclosed
      else do
        let (query, rest) ← readSequence fuel rest
        match rest with
        | .closing :: rest => return (query, rest)
        | _ => throw unclosed
    | .conjunction text :: _ | .disjunction text :: _ =>
      .error (Text.octets "invalid expression; you have used a binary operator " ++
        OptionTable.quote text ++ Text.octets " with nothing before it.")
    | .sequence :: _ =>
      .error (Text.octets
        "invalid expression; you have used a binary operator ',' with nothing before it.")
    | .closing :: _ | [] => .error (Text.octets "invalid expression; you have too many ')'")

end

/-- The query that words spell. -/
def queryOf (words : List Word) : Except Octets Query := do
  if words.isEmpty then return .step (.print '\n')
  let (query, rest) ← readSequence (8 * (words.length + 1)) words
  if !rest.isEmpty then throw (Text.octets "you have too many ')'")
  let acts := words.any fun
    | .step step => step.isAction
    | _ => false
  return if acts then query else .and query (.step (.print '\n'))

/-! ## Searching -/

/-- A file or a directory that has been found. -/
structure Found where
  path : Octets
  place : List String
  node : FileNode
  depth : Nat
  start : Octets

/-- A search so far: the reply, what is said of the node at hand, whether all is over, and the paths
that commands collect, backwards. -/
structure Search where
  reply : Reply
  isPruned : Bool := false
  isOver : Bool := false
  collected : List (List Octets × List Octets) := []

def patternOf : Octets → Shell.Glyphs
  | '\\' :: c :: rest => (c, true) :: patternOf rest
  | c :: rest => (c, false) :: patternOf rest
  | [] => []

def fits (ignoresCase : Bool) (pattern text : Octets) : Bool :=
  let cased (text : Octets) : Octets := if ignoresCase then text.map Char.toLower else text
  (patternOf (cased pattern)).fit (cased text)

def Found.name (f : Found) : Octets :=
  Transfer.lastName f.path

def Found.size (f : Found) : Nat :=
  match f.node with
  | .file bytes => bytes.size
  | .directory => 4096

def Found.kind (f : Found) : Char :=
  match f.node with
  | .file _ => 'f'
  | .directory => 'd'

/-- The text for a format; the number bounds it. -/
def Found.formatted (f : Found) (files : FileTree) : Nat → Octets → Octets
  | 0, _ => []
  | _, [] => []
  | fuel + 1, c :: rest =>
    match c, rest with
    | '%', letter :: rest =>
      let text :=
        match letter with
        | 'p' => f.path
        | 'f' => f.name
        | 'h' =>
          let front := (f.path.reverse.dropWhile (· ≠ '/')).drop 1
          if f.path.contains '/' then front.reverse else ['.']
        | 'P' => (f.path.drop f.start.length).dropWhile (· = '/')
        | 'H' => f.start
        | 's' => Nat.toDigits 10 f.size
        | 'd' => Nat.toDigits 10 f.depth
        | 'y' => [f.kind]
        | 'm' => Nat.toDigits 8 (files.permissions f.place)
        | 'M' => f.kind :: Permission.text (files.permissions f.place)
        | '%' => ['%']
        | _ => ['%', letter]
      text ++ f.formatted files fuel rest
    | '\\', letter :: rest =>
      let text :=
        match letter with
        | 'n' => ['\n']
        | 't' => ['\t']
        | '0' => ['\x00']
        | '\\' => ['\\']
        | _ => ['\\', letter]
      text ++ f.formatted files fuel rest
    | _, _ => c :: f.formatted files fuel rest

/-- Runs a command; tells whether it has succeeded. -/
def Search.execute (s : Search) (find : Finder) (call : Call) (words : List Octets) :
    Search × Bool :=
  match words with
  | [] => (s, true)
  | name :: arguments =>
    match Running.run find call s.reply call.environment name arguments s.reply.unread with
    | .error fault =>
      ({ s with
        reply :=
          { s.reply.complain call
              (OptionTable.quote name ++ Text.octets (": " ++ fault.reason)) with
            status := s.reply.status } }, false)
    | .ok inner =>
      ({ s with
        reply :=
          { s.reply with
            output := s.reply.output ++ inner.output
            errors := s.reply.errors ++ inner.errors
            unread := inner.unread
            duration := s.reply.duration + inner.duration
            sent := s.reply.sent ++ inner.sent
            files := { inner.files with home := call.files.home } } }, inner.status == 0)

/-- Takes a node away. -/
def Search.remove (s : Search) (call : Call) (f : Found) : Search × Bool :=
  if f.name = ['.'] then (s, true)
  else if !(s.reply.files.below f.place).isEmpty then
    ({ s with
      reply := s.reply.complain call (Text.octets "cannot delete " ++ OptionTable.quote f.path ++
        Text.octets ": Directory not empty") }, false)
  else ({ s with reply := { s.reply with files := s.reply.files.erase f.place } }, true)

/-- Carries out a step; tells whether it holds. -/
def Search.step (s : Search) (find : Finder) (call : Call) (f : Found) (step : Step) :
    Search × Bool :=
  match step with
  | .named ignoresCase pattern => (s, fits ignoresCase pattern f.name)
  | .pathed ignoresCase pattern => (s, fits ignoresCase pattern f.path)
  | .typed kinds => (s, kinds.contains f.kind)
  | .isEmpty =>
    (s, match f.node with
      | .file bytes => bytes.size == 0
      | .directory => (s.reply.files.below f.place).isEmpty)
  | .sized order unit n => (s, compare ((f.size + unit - 1) / unit) n == order)
  | .permitted all exact bits =>
    let mode := s.reply.files.permissions f.place
    (s, if exact then mode == bits
      else if all then mode &&& bits == bits else bits == 0 || mode &&& bits != 0)
  | .constant holds => (s, holds)
  | .print ending => ({ s with reply := s.reply.say (f.path ++ [ending]) }, true)
  | .printAs format =>
    ({ s with reply := s.reply.say (f.formatted s.reply.files format.length format) }, true)
  | .delete => s.remove call f
  | .prune => ({ s with isPruned := true }, true)
  | .quit => ({ s with isOver := true }, true)
  | .run words =>
    let filled := words.map fun word => Running.fill ['\x7b', '\x7d'] f.path (word.length + 1) word
    s.execute find call filled
  | .collect words =>
    let before := (s.collected.lookup words).getD []
    ({ s with
      collected := (words, f.path :: before) :: s.collected.filter (·.1 != words) }, true)

/-- Asks a query of a node. -/
def Search.ask (find : Finder) (call : Call) (f : Found) : Query → Search → Search × Bool
  | .step step, s => if s.isOver then (s, false) else s.step find call f step
  | .not query, s =>
    let (s, holds) := ask find call f query s
    (s, !holds)
  | .and first second, s =>
    let (s, holds) := ask find call f first s
    if holds then ask find call f second s else (s, false)
  | .or first second, s =>
    let (s, holds) := ask find call f first s
    if holds then (s, true) else ask find call f second s
  | .then first second, s => ask find call f second (ask find call f first s).1

/-- Goes through what is below a node; the number bounds the depth. -/
def visit (find : Finder) (call : Call) (r : Request) (query : Query) :
    Nat → Found → Search → Search
  | 0, _, s => s
  | fuel + 1, f, s =>
    if s.isOver then s
    else
      let asks (s : Search) : Search :=
        if f.depth < r.shallowest ∨ s.isOver then s
        else (Search.ask find call f query { s with isPruned := false }).1
      let s := if r.contentsFirst then s else asks { s with isPruned := false }
      let isDeep := (r.deepest?.map fun n => decide (n ≤ f.depth)).getD false
      let s :=
        match f.node with
        | .directory =>
          if isDeep ∨ s.isOver ∨ (s.isPruned ∧ !r.contentsFirst) then s
          else if !s.reply.files.isDirectoryAt f.place then
            { s with
              reply := s.reply.complain call (OptionTable.quote f.path ++
                Text.octets (": " ++ StorageFault.missing.reason)) }
          else
            let names := (s.reply.files.children f.place).mergeSort fun a b => decide (a.1 ≤ b.1)
            names.foldl
              (fun s (name, node) =>
                visit find call r query fuel
                  { path := Transfer.inside f.path (Text.octets name)
                    place := f.place ++ [name]
                    node
                    depth := f.depth + 1
                    start := f.start } s)
              { s with isPruned := false }
        | .file _ => s
      if r.contentsFirst then asks s else s

/-- Starts at a path. -/
def visitPath (find : Finder) (call : Call) (r : Request) (query : Query) (s : Search)
    (path : Octets) : Search :=
  match s.reply.files.locate (pathOfOctets path), s.reply.files.find (pathOfOctets path) with
  | .ok place, .ok node =>
    visit find call r query FileTree.maxPathSize { path, place, node, depth := 0, start := path } s
  | .error fault, _ | _, .error fault =>
    { s with
      reply :=
        s.reply.complain call (OptionTable.quote path ++ Text.octets (": " ++ fault.reason)) }

/-- Runs the commands that have collected paths. -/
def Search.finish (s : Search) (find : Finder) (call : Call) : Search :=
  s.collected.reverse.foldl
    (fun s (words, paths) =>
      let (s, holds) := s.execute find call (words ++ paths.reverse)
      if holds then s else { s with reply := { s.reply with status := 1 } })
    s

/-- Whether an argument begins the expression. -/
def isExpression (arg : Octets) : Bool :=
  match arg with
  | '-' :: _ :: _ => true
  | ['('] | ['!'] => true
  | _ => false

end Finding

open Finding in
def find (finder : Finder) : Utility := fun call =>
  let arguments := call.arguments.dropWhile fun arg =>
    ["-H", "-L", "-P", "--"].contains (String.ofList arg)
  let paths := arguments.takeWhile (!isExpression ·)
  let isPath (path : Octets) : Bool := (call.files.find (pathOfOctets path)).toOption.isSome
  let words := arguments.drop paths.length
  match Request.readFrom isPath [] (words.length + 1) words {} with
  | .error whats => { call.done 1 with errors := whats.flatMap call.complaint }
  | .ok r =>
    match queryOf r.words with
    | .error what => call.refuse what
    | .ok query =>
      let paths := if paths.isEmpty then [['.']] else paths
      let s := paths.foldl (visitPath finder call r query) { reply := call.done }
      (s.finish finder call).reply

end TemplateVariants
