import TemplateVariants.Shell.Builtin
import TemplateVariants.Shell.Expansion
import TemplateVariants.Shell.Jobs
import TemplateVariants.Shell.Reading
import TemplateVariants.Shell.Redirect
import TemplateVariants.Utility.Basic

/-!
# Running scripts

A command takes the state of the shell to the state after it. What runs outside of the shell is
looked up among utilities, by a function that is given here. The number that the functions count
down bounds the depth of the commands and the rounds of the loops; a script that needs more ends as
after a fault. `tested` says that the status of a command is looked at, so that a failure does not
end the script even in the mode that ends scripts on failures.

A command in the background runs when somebody waits for it or the time passes at which it is done,
or else at the end of the script. What it writes has the time at which it is written, so that the
order comes out right.
-/

namespace TemplateVariants
namespace Shell

namespace State

/-! ## Between commands -/

/-- Ends the script if it ends on failures and nobody looks at the status. -/
def check (s : State) (tested : Bool) : State :=
  if s.modes.exitsOnFailure && !tested && s.status != 0 && s.flow == .onward then
    { s with flow := .exiting }
  else s

def overrun (s : State) : State :=
  s.fail (Text.octets "out of steps")

/-- The state before the stages of a pipeline run: the programs that they name have been found. -/
def foresee (s : State) (find : Finder) (stages : List Command) : State :=
  stages.foldl
    (fun s stage =>
      match stage with
      | .simple _ _ (word :: _) _ =>
        let name := word.filterMap fun
          | .plain c => some c
          | _ => none
        if name.length = word.length ∧ isName name then
          let meaning? := { s with aliases := [] }.meaning? (s.place? find) name
          s.afterMeaning name meaning?
        else s
      | _ => s)
    s

def withDescriptorsOf (s other : State) : State :=
  { s with descriptors := other.descriptors }

/-- Asks for the lines that come after the first between two places of a script that asks for lines,
and repeats the lines on the error stream if that is asked for; `isEnded` says that the last of them
ended there. -/
def hear (s : State) (before after : Source) (isEnded : Bool) : State :=
  let asked :=
    if before.prompts then
      let read := before.rest.take (before.rest.length - after.rest.length)
      read.count '\n' - if isEnded ∧ read.getLast? = some '\n' then 1 else 0
    else 0
  let lines := if s.modes.repeats && before.repeats then before.linesUpTo after else []
  (List.range (max lines.length (asked + 1))).foldl (fun s i =>
    let s := if 0 < i ∧ i ≤ asked then s.prompt "PS2" else s
    s.write 2 (lines[i]?.getD [])) s

/-- The state after a line has been read: the here-documents are kept. -/
def afterReading (s : State) (before after : Source) : State :=
  { s.hear before after true with
    documents := after.documents ++ s.documents
    lineRead := after.line }

/-- How a loop goes on after a round or its condition, and whether it does. -/
def afterRound (s : State) : State × Bool :=
  match s.flow with
  | .onward => (s, true)
  | .leaving n => ({ s with flow := if n ≤ 1 then .onward else .leaving (n - 1) }, false)
  | .continuing n =>
    if n ≤ 1 then ({ s with flow := .onward }, true)
    else ({ s with flow := .continuing (n - 1) }, false)
  | _ => (s, false)

/-- Gives variables back what they were bound to. -/
def restore (s : State) (saved : List (String × Option Binding)) : State :=
  saved.foldl (fun s (x, binding?) => s.bind x binding?) s

/-- The state after a function that has come to `inner`. -/
def afterCall (s inner : State) : State :=
  let inner := inner.restore (inner.locals.headD [])
  { inner with
    arguments := s.arguments
    loops := s.loops
    calls := s.calls
    locals := s.locals
    flow := if inner.flow = .returning then .onward else inner.flow }

def exported (s : State) : List (String × Octets) :=
  s.bindings.filterMap fun (x, binding) =>
    if binding.isExported then binding.value?.map fun value => (x, value) else none

/-- Writes a command and its assignments to the error stream, if commands are traced. -/
def trace (s : State) (before : State) (assigned : List (String × Octets)) (words : List Octets) :
    State :=
  if s.modes.traces then
    let sets := assigned.map fun (x, value) => Text.octets x ++ '=' :: value
    let line := List.intercalate [' '] (sets ++ words)
    let mark := (s.value? "PS4").getD (Text.octets "+ ")
    let traced := { s with descriptors := before.descriptors }.write 2 (mark ++ line ++ ['\n'])
    { traced with descriptors := s.descriptors }
  else s

/-- Says of a built-in command that what it wrote was lost. -/
def mournLoss (s : State) (name : Octets) : State :=
  if s.lost then
    { s.complain (name ++ Text.octets ": I/O error") with
      lost := false
      status := if s.status % 2 = 0 then s.status + 1 else s.status }
  else s

/-! ## Utilities -/

/-- Runs a utility with the input and the outputs of the shell. -/
def runUtility (s : State) (utility : Utility) (name : Octets) (args : List Octets) : State :=
  let reply := utility
    { name := pathText name
      arguments := args
      input := s.pending 0
      environment := s.exported
      caller := s.number
      mask := s.mask
      ignored := (s.traps.filter (·.2.isEmpty)).map Prod.fst
      files := s.files }
  let s := { s with files := reply.files }.leave 0 reply.unread
  let s := ((s.pass (utilityTime + reply.duration)).write 1 reply.output).write 2 reply.errors
  let reply :=
    if s.lost then { reply with status := max reply.status 1 } else reply
  let reason :=
    if (s.descriptor? 1).isSome then "No space left on device" else "Bad file descriptor"
  let s :=
    if s.lost then
      { s.write 2 (name ++ Text.octets (": write error: " ++ reason ++ "\n")) with lost := false }
    else s
  let s := reply.sent.foldl (fun s (number, signal) => (s.send? number signal).getD s) s
  { (s.mourn reply.signal?).bury with status := reply.status }

/-- Runs what a command leads to outside of the shell. -/
def runProgram (s : State) (find : Finder) (name : Octets) (args : List Octets) : State :=
  match s.search find name with
  | .ok (path, utility) => (s.remember name path).runUtility utility name args
  | .error fault =>
    let isMissing := fault = .missing ∨ fault = .notDirectory
    let reason := if isMissing then "not found" else fault.reason
    s.reject (name ++ Text.octets (": " ++ reason))
      (if isMissing ∨ fault = .nameTooLong ∨ !name.contains '/' then 127 else 126)

/-- Runs a program in the place of the shell. -/
def replaceBy (s : State) (find : Finder) (name : Octets) (args : List Octets) : State :=
  let after := { s.runProgram find name args with flow := .exiting }
  if (s.search find name).toOption.isSome then { after with traps := [] } else after

/-- Says of jobs that signals have ended them, unless they were done in an earlier state. -/
def mournAll (s earlier : State) (jobs : List Job) : State :=
  jobs.foldl
    (fun s job =>
      if ((earlier.job? job.number).bind (·.status?)).isSome then s
      else s.mourn ((s.job? job.number).bind (·.signal?)))
    s

end State

/-- The script in a file, which goes on if more is written to the file until it is read, unless the
file ends within a line. -/
def State.sourceAt (s : State) (path : String) (bytes : ByteArray) : Source :=
  let text := Text.octetsOfBytes bytes
  let endsLine := text.getLast? = some '\n'
  { Source.ofText (text.filter (· ≠ '\x00')) s.documents.length with
    repeats := true
    storedAt? := if endsLine then (s.files.locate path).toOption.map (·, bytes.size) else none }

/-- The script that has been written to a file since it was read to its end. -/
def State.more? (s : State) (source : Source) : Option Source :=
  match source.storedAt? with
  | none => none
  | some (place, size) =>
    let bytes := s.bytesAt place
    let text := Text.octetsOfBytes (bytes.extract size bytes.size)
    if text.isEmpty then none
    else
      some
        { Source.ofText (text.filter (· ≠ '\x00')) s.documents.length with
          line := source.line
          prompts := source.prompts
          repeats := true
          storedAt? := if text.getLast? = some '\n' then some (place, bytes.size) else none }

/-- The script after a line that has come to `s`; here-documents get numbers that are new. -/
def Source.onward (source : Source) (s : State) : Source :=
  { source with documents := [], count := max source.count s.documents.length }

/-! ## Words -/

/-- What the words of a command have come to: the fields so far, backwards, and, once the command is
known, whether it makes declarations: then words that look like assignments are not parted. -/
structure Words where
  state : State
  backwards : List Octets := []
  declares? : Option Bool := none

/-- Expands a word of a command. -/
def Words.add (run : Capture) (w : Words) (word : Word) : Words :=
  if w.state.flow ≠ .onward then w
  else
    match w.declares?.getD false, assignment? word with
    | true, some (name, value) =>
      let e := expandParts run .value true 0 value { state := w.state }
      if e.state.flow ≠ .onward then { w with state := e.state }
      else
        let text := Text.octets name ++ '=' :: textOf e.pieces
        { w with state := e.state, backwards := text :: w.backwards }
    | _, _ =>
      let e := expandParts run .fields true 0 word { state := w.state }
      if e.state.flow ≠ .onward then { w with state := e.state }
      else
        let fields := (fieldsOf e.state.separators e.pieces).flatMap e.state.paths
        let first? := (fields.dropWhile fun field => String.ofList field = "command").head?
        { state := e.state
          backwards := fields.reverse ++ w.backwards
          declares? := w.declares? <|> first?.map fun first =>
            declaringBuiltins.contains (String.ofList first) }

/-- The text that a word stands for. -/
def expandText (run : Capture) (purpose : Purpose) (word : Word) (s : State) : Octets × State :=
  let e := expandParts run purpose true 0 word { state := s }
  (textOf e.pieces, e.state)

def expandPattern (run : Capture) (word : Word) (s : State) : Glyphs × State :=
  let e := expandParts run .text true 0 word { state := s }
  (glyphsOf e.pieces, e.state)

/-! ## Redirections -/

/-- Carries out redirections; tells whether they have all succeeded. A fault in a here-document is a
failure of its redirection, and does not end the script. -/
def redirectAll (run : Capture) : List Redirection → State → Bool × State
  | [], s => (true, s)
  | r :: rs, s =>
    let (opened, s) : Except Octets State × State :=
      match r with
      | .file fd opening path =>
        let (path, s) := expandText run .text path s
        (s.openPath fd opening path, s)
      | .copy fd source =>
        let (source, s) := expandText run .text source s
        if s.flow = .onward ∧ !State.isDescriptor source then
          (.error [],
            { s with line := s.lineRead }.fail (Text.octets "Syntax error: Bad fd number"))
        else (s.copyDescriptor fd source, s)
      | .document fd number =>
        let (text, inner) := expandText run .text ((s.documents.lookup number).getD []) s
        if inner.flow = .onward then (.ok (inner.openFor fd (.source text)), inner)
        else (.error [], { inner with flow := .onward })
    if s.flow ≠ .onward then (false, s)
    else
      match opened with
      | .ok s => redirectAll run rs s
      | .error [] => (false, { s with status := 2 })
      | .error what => (false, s.reject what 2)

/-! ## Assignments -/

/-- Expands and makes assignments, which those that the shell starts see if `exports`; gives what
has been assigned. -/
def assignAll (run : Capture) (exports : Bool) :
    List (String × Word) → State → List (String × Octets) × State
  | [], s => ([], s)
  | (x, word) :: rest, s =>
    let (value, s) := expandText run .value word s
    if s.flow ≠ .onward then ([], s)
    else
      let s := s.assign x value
      if s.flow ≠ .onward then ([], s)
      else
        let s := if exports then s.expose x else s
        let (assigned, s) := assignAll run exports rest s
        ((x, value) :: assigned, s)

/-! ## Commands -/

/-- How many bytes a stage of a pipeline may write before it counts as unread. -/
def pipeRoom : Nat := 1 <<< 20

/-- How deeply functions may call each other. -/
def maxCalls : Nat := 1000

/-- What a name stands for as a command. -/
inductive Target where
  | evaluate
  | include
  | replace
  | through
  | wait
  | builtin
  | call (body : Command)
  | program

def State.target (s : State) (name : String) (withFunctions : Bool) : Target :=
  match name with
  | "eval" => .evaluate
  | "." => .include
  | "exec" => .replace
  | _ =>
    if specialBuiltins.contains name then .builtin
    else
      match if withFunctions then s.functions.lookup name else none with
      | some body => .call body
      | none =>
        if name = "command" then .through
        else if name = "wait" then .wait
        else if plainBuiltins.contains name then .builtin
        else .program

variable (find : Finder)

mutual

/-- Runs commands one after the other. -/
def runAll : Nat → Bool → List Command → State → State
  | 0, _, _, s => s.overrun
  | _, _, [], s => s
  | fuel + 1, tested, c :: cs, s =>
    let s := runCommand fuel tested c s
    if s.flow = .onward then runAll fuel tested cs s else s

/-- Runs a script in a subshell and collects what it writes, without the line feeds at the end. -/
def capture : Nat → List Command → State → Octets × State
  | 0, _, s => ([], s.overrun)
  | fuel + 1, script, s =>
    let index := s.opened.size
    let inner := finish fuel (runAll fuel false script
      { (s.openFor 1 (.sink [] none)).inner with
        status := if script.isEmpty then 0 else s.status })
    let text := (inner.collected index).filter (· ≠ '\x00')
    let after := (s.afterSubshell inner).bury
    ((text.reverse.dropWhile (· = '\n')).reverse,
      { after with status := s.status, outputStatus := inner.status })

/-- Runs commands in a subshell. -/
def runSubshell : Nat → Bool → List Command → State → State
  | 0, _, _, s => s.overrun
  | fuel + 1, tested, body, s =>
    (s.afterSubshell (finish fuel (runAll fuel tested body s.inner))).bury

/-- Ends a script: runs what is to run at its end, and the jobs that nobody has waited for. -/
def finish : Nat → State → State
  | 0, s => s
  | fuel + 1, s => runJobs fuel (takeLeave fuel s)

/-- Runs what is to run at the end of a script; the status stays unless that ends with one. -/
def takeLeave : Nat → State → State
  | 0, s => s
  | fuel + 1, s =>
    match s.farewell? with
    | none => s
    | some action =>
      let after := runText fuel false action { s.setTrap 0 none with flow := .onward }
      if after.flow.isEnd then after else { after with status := s.status }

/-- Runs the jobs that are not done; the shell does not wait for them. -/
def runJobs : Nat → State → State
  | 0, s => s
  | fuel + 1, s =>
    match s.unfinished with
    | [] => s
    | job :: _ => runJobs fuel (runJob fuel job job.due? s)

/-- Runs a job, which a signal may end at a time. -/
def runJob : Nat → Job → Option (Nat × Nat) → State → State
  | 0, job, _, s => s.afterJob s job
  | fuel + 1, job, due?, s =>
    let start := s.atStart job due?
    let after :=
      if start.flow = .onward then finish fuel (runCommand fuel false job.body start) else start
    s.afterJob after job

/-- Waits for jobs. The status is that of the last job, if there is one. -/
def waitFor : Nat → List Job → State → State
  | 0, _, s => s.overrun
  | _, [], s => s
  | fuel + 1, job :: jobs, s =>
    if job.status?.isSome then waitFor fuel jobs (s.join job.number)
    else waitFor fuel jobs ((runJob fuel job job.due? s).join job.number)

/-- Lets the jobs run that are done by a time; a job that is not starts again later. -/
def catchUp : Nat → Nat → List Job → State → State
  | 0, _, _, s => s
  | _, _, [], s => s
  | fuel + 1, now, job :: jobs, s =>
    if now < job.start then catchUp fuel now jobs s
    else
      let due := (job.due?.filter (·.1 < now)).getD (now, 9)
      let after := runJob fuel job (some due) s
      let stop := ((after.job? job.number).map Job.stop).getD 0
      catchUp fuel now jobs (if stop < now then after else s)

/-- Deals with the signals that have come: one runs what its trap says, or ends the script. -/
def settle : Nat → State → State
  | 0, s => s
  | fuel + 1, s =>
    match s.fatalSignal? with
    | some signal => s.die signal
    | none =>
      if s.flow ≠ .onward then s
      else
        match s.nextSignal? with
        | none => s
        | some (signal, next) =>
          match next.trap? signal with
          | none | some [] => settle fuel next
          | some action =>
            let after := runText fuel true action next
            settle fuel
              (if after.flow.isEnd ∨ after.flow = .returning then after
                else { after with status := s.status })

/-- Runs a text as a script. -/
def runText : Nat → Bool → Octets → State → State
  | 0, _, _, s => s.overrun
  | fuel + 1, tested, text, s =>
    runLines fuel tested true (.ofText text s.documents.length) s

/-- Runs the lines of a script, each as soon as it has been read; `idle` tells whether no command
has run yet. -/
def runLines : Nat → Bool → Bool → Source → State → State
  | 0, _, _, _, s => s.overrun
  | fuel + 1, tested, idle, source, s =>
    let s := if source.prompts then s.prompt "PS1" else s
    match readLine { source with aliases := s.aliases } with
    | .error fault at_ =>
      { s.hear source at_ false with line := at_.line }.fail (Text.octets fault.message)
    | .ok none after =>
      match s.more? after with
      | some more => runLines fuel tested idle more s
      | none =>
        let s := if source.prompts then s.write 2 ['\n'] else s
        if idle then s.succeed else s
    | .ok (some line) after =>
      let s := runLine fuel tested line (s.afterReading source after)
      if s.flow = .onward then
        runLines fuel tested (idle && line.isEmpty) (after.onward s) s
      else s

/-- Runs a line, unless scripts are only read. -/
def runLine : Nat → Bool → List Command → State → State
  | 0, _, _, s => s.overrun
  | fuel + 1, tested, line, s => if s.modes.onlyReads then s else runAll fuel tested line s

/-- Runs a command. -/
def runCommand : Nat → Bool → Command → State → State
  | 0, _, _, s => s.overrun
  | fuel + 1, tested, c, s =>
    match c with
    | .simple line assignments words redirections =>
      let after := runSimple fuel tested assignments words redirections { s with line }
      (settle fuel after).check tested
    | .redirected line body redirections =>
      match redirectAll (capture fuel) redirections { s with line } with
      | (true, opened) => (runCommand fuel tested body opened).withDescriptorsOf s
      | (false, opened) => opened.withDescriptorsOf s
    | .block body => runAll fuel tested body s
    | .subshell line body =>
      (settle fuel (runSubshell fuel tested body { s with line })).check tested
    | .background body => s.launch body
    | .both first second =>
      let s := runCommand fuel true first s
      if s.status = 0 ∧ s.flow = .onward then runCommand fuel tested second s else s
    | .either first second =>
      let s := runCommand fuel true first s
      if s.status ≠ 0 ∧ s.flow = .onward then runCommand fuel tested second s else s
    | .negated body =>
      let s := runCommand fuel true body s
      if s.flow.isEnd then s else { s with status := if s.status = 0 then 1 else 0 }
    | .pipeline stages =>
      let after := runStages fuel tested stages (s.foresee find stages)
      (settle fuel { after with descriptors := s.descriptors }).check tested
    | .choice condition body alternative =>
      let s := runAll fuel true condition s
      if s.flow ≠ .onward then s
      else if s.status = 0 then runAll fuel tested body s
      else if alternative.isEmpty then s.succeed
      else runAll fuel tested alternative s
    | .loop untilTrue condition body =>
      let after := runLoop fuel tested untilTrue condition body 0 { s with loops := s.loops + 1 }
      { after with loops := s.loops }
    | .each line name words? body =>
      let s := { s with line }
      let (values, s) :=
        match words? with
        | none => (s.arguments, s)
        | some words =>
          let w := words.foldl (Words.add (capture fuel)) { state := s }
          (w.backwards.reverse, w.state)
      if s.flow ≠ .onward then s
      else
        let s := if values.isEmpty then s.succeed else s
        let after := runEach fuel tested name values body { s with loops := s.loops + 1 }
        { after with loops := s.loops }
    | .cases line subject branches =>
      let (text, s) := expandText (capture fuel) .text subject { s with line }
      if s.flow ≠ .onward then s else runBranches fuel tested text branches s
    | .definition name body =>
      { s with
        functions := (name, body) :: s.functions.filter (·.1 != name)
        status := 0 }

/-- Runs the stages of a pipeline, each in a subshell that reads what the one before has written. -/
def runStages : Nat → Bool → List Command → State → State
  | 0, _, _, s => s.overrun
  | _, _, [], s => s
  | fuel + 1, tested, [last], s => runSubshell fuel tested [last] s
  | fuel + 1, tested, stage :: stages, s =>
    let index := s.opened.size
    let after := runSubshell fuel tested [stage] (s.openFor 1 (.sink [] (some pipeRoom)))
    let written := after.collected index
    let next :=
      { after with
        status := s.status
        descriptors := s.descriptors
        opened := after.opened.take index }
    runStages fuel tested stages (next.openFor 0 (.source written))

/-- Runs the rounds of a loop; `status` is that of the last round. -/
def runLoop : Nat → Bool → Bool → List Command → List Command → Nat → State → State
  | 0, _, _, _, _, _, s => s.overrun
  | fuel + 1, tested, untilTrue, condition, body, status, s =>
    let s := runAll fuel true condition s
    if s.flow = .onward then
      if (s.status = 0) ≠ (untilTrue = true) then
        let s := runAll fuel tested body s
        match s.afterRound with
        | (s, true) => runLoop fuel tested untilTrue condition body s.status s
        | (s, false) => s
      else { s with status }
    else
      match s.afterRound with
      | (s, true) => runLoop fuel tested untilTrue condition body status s
      | (s, false) =>
        if s.flow.isEnd ∨ s.flow = .returning then s else { s with status }

/-- Runs a body for each of some values. -/
def runEach : Nat → Bool → String → List Octets → List Command → State → State
  | 0, _, _, _, _, s => s.overrun
  | _, _, _, [], _, s => s
  | fuel + 1, tested, name, value :: values, body, s =>
    let s := s.assign name value
    if s.flow ≠ .onward then s
    else
      match (runAll fuel tested body s).afterRound with
      | (s, true) => runEach fuel tested name values body s
      | (s, false) => s

/-- Runs the first branch with a pattern that the text fits. -/
def runBranches : Nat → Bool → Octets → List (List Word × List Command) → State → State
  | 0, _, _, _, s => s.overrun
  | _, _, _, [], s => s.succeed
  | fuel + 1, tested, text, (patterns, body) :: branches, s =>
    match fitsAny fuel text patterns s with
    | (true, s) => if body.isEmpty then s.succeed else runAll fuel tested body s
    | (false, s) => if s.flow = .onward then runBranches fuel tested text branches s else s

/-- Whether a text fits one of the patterns. -/
def fitsAny : Nat → Octets → List Word → State → Bool × State
  | 0, _, _, s => (false, s.overrun)
  | _, _, [], s => (false, s)
  | fuel + 1, text, pattern :: patterns, s =>
    let (glyphs, s) := expandPattern (capture fuel) pattern s
    if s.flow ≠ .onward then (false, s)
    else if glyphs.fit text then (true, s)
    else fitsAny fuel text patterns s

/-- Runs a command of words: its words, redirections and assignments are expanded in this order. -/
def runSimple : Nat → Bool → List (String × Word) → List Word → List Redirection → State → State
  | 0, _, _, _, _, s => s.overrun
  | fuel + 1, tested, assignments, words, redirections, start =>
    let w := words.foldl (Words.add (capture fuel))
      { state := { start.pass State.stepTime with outputStatus := 0 } }
    if w.state.flow ≠ .onward then w.state
    else
      let fields := w.backwards.reverse
      let isSpecial := ((fields.head?).map fun name =>
        specialBuiltins.contains (String.ofList name)).getD false
      let (done, opened) := redirectAll (capture fuel) redirections w.state
      if !done then
        { opened with
          descriptors := start.descriptors
          flow := if isSpecial then .exiting else opened.flow }
      else
        let saved := assignments.map fun (x, _) => (x, start.binding? x)
        let exports := !fields.isEmpty && (!isSpecial || fields.head? = some "exec".toList)
        let (assigned, s) := assignAll (capture fuel) exports assignments opened
        if s.flow ≠ .onward then { s with descriptors := start.descriptors }
        else
          match fields with
          | [] =>
            let s := if assigned.isEmpty then s else s.trace start assigned []
            { s with status := s.outputStatus, descriptors := start.descriptors }
          | name :: args =>
            let s := s.trace start assigned fields
            let after := runNamed fuel tested true name args s
            let after := if isSpecial then after else after.restore saved
            if String.ofList name = "exec" ∧ args.isEmpty then after
            else { after with descriptors := start.descriptors }

/-- Runs what a name stands for. -/
def runNamed : Nat → Bool → Bool → Octets → List Octets → State → State
  | 0, _, _, _, _, s => s.overrun
  | fuel + 1, tested, withFunctions, name, args, s =>
    let x := String.ofList name
    match s.target x withFunctions with
    | .evaluate =>
      let after := runText fuel tested (List.intercalate [' '] args) { s with speaker := name }
      { after with speaker := s.speaker, lineRead := s.lineRead }
    | .include =>
      match args with
      | [] => s.succeed
      | path :: _ =>
        match s.files.readBytes (State.pathText path) with
        | .error fault =>
          { s with speaker := name }.fail
            (if path.contains '/' then State.inputFault path fault
              else path ++ Text.octets ": not found")
        | .ok bytes =>
          let source := s.sourceAt (State.pathText path) bytes
          let after := runLines fuel tested true source
            { s with calls := s.calls + 1, speaker := path }
          { after with
            calls := s.calls
            speaker := s.speaker
            lineRead := s.lineRead
            flow := if after.flow = .returning then .onward else after.flow }
    | .replace =>
      match args with
      | [] => s.succeed
      | program :: args =>
        (catchUp fuel s.soon s.unfinished { s with speaker := name }).replaceBy find program args
    | .through =>
      match args with
      | [['-', 'v']] | [['-', 'V']] => s.succeed
      | ['-', 'v'] :: name :: _ => s.locating (s.place? find) name
      | ['-', 'V'] :: name :: _ => s.telling (s.place? find) [name]
      | ['-', 'p'] :: name :: args | ['-', '-'] :: name :: args | name :: args =>
        runNamed fuel tested false name args s
      | [] => s.succeed
    | .builtin =>
      let after :=
        ({ s with speaker := name, lost := false }.builtin? (s.place? find) x args).getD s
      { after.mournLoss name with speaker := s.speaker }
    | .call body =>
      if maxCalls ≤ s.calls then
        s.fail (Text.octets "Maximum function recursion depth (1000) reached")
      else
        s.afterCall (runCommand fuel tested body
          { s with
            arguments := args
            loops := 0
            calls := s.calls + 1
            locals := [] :: s.locals })
    | .wait =>
      if args.isEmpty then
        let after := waitFor fuel s.unfinished s
        after.interrupted after.clock 0
      else
        match s.awaited args with
        | .ok jobs => (waitFor fuel jobs { s with status := 127 }).mournAll s jobs
        | .error what => { s with speaker := name }.reject what 2
    | .program =>
      let after := (catchUp fuel s.soon s.unfinished s).runProgram find name args
      catchUp fuel after.clock after.unfinished after

end

/-- How many steps a script may take at each depth. -/
def maxSteps : Nat := 1 <<< 26

/-- Runs a whole script. -/
def runScript (source : Source) (s : State) : State :=
  finish find maxSteps (runLines find maxSteps false true source s)

end Shell
end TemplateVariants
