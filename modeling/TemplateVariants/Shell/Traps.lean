import TemplateVariants.Shell.Format
import TemplateVariants.Shell.Jobs

/-!
# Traps and kills

The built-in commands that say what is run on a signal, and that send signals.
-/

namespace TemplateVariants
namespace Shell
namespace State

/-! ## Traps -/

/-- Says what is run on a signal, or that nothing special is. -/
def setTrap (s : State) (signal : Nat) (action? : Option Octets) : State :=
  let others := s.traps.filter (·.1 != signal)
  match action? with
  | some action => { s with traps := (signal, action) :: others }
  | none => { s with traps := others }

/-- The commands that would set the traps again. -/
def trapListing (s : State) : Octets :=
  let sorted := s.traps.mergeSort fun a b => decide (a.1 ≤ b.1)
  sorted.flatMap fun (signal, action) =>
    Text.octets "trap -- " ++ quoteValue action ++ ' ' :: Text.octets (Signal.name signal) ++ ['\n']

/-- Sets the traps of signals up to the first word that names none. -/
def setTraps (action? : Option Octets) : List Octets → State → State
  | [], s => s.succeed
  | word :: words, s =>
    match Signal.read? 0 word with
    | some signal => setTraps action? words (s.setTrap signal action?)
    | none =>
      { s.write 2 (Text.octets "trap: " ++ word ++ Text.octets ": bad trap\n") with status := 1 }

def trapping (s : State) (args : List Octets) : State :=
  let isNumber (word : Octets) : Bool := word.all Char.isDigit && (Signal.read? 0 word).isSome
  let set (args : List Octets) : State :=
    match args with
    | [] => s.say s.trapListing
    | [word] => setTraps none [word] s
    | action :: words =>
      if !action.isEmpty && isNumber action then setTraps none args s
      else setTraps (if action = ['-'] then none else some action) words s
  match args with
  | ['-', '-'] :: args => set args
  | ('-' :: letter :: _) :: _ => s.reject (Text.octets "Illegal option -" ++ [letter]) 2
  | _ => set args

/-! ## Kills -/

def killUsage : Octets :=
  Text.octets "Usage: kill [-s sigspec | -signum | -sigspec] [pid | job]... or\n" ++
    Text.octets "kill -l [exitstatus]"

/-- The names of all signals, or that of the one which a number or a status stands for. -/
def listSignals (s : State) (words : List Octets) : State :=
  match words with
  | [] => s.say (Text.octets (String.join (("0" :: Signal.names.drop 1).map (· ++ "\n"))))
  | word :: _ =>
    if word.isEmpty || !word.all Char.isDigit then
      s.reject (Text.octets "Illegal number: " ++ word) 2
    else
      let n := Formatting.readNat word
      let signal := if 128 < n then n - 128 else n
      if 0 < signal ∧ signal ≤ Signal.last then s.say (Text.octets (Signal.name signal ++ "\n"))
      else s.reject (Text.octets "invalid signal number or exit status: " ++ word) 2

/-- Sends a signal to programs by their numbers. A job by its own number cannot be reached. -/
def sendAll (signal : Nat) : List Octets → State → State
  | [], s => s
  | word :: words, s =>
    let missing := { s.complain (Text.octets "No such process\n") with status := 1 }
    let digits := if word.head? = some '-' then word.tail else word
    match word with
    | '%' :: n =>
      let isThere (job : Job) : Bool := job.place == Formatting.readNat n
      if !n.isEmpty ∧ n.all Char.isDigit ∧ s.jobs.any isThere then sendAll signal words missing
      else s.reject (Text.octets "No such job: " ++ word) 2
    | _ =>
      if digits.isEmpty || !digits.all Char.isDigit then
        s.reject (Text.octets "Illegal number: " ++ digits) 2
      else if word = ['0'] then sendAll signal words ((s.send? s.number signal).getD s)
      else
        match s.send? (Formatting.readNat digits) signal with
        | some s => sendAll signal words s
        | none => sendAll signal words missing

def killing (s : State) (args : List Octets) : State :=
  let send (signal : Nat) (words : List Octets) : State :=
    if words.isEmpty then s.reject killUsage 2 else sendAll signal words s.succeed
  let bySpelling (spelling : Octets) (words : List Octets) : State :=
    match Signal.read? 1 spelling with
    | some signal => send signal words
    | none => s.reject (Text.octets "invalid signal number or name: " ++ spelling) 2
  match args with
  | [] => s.reject killUsage 2
  | ['-', '-'] :: words => send 15 words
  | ['-', 'l'] :: ['-', '-'] :: words | ['-', 'l'] :: words => s.listSignals words
  | ['-', 's'] :: [] => s.reject (Text.octets "No arg for -s option") 2
  | ['-', 's'] :: spelling :: ['-', '-'] :: words | ['-', 's'] :: spelling :: words =>
    bySpelling spelling words
  | ('-' :: spelling) :: words =>
    match Signal.read? 1 spelling, spelling with
    | some signal, _ => send signal words
    | none, 's' :: spelling => bySpelling spelling words
    | none, letter :: _ => s.reject (Text.octets "Illegal option -" ++ [letter]) 2
    | none, [] => s.reject (Text.octets "Illegal number: -") 2
  | words => send 15 words

/-! ## Jobs -/

/-- What a job has come to. -/
def phase (job : Job) : String :=
  match job.status?, job.signal?.bind Signal.obituary? with
  | none, _ => "Running"
  | some _, some text => text
  | some 0, none => "Done"
  | some status, none => "Done(" ++ Nat.repr status ++ ")"

/-- The table of some jobs, in which the latest two of all are marked. -/
def jobListing (s : State) (withNumbers : Bool) (jobs : List Job) : Octets :=
  let mark (job : Job) : String :=
    match s.jobs.findIdx? (·.number = job.number) with
    | some 0 => "+"
    | some 1 => "-"
    | _ => " "
  jobs.flatMap fun job =>
    let number := if withNumbers then Nat.repr job.number ++ " " else ""
    let text := "[" ++ Nat.repr job.place ++ "] " ++ mark job ++ " " ++ number ++ phase job
    Text.octets text ++ List.replicate (33 - text.length) ' ' ++ ['\n']

/-- The job that a word names: the latest, the one before it, or one by its place. -/
def jobOf? (s : State) (word : Octets) : Option Job :=
  match word with
  | [] | ['%'] | ['%', '%'] | ['%', '+'] => s.jobs.head?
  | ['%', '-'] => s.jobs.tail.head?
  | '%' :: n =>
    if n.all Char.isDigit then s.jobs.find? (·.place = Formatting.readNat n) else none
  | _ => none

/-- Shows the jobs that words name, or all; a job that is shown as done leaves the table. -/
def listingJobs (s : State) (args : List Octets) : State :=
  let (signs, words) := args.span fun arg => arg.head? = some '-'
  match words.find? fun word => (s.jobOf? word).isNone,
    signs.flatten.find? fun c => !"-lp".toList.contains c with
  | _, some letter => s.reject (Text.octets "Illegal option -" ++ [letter]) 2
  | some word, _ => s.reject (Text.octets "No such job: " ++ word) 2
  | none, none =>
    let jobs := if words.isEmpty then s.jobs else words.filterMap s.jobOf?
    let text :=
      if signs.flatten.contains 'p' then
        jobs.flatMap fun job => Text.octets (Nat.repr job.number ++ "\n")
      else s.jobListing (signs.flatten.contains 'l') jobs
    let isShown (job : Job) : Bool := jobs.any (·.number = job.number)
    { s.say text with jobs := s.jobs.filter fun job => job.status?.isNone || !isShown job }

/-- The jobs that the arguments of a command name that waits for jobs; a number that is that of no
job is passed over. -/
def awaited (s : State) : List Octets → Except Octets (List Job)
  | [] => .ok []
  | word :: words =>
    let isNumber := !word.isEmpty && word.all Char.isDigit
    if word.head? = some '%' then
      match s.jobOf? word with
      | some job => (s.awaited words).map (job :: ·)
      | none => .error (Text.octets "No such job: " ++ word)
    else if isNumber then
      match s.job? (Formatting.readNat word) with
      | some job => (s.awaited words).map (job :: ·)
      | none => s.awaited words
    else .error (Text.octets "Illegal number: " ++ word)

end State
end Shell
end TemplateVariants
