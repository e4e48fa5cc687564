import TemplateVariants.Shell.Signals
import TemplateVariants.Shell.State

/-!
# Subshells, signals and jobs

How a subshell starts and what it leaves behind; the signals that a shell gets and sends; the time,
and the commands that run in the background.
-/

namespace TemplateVariants
namespace Shell
namespace State

/-! ## Signals -/

/-- The signals that have come and wait to be dealt with. -/
def waiting (s : State) : List Nat :=
  if s.isInner then s.received else s.received ++ s.raised.map Prod.fst

/-- The next signal to be dealt with, and the state without it. -/
def nextSignal? (s : State) : Option (Nat × State) :=
  s.waiting.min?.map fun signal =>
    (signal,
      { s with
        received := s.received.filter (· != signal)
        raised := if s.isInner then s.raised else s.raised.filter (·.1 != signal) })

/-- What is run on a signal; an empty text stands for a signal that is passed over. -/
def trap? (s : State) (signal : Nat) : Option Octets :=
  if Signal.isCertain signal then none else s.traps.lookup signal

/-- A signal that has come and ends the script. -/
def fatalSignal? (s : State) : Option Nat :=
  s.waiting.find? fun signal => Signal.isFatal signal && (s.trap? signal).isNone

/-- The state with a status, or that of a command that a signal with a trap has interrupted. A
command that is done when the signal comes, or a moment later, is not interrupted. -/
def interrupted (s : State) (stop status : Nat) : State :=
  let trapped := s.raised.filter fun (signal, time) =>
    time + moment < stop ∧ ((s.trap? signal).map (!·.isEmpty)).getD false
  { s with status := ((trapped.map Prod.fst).min?.map (128 + ·)).getD status }
where
  moment : Nat := 500

/-- Takes note that a program that the shell has started is at its end. -/
def bury (s : State) : State :=
  if ((s.trap? childEnd).map (!·.isEmpty)).getD false then s.receive childEnd else s

/-- What is run at the end of the script; nothing is if a signal has brought it. -/
def farewell? (s : State) : Option Octets :=
  match s.flow with
  | .killed _ => none
  | _ => s.traps.lookup 0

/-- Ends the script because of a signal. -/
def die (s : State) (signal : Nat) : State :=
  { s with status := 128 + signal, flow := .killed signal }

/-- Says of a program that a signal has ended it. -/
def mourn (s : State) (signal? : Option Nat) : State :=
  match signal?.bind Signal.obituary? with
  | some text => s.write 2 (Text.octets text ++ ['\n'])
  | none => s

/-- Sends a signal to the program with a number: the shell itself, a job that is not done, or what
has called the shell; none if there is no such program. -/
def send? (s : State) (number signal : Nat) : Option State :=
  let waits (job : Job) : Bool := job.number == number && job.status?.isNone
  if number = s.number then
    if signal = 0 then some s
    else if s.isInner then
      some { s with raised := (signal, s.clock) :: s.raised.filter (·.1 ≠ signal) }
    else some (s.receive signal)
  else if s.jobs.any waits then
    let due (job : Job) : Job :=
      if waits job && signal != 0 then { job with due? := job.due? <|> some (s.clock, signal) }
      else job
    some { s with jobs := s.jobs.map due }
  else if number = s.caller then some { s with sent := (number, signal) :: s.sent }
  else none

/-! ## Time -/

/-- Lets the time come to `now`; a signal that is due before comes first. -/
def reach (s : State) (now : Nat) : State :=
  match s.due? with
  | some (due, signal) =>
    if due ≤ now then { s.receive signal with clock := max s.clock due, due? := none }
    else { s with clock := now }
  | none => { s with clock := now }

/-- Lets time pass. -/
def pass (s : State) (time : Nat) : State :=
  s.reach (s.clock + time)

/-- The times that a shell needs for a command of its own and to start a subshell, a subshell to get
going, and a utility to run. -/
def stepTime : Nat := 2

def startTime : Nat := 50

def delay : Nat := 200

def utilityTime : Nat := 1000

/-- When a utility that is started now has got going. -/
def soon (s : State) : Nat :=
  s.clock + utilityTime / 2

/-! ## Subshells -/

/-- The state that a subshell starts with: no signals, and of the traps those that pass signals
over. -/
def inner (s : State) : State :=
  { s with
    isInner := true
    traps := s.traps.filter (·.2.isEmpty)
    received := []
    jobs := [] }

/-- The state after a subshell that has come to `inner`: its files, its open files, its time and its
status remain. -/
def afterSubshell (s inner : State) : State :=
  { s with
    status := inner.status
    files := { inner.files with home := s.files.home }
    opened := inner.opened.take s.opened.size
    raised := inner.raised
    sent := inner.sent }.reach inner.clock

/-! ## Jobs -/

/-- The first free place in the table of the jobs. -/
def freePlace (s : State) : Nat :=
  ((List.range (s.jobs.length + 1)).find? fun n => s.jobs.all (·.place ≠ n + 1)).getD 0 + 1

/-- Sends a command to the background, where it reads nothing and is not interrupted from a
terminal. -/
def launch (s : State) (body : Command) : State :=
  let number := max s.number (s.lastJob?.getD 0) + 1
  let quiet := (s.openFor 0 .nothing).inner
  let job : Job :=
    { number
      place := s.freePlace
      start := s.clock + delay
      body
      scope := { quiet.toScope with traps := (2, []) :: (3, []) :: quiet.traps }
      home := s.files.home }
  { s with
    opened := quiet.opened
    clock := s.clock + startTime
    jobs := job :: s.jobs
    lastJob? := some number
    status := 0 }

/-- The state in which a job starts, for which a signal may be due. -/
def atStart (s : State) (job : Job) (due? : Option (Nat × Nat)) : State :=
  let start : State :=
    { s with
      toScope := job.scope
      clock := job.start
      due?
      jobs := []
      files := { s.files with home := job.home } }
  match due? with
  | some (due, signal) =>
    if due < job.start ∧ (start.trap? signal).isNone then start.die signal else start
  | none => start

/-- The signal that has ended a script. -/
def endSignal? (s : State) : Option Nat :=
  match s.flow with
  | .killed signal => some signal
  | _ => none

/-- The state after a job that has come to `inner`. -/
def afterJob (s inner : State) (job : Job) : State :=
  let done (other : Job) : Job :=
    if other.number = job.number then
      { other with status? := some inner.status, signal? := inner.endSignal?, stop := inner.clock }
    else other
  { s with
    files := { inner.files with home := s.files.home }
    opened := inner.opened.take s.opened.size
    raised := inner.raised
    sent := inner.sent
    jobs := s.jobs.map done }

/-- The jobs that are not done, in the order in which they have started. -/
def unfinished (s : State) : List Job :=
  (s.jobs.filter (·.status?.isNone)).reverse

def job? (s : State) (number : Nat) : Option Job :=
  s.jobs.find? (·.number = number)

/-- Waits until a job is done that has been run; its status becomes that of the shell. -/
def join (s : State) (number : Nat) : State :=
  match s.job? number with
  | some job =>
    { s with clock := max s.clock job.stop }.interrupted job.stop (job.status?.getD 0)
  | none => s

end State
end Shell
end TemplateVariants
