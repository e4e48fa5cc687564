import TemplateVariants.Text.Octets

/-!
# Signals

The signals by number and name. The number zero stands for the end of a script where a signal may be
caught.
-/

namespace TemplateVariants
namespace Shell
namespace Signal

/-- The number of the last signal. -/
def last : Nat := 64

/-- The names of the signals from number zero on, as far as they are not counted from an end. -/
def firstNames : List String :=
  ["EXIT", "HUP", "INT", "QUIT", "ILL", "TRAP", "ABRT", "BUS", "FPE", "KILL", "USR1", "SEGV",
    "USR2", "PIPE", "ALRM", "TERM", "16", "CHLD", "CONT", "STOP", "TSTP", "TTIN", "TTOU", "URG",
    "XCPU", "XFSZ", "VTALRM", "PROF", "WINCH", "IO", "PWR", "SYS", "32", "33", "RTMIN"]

/-- The names of all signals from number zero on. -/
def names : List String :=
  firstNames ++ (List.range 15).map (fun n => "RTMIN+" ++ Nat.repr (n + 1)) ++
    (List.range 14).map (fun n => "RTMAX-" ++ Nat.repr (14 - n)) ++ ["RTMAX"]

def name (signal : Nat) : String :=
  names.getD signal ""

/-- What is said of a program that a signal has ended. -/
def obituary? (signal : Nat) : Option String :=
  match signal with
  | 1 => some "Hangup"
  | 3 => some "Quit"
  | 4 => some "Illegal instruction"
  | 5 => some "Trace/breakpoint trap"
  | 6 => some "Aborted"
  | 7 => some "Bus error"
  | 8 => some "Floating point exception"
  | 9 => some "Killed"
  | 10 => some "User defined signal 1"
  | 11 => some "Segmentation fault"
  | 12 => some "User defined signal 2"
  | 14 => some "Alarm clock"
  | 15 => some "Terminated"
  | 16 => some "Stack fault"
  | 24 => some "CPU time limit exceeded"
  | 25 => some "File size limit exceeded"
  | 26 => some "Virtual timer expired"
  | 27 => some "Profiling timer expired"
  | 29 => some "I/O possible"
  | 30 => some "Power failure"
  | 31 => some "Bad system call"
  | _ => none

/-- Whether a signal ends a program that does not expect it. The signals that would stop a program
for a while are passed over. -/
def isFatal (signal : Nat) : Bool :=
  signal != 0 && !(17 ≤ signal && signal ≤ 23) && signal != 28

/-- Whether a signal cannot be caught. -/
def isCertain (signal : Nat) : Bool :=
  signal == 9 || signal == 19

/-- The signal that a number or a name, in letters of any case, stands for; `least` is the least
number that counts. -/
def read? (least : Nat) (text : Octets) : Option Nat :=
  if !text.isEmpty && text.all Char.isDigit then
    let n := text.foldl (fun n c => 10 * n + (c.toNat - '0'.toNat)) 0
    if n ≤ last then some n else none
  else
    let upper := String.ofList (text.map Char.toUpper)
    (names.findIdx? (· == upper)).filter (least ≤ ·)

end Signal
end Shell
end TemplateVariants
