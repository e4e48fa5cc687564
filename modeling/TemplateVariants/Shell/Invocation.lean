import TemplateVariants.Shell.Run

/-!
# Starting a shell

The shell is started on a script in a file, in an argument after `-c`, or in its own input. Modes
may come before it, and arguments for the script after it.
-/

namespace TemplateVariants
namespace Shell

/-- How a shell is started: its modes, whether the script is an argument, and the arguments left. -/
structure Invocation where
  modes : Modes := {}
  isCommand : Bool := false
  rest : List Octets := []

namespace Invocation

/-- Sets the modes of some letters, among which `c` says that the script is an argument; `l` changes
nothing. -/
def setLetters (i : Invocation) (isOn : Bool) (letters : List Char) : Except Octets Invocation :=
  let others := letters.filter fun letter => letter ≠ 'l' ∧ (!isOn ∨ letter ≠ 'c')
  (i.modes.setLetters isOn others).map fun modes =>
    { i with modes, isCommand := i.isCommand || (isOn && letters.contains 'c') }

/-- Reads the arguments of a shell. -/
def read (i : Invocation) : List Octets → Except Octets Invocation
  | [] => .ok i
  | (sign :: letters) :: args =>
    match isTurnedOn? sign with
    | none => .ok { i with rest := (sign :: letters) :: args }
    | some isOn =>
      if isOn ∧ (letters = [] ∨ letters = ['-']) then .ok { i with rest := args }
      else
        match i.setLetters isOn (letters.filter (· ≠ 'o')) with
        | .error what => .error what
        | .ok next =>
          if letters.contains 'o' then
            match args with
            | [] => .ok next
            | name :: args =>
              match next.modes.setName isOn name with
              | .error what => .error what
              | .ok modes => read { next with modes } args
          else read next args
  | [] :: args => .ok { i with rest := [] :: args }

end Invocation

/-- The state of a shell before its script, and the script. -/
structure Start where
  script : Source
  state : State

/-- The variables that a shell starts with. -/
def firstVariables (call : Call) : List (String × Binding) :=
  let own : List (String × Binding) :=
    [("IFS", { value? := some defaultSeparators }), ("OPTIND", { value? := some ['1'] }),
      ("PPID", { value? := some (State.decimal call.caller) }),
      ("PS1", { value? := some (Text.octets "# ") }),
      ("PS2", { value? := some (Text.octets "> ") }),
      ("PS4", { value? := some (Text.octets "+ ") }),
      ("PWD",
        { value? := some (Text.octets ("/" ++ String.intercalate "/" call.files.home))
          isExported := true })]
  let given := call.environment.filter fun (x, _) => (own.lookup x).isNone
  let path : List (String × Binding) :=
    if (given.lookup "PATH").isSome then [] else [("PATH", { value? := some defaultDirectories })]
  own ++ path ++ given.map fun (x, value) => (x, { value? := some value, isExported := true })

/-- The number of a shell that a program has called, a while after that has started. -/
def numberOf (call : Call) : Nat :=
  call.caller + 100

/-- Whether the script comes from the input of the shell. -/
def Invocation.readsInput (i : Invocation) : Bool :=
  !i.isCommand && (i.modes.fromInput || i.rest.isEmpty)

/-- The state of a shell that starts on nothing in particular. -/
def Invocation.state (i : Invocation) (call : Call) : State :=
  { name := Text.octets call.name
    number := numberOf call
    caller := call.caller
    bindings := firstVariables call
    modes := if i.readsInput then i.modes.withoutJobs.reading else i.modes.withoutJobs
    prompts := i.modes.prompts
    mask := call.mask
    traps := call.ignored.map fun signal => (signal, [])
    descriptors := [(0, 0), (1, 1), (2, 2)]
    opened := #[.source (if i.readsInput then [] else call.input), .sink [] none, .sink [] none]
    files := call.files }

/-- The script that a shell runs, with the name and the arguments it gets. -/
def Invocation.start (i : Invocation) (call : Call) : Except Octets Start :=
  let s := i.state call
  let onSource (source : Source) (s : State) : Start :=
    ⟨{ source with prompts := s.prompts && !i.isCommand, repeats := !i.isCommand },
      if i.modes.controlsJobs || i.modes.prompts then s.complain (Text.octets Modes.noTerminal)
      else s⟩
  let onText (text : Octets) (s : State) : Start :=
    onSource (.ofText (text.filter (· ≠ '\x00')) 0) s
  match i.isCommand, i.rest with
  | true, [] => .error (Text.octets "-c requires an argument")
  | true, text :: [] => .ok (onText text s)
  | true, text :: name :: arguments => .ok (onText text { s with name, arguments })
  | false, [] => .ok (onText call.input s)
  | false, path :: arguments =>
    if i.modes.fromInput then .ok (onText call.input { s with arguments := path :: arguments })
    else
      let s := { s with name := path, arguments }
      match call.files.readBytes (State.pathText path) with
      | .ok bytes => .ok (onSource (s.sourceAt (State.pathText path) bytes) s)
      | .error .isDirectory => .ok (onText [] s)
      | .error fault => .error (State.inputFault path fault)

/-- The shell, with a function that finds the utilities that its scripts run. -/
def sh (find : Finder) : Utility := fun call =>
  let refuse (what : Octets) : Reply :=
    { call.done 2 with errors := Text.octets (call.name ++ ": 0: ") ++ what ++ ['\n'] }
  match Invocation.read {} call.arguments with
  | .error what => refuse what
  | .ok i =>
    match i.start call with
    | .error what => refuse what
    | .ok start =>
      let after := runScript find start.script start.state
      { output := after.collected 1
        errors := after.collected 2
        status := after.status
        unread := after.pending 0
        duration := after.clock
        signal? := after.endSignal?
        sent := after.sent
        files := { after.files with home := call.files.home } }

end Shell
end TemplateVariants
