import TemplateVariants.Shell.State
import TemplateVariants.Utility.Basic

/-!
# Redirections

Opening a file for a descriptor, and letting one descriptor stand for what another stands for. Some
paths lead to no file: one is always empty, and others are the descriptors of the script itself.
-/

namespace TemplateVariants
namespace Shell
namespace State

def pathText (path : Octets) : String :=
  Text.decodeLossy (Text.bytesOfOctets path)

/-- The descriptor that a path stands for. -/
def deviceDescriptor? (path : String) : Option Nat :=
  match path with
  | "/dev/stdin" | "/dev/fd/0" => some 0
  | "/dev/stdout" | "/dev/fd/1" => some 1
  | "/dev/stderr" | "/dev/fd/2" => some 2
  | _ => none

/-- Lets a descriptor stand for what another stands for. -/
def duplicate (s : State) (fd source : Nat) : Except Octets State :=
  match s.descriptor? source with
  | some index => .ok (s.redirect fd index)
  | none => .error (decimal source ++ Text.octets ": Bad file descriptor")

def inputFault (path : Octets) (fault : StorageFault) : Octets :=
  let reason := if fault = .missing then "No such file" else fault.reason
  Text.octets "cannot open " ++ path ++ Text.octets (": " ++ reason)

def outputFault (path : Octets) (fault : StorageFault) : Octets :=
  let reason := if fault = .missing then "Directory nonexistent" else fault.reason
  Text.octets "cannot create " ++ path ++ Text.octets (": " ++ reason)

/-- Opens the file at a path to be read. -/
def openInput (s : State) (fd : Nat) (path : Octets) : Except Octets State :=
  match s.files.locate (pathText path) with
  | .error fault => .error (inputFault path fault)
  | .ok place =>
    match s.files.node? place with
    | none => .error (inputFault path .missing)
    | some .directory => .ok (s.openFor fd .nothing)
    | some (.file _) => .ok (s.openFor fd (.file place 0 false))

/-- Opens the file at a path to be written; a file that is there loses its bytes unless it is
kept. -/
def openOutput (s : State) (fd : Nat) (path : Octets) (keep appends exclusive : Bool) :
    Except Octets State :=
  match s.files.target (pathText path) with
  | .error fault => .error (outputFault path fault)
  | .ok place =>
    let isThere := (s.files.node? place).isSome
    if isThere && exclusive then .error (outputFault path .exists)
    else
      let files :=
        if !isThere then s.files.putMasked place (.file .empty) s.mask
        else if keep then s.files
        else s.files.put place (.file .empty)
      .ok ({ s with files }.openFor fd (.file place 0 appends))

/-- Opens the file at a path for a descriptor. -/
def openPath (s : State) (fd : Nat) (opening : Opening) (path : Octets) : Except Octets State :=
  let text := pathText path
  match deviceDescriptor? text with
  | some source => s.duplicate fd source
  | none =>
    if text = "/dev/null" then .ok (s.openFor fd .nothing)
    else if text = "/dev/full" then .ok (s.openFor fd .full)
    else if text = "/dev/zero" then .ok (s.openFor fd (.source (List.replicate zeroRoom '\x00')))
    else
      match opening with
      | .input => s.openInput fd path
      | .output => s.openOutput fd path false false s.modes.keepsFiles
      | .anyway => s.openOutput fd path false false false
      | .appending => s.openOutput fd path true true false
      | .both => s.openOutput fd path true false false

/-- Whether a text names a descriptor, or the closing of one. -/
def isDescriptor (source : Octets) : Bool :=
  match source with
  | [c] => c.isDigit || c == '-'
  | _ => false

/-- Makes a descriptor a copy of the one that a text names, or closes it. -/
def copyDescriptor (s : State) (fd : Nat) (source : Octets) : Except Octets State :=
  if source = ['-'] then .ok (s.close fd) else s.duplicate fd ((numberOf? source).getD 0)

end State
end Shell
end TemplateVariants
