import TemplateVariants.Utility.Options

/-!
# Copying the input

`tee` writes its input to its output and to files.
-/

namespace TemplateVariants
namespace Tee

def table : OptionTable where
  shorts := [('a', .nothing), ('i', .nothing), ('p', .nothing)]
  longs := [("append", .nothing, 'a'), ("ignore-interrupts", .nothing, 'i')]

/-- Writes a text to the file at a path, after what is there if that is kept. -/
def put (call : Call) (keeps : Bool) (reply : Reply) (path : Octets) : Reply :=
  let files := reply.files
  let refuse (fault : StorageFault) : Reply :=
    reply.complain call (path ++ Text.octets (": " ++ fault.reason))
  if path = "/dev/null".toList then reply
  else if path = "/dev/stdout".toList then reply.say call.input
  else if path = "/dev/stderr".toList then { reply with errors := reply.errors ++ call.input }
  else
    match files.target (pathOfOctets path) with
    | .error fault => refuse fault
    | .ok place =>
      let written := Text.bytesOfOctets call.input
      match files.node? place with
      | some (.file bytes) =>
        let whole := if keeps then bytes ++ written else written
        { reply with files := files.put place (.file whole) }
      | _ => { reply with files := files.putMasked place (.file written) call.mask }

end Tee

def tee : Utility := fun call =>
  let read := Tee.table.read call.arguments
  match read.fault? with
  | some what => call.refuseUsage what
  | none =>
    let keeps := read.settings.any (·.letter = 'a')
    read.operands.foldl (Tee.put call keeps) { call.done with output := call.input, unread := [] }

end TemplateVariants
