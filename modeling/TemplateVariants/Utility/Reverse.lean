import TemplateVariants.Utility.Columns
import TemplateVariants.Utility.Options
import TemplateVariants.Utility.Quoting

/-!
# Reversed texts

`tac` writes the lines of its inputs from the last to the first, and `rev` each line backwards.
-/

namespace TemplateVariants
namespace Reverse

def tacTable : OptionTable where
  shorts := [('b', .nothing), ('r', .nothing), ('s', .value)]
  longs := [("before", .nothing, 'b'), ("regex", .nothing, 'r'), ("separator", .value, 's')]

/-- The records of a text, with the separator that ends each; the number bounds them. -/
def records (separator : Octets) : Nat → Octets → Octets → List Octets
  | 0, before, rest => [before.reverse ++ rest]
  | _, [], [] => []
  | _, before, [] => [before.reverse]
  | fuel + 1, before, c :: rest =>
    if separator.isPrefixOf (c :: rest) then
      (before.reverse ++ separator) ::
        records separator fuel [] ((c :: rest).drop separator.length)
    else records separator fuel (c :: before) rest

def revTable : OptionTable where
  shorts := [('0', .nothing)]
  longs := [("zero", .nothing, '0')]

end Reverse

def tac : Utility := fun call =>
  let read := Reverse.tacTable.read call.arguments
  match read.fault? with
  | some what => call.refuseUsage what
  | none =>
    let separator := ((read.settings.find? (·.letter = 's')).map (·.value)).getD ['\n']
    if separator.isEmpty then call.refuse (Text.octets "separator cannot be empty")
    else
      let inputs := call.inputs read.operands fun operand reason =>
        if reason = StorageFault.reason .isDirectory then
          operand ++ Text.octets (": read error: " ++ reason)
        else
          Text.octets "failed to open " ++ Quoting.quoteName operand ++
            Text.octets (" for reading: " ++ reason)
      let output := inputs.texts.flatMap fun (_, text) =>
        (Reverse.records separator text.length [] text).reverse.flatten
      call.replyWith inputs output

def rev : Utility := fun call =>
  let read := Reverse.revTable.read call.arguments
  match read.fault? with
  | some what => call.refuseUsage what
  | none =>
    let inputs := call.inputs read.operands fun operand reason =>
      Text.octets "cannot open " ++ operand ++ Text.octets (": " ++ reason)
    let turn (line : Octets) : Octets :=
      if line.getLast? = some '\n' then line.dropLast.reverse ++ ['\n'] else line.reverse
    call.replyWith inputs
      (inputs.texts.flatMap fun (_, text) => (linesOf '\n' text).flatMap turn)

end TemplateVariants
