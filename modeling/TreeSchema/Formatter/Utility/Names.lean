import TreeSchema.Formatter.Utility.Files

/-!
Programs that take names out of paths.
-/

namespace TreeSchema.Utility

open Text (Octets)

/-- A path without its last name. -/
def directoryName (path : Octets) : Octets :=
  let trimmed := path.toList.reverse.dropWhile (· == '/')
  if trimmed.isEmpty then (if path.isEmpty then "." else "/")
  else
    let above := trimmed.dropWhile (· != '/')
    if above.isEmpty then "."
    else
      let above := above.dropWhile (· == '/')
      if above.isEmpty then "/" else String.ofList above.reverse

def dirname : Utility := fun args =>
  withArguments "z" "" args 1 fun arguments => do
    if arguments.operands.isEmpty then Task.complainOfUse "missing operand" 1
    arguments.operands.forM fun path => Task.say (directoryName path ++ "\n")

/-- The last name of a path without an ending. -/
def baseName (ending path : Octets) : Octets :=
  let name := lastName path
  if name != ending && name.endsWith ending then takeOctets (name.length - ending.length) name
  else name

def basename : Utility := fun args =>
  withArguments "az" "s" args 1 fun arguments => do
    let several := arguments.has 'a' || arguments.has 's'
    match arguments.operands with
    | [] => Task.complainOfUse "missing operand" 1
    | operands =>
      if several then
        operands.forM fun path =>
          Task.say (baseName ((arguments.value? 's').getD "") path ++ "\n")
      else
        match operands with
        | [path] => Task.say (baseName "" path ++ "\n")
        | [path, ending] => Task.say (baseName ending path ++ "\n")
        | _ =>
          let extra := (operands[2]?).getD ""
          Task.complainOfUse s!"extra operand {inQuotes extra}" 1

end TreeSchema.Utility
