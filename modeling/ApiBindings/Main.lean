import ApiBindings.Command.Arguments
import ApiBindings.Command.Run

/-!
The program: it reads its arguments, carries out the command and says how it went.
-/

namespace ApiBindings

def succeeds (action : IO Unit) : IO Bool := do
  try
    action
    return true
  catch _ => return false

/-- What cannot be read for another reason than its absence is there. -/
instance : FileSystem IO where
  isPresent path := do
    try
      discard (IO.FS.readFile path)
      return true
    catch
      | .noFileOrDirectory .. => return false
      | _ => return true
  read? path := do
    try return some (← IO.FS.readFile path)
    catch _ => return none
  createDirectories path := succeeds (IO.FS.createDirAll path)
  write path text := succeeds (IO.FS.writeFile path text)

end ApiBindings

open ApiBindings in
def main (args : List String) : IO UInt32 := do
  match Command.ofArguments? args with
  | none =>
    IO.eprintln "usage: stg generate | validate | inspect | init"
    return 2
  | some command =>
    let report ← command.run
    IO.print report.output
    IO.eprint report.diagnostics
    return if report.succeeded then 0 else 1
