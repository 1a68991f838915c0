import Quill.Command.Run

set_option autoImplicit false

/-! The `quill` command. It reads the command line, loads the file the command reads (or
standard input), runs the command over it, writes back the files the run wrote, and prints the
run's two streams. -/
namespace Quill.Command

/-- The file a task reads; none for standard input. -/
def Task.input? : Task → Option String
  | .check f | .tokens f _ | .fmt f .. | .parse f .. => if f = "-" then none else some f
  | .version => none

/-- Whether a task reads standard input. -/
def Task.readsStdin : Task → Bool
  | .check f | .tokens f _ | .fmt f .. | .parse f .. => f = "-"
  | .version => false

/-- The file a task may write besides its input. -/
def Task.output? : Task → Option String
  | .parse _ _ o => o
  | _ => none

/-- The store a run starts from: the file the task reads as it is found, and the directory of
the file it may write, which is taken to exist. -/
def loadStore (task : Task) : IO Store := do
  let mut files : List (String × String) := []
  let mut dirs : List String := []
  if let some path := task.input? then
    try
      files := [(path, ← IO.FS.readFile path)]
    catch e =>
      match e with
      | .inappropriateType .. => dirs := [path]
      | .otherError code _ => if code == 21 then dirs := [path]
      | _ => pure ()
  if let some path := task.output? then
    let parent := "/".intercalate ((pathParts path).dropLast)
    if parent != "" then dirs := dirs ++ [parent]
  return Store.ofLists files dirs

end Quill.Command

open Quill.Command in
/-- Runs the command line and exits with the run's status. -/
def main (args : List String) : IO UInt32 := do
  let request := Request.ofArgs args
  let (stdin, store) ← match request with
    | .run _ task => do
      let stdin ← if task.readsStdin then (← IO.getStdin).readToEnd else pure ""
      pure (stdin, ← loadStore task)
    | _ => pure ("", Store.ofLists [] [])
  let outcome := request.outcome stdin store
  IO.print outcome.out
  IO.eprint outcome.err
  for (path, text) in outcome.store.files do
    if store.files.lookup path != some text then IO.FS.writeFile path text
  if let some kind := outcome.fault then IO.eprintln ("Error: " ++ kind)
  return outcome.status.toUInt32
