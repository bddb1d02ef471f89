import Filtergraph.Data.Json
import Filtergraph.Demo
import Filtergraph.World.Script

/-!
# The command line of the demonstration

The demonstration is rehearsed: the tools are not started, and the outcomes of their calls are
read from standard input, one table to a line.  Lines go to standard output, notes from the level
of information on and failures to standard error.
-/

namespace Filtergraph
namespace Main

/-- The greatest number of lists and tables inside each other in the description of an outcome. -/
def scriptDepth : Nat := 1000

/-- The outcomes that the lines of a stream describe. -/
partial def readScript (input : IO.FS.Stream) : IO (List Outcome) := do
  let line ← input.getLine
  if line.isEmpty then return []
  let outcome :=
    match Json.read scriptDepth line with
    | .ok value => Outcome.ofValue value
    | .error _ => .silent
  return outcome :: (← readScript input)

/-- Whether there is a file to be read at a path. -/
def isReadable (path : String) : IO Bool := do
  try
    let handle ← IO.FS.Handle.mk path .read
    let _ ← handle.read 1
    return true
  catch _ => return false

/-- Those of the paths at which there are files. -/
def readableFiles (paths : List String) : IO FileTree := do
  let present ← paths.filterM isReadable
  return .ofPaths [] present

/-- Shows an event. -/
def showEvent : Event -> IO Unit
  | .line text => IO.println text
  | .note logger note =>
    unless note.level = .debug do
      IO.eprintln (note.level.name ++ ":" ++ logger ++ ":" ++ note.message)
  | .call _ => return ()

end Main
end Filtergraph

open Filtergraph in
/-- Rehearses the demonstration. -/
def main (arguments : List String) : IO UInt32 := do
  let files ← Main.readableFiles arguments
  let script ← Main.readScript (← IO.getStdin)
  let (outcome, world) := (Demo.perform arguments).perform { files, script }
  world.trace.forM Main.showEvent
  match outcome with
  | .ok _ => return 0
  | .error failure =>
    IO.eprintln failure.message
    return 1
