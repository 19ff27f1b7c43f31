import RequestSurface.CommandLine

/-!
# The program

Reads the files that a command needs, runs the command on them and prints what it prints. The
network is out of reach: nothing answers there.
-/

namespace RequestSurface

/-- What stands at a place on the disk. -/
def entryOnDisk? (place : Path) : IO (Option FileEntry) := do
  let path := (← IO.currentDir) / place.text
  if ← path.isDir then return some .directory
  else if ← path.pathExists then
    try return some (.file (← IO.FS.readBinFile path).toList)
    catch _ => return some .closed
  else return none

/-- The files on the way to some paths. -/
def filesOnDisk (paths : List Path) : IO FileTree := do
  let entries ← (paths.flatMap FileTree.placesTo).filterMapM fun place => do
    return (← entryOnDisk? place).map fun entry => (place, entry)
  return { name := (← IO.currentDir).toString, entries }

/-- Run a command on the files of the disk. -/
def Command.runOnDisk (command : Command) : IO RunOutcome := do
  let first ← filesOnDisk command.configurationPaths
  let files ← filesOnDisk (command.configurationPaths ++ command.documentPaths first)
  return command.run { files }

end RequestSurface

/-- Run what the arguments ask for and end with its exit code. -/
def main (arguments : List String) : IO UInt32 := do
  match RequestSurface.Command.ofArguments? arguments with
  | none =>
      IO.eprintln "usage: generate [--config FILE] [--json] | version"
      return 2
  | some command =>
      let outcome ← command.runOnDisk
      IO.print outcome.output
      if outcome.fault.isSome then IO.eprintln "the output has tags or characters that do not fit"
      return outcome.exitCode.toUInt32
