import LiveTable.CommandLine.Output

/-!
# The command line

Reads the files that the arguments name, writes the page asked for and sets the exit code.
-/

namespace LiveTable.CommandLine

/-- The paths that the arguments name. -/
def paths (arguments : List String) : List String :=
  match Arguments.read arguments with
  | .ok a => [a.data, a.config, a.template].filterMap id
  | .error _ => []

/-- The bytes of a file, if it can be read. -/
def content (path : String) : IO (Option ByteArray) := do
  try
    return some (← IO.FS.readBinFile path)
  catch _ =>
    return none

/-- The files at some paths. -/
def files (paths : List String) : IO Files := do
  let contents ← paths.mapM content
  return fun path => ((paths.zip contents).lookup path).bind id

end LiveTable.CommandLine

/-- Shows a page of rows. -/
def main (arguments : List String) : IO UInt32 := do
  let files ← LiveTable.CommandLine.files (LiveTable.CommandLine.paths arguments)
  match LiveTable.CommandLine.output files arguments with
  | .ok text =>
    IO.print text
    return 0
  | .error failure =>
    IO.eprintln failure.message
    return failure.code
