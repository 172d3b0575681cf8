import LabMatch.CommandLine.Run
import LabMatch.RunId

/-!
# The program

Runs the command on the files of the system and prints how it ended.
-/

namespace LabMatch

/-- The folder part of a path; empty if the path has none. -/
def folderOf (path : String) : String :=
  String.ofList ((path.toList.reverse.dropWhile (· != '/')).drop 1).reverse

def systemFiles : CommandLine.FileAccess IO where
  read path := do
    try return some (← IO.FS.readFile path) catch _ => return none
  write path content := do
    try
      let folder := folderOf path
      if !folder.isEmpty then IO.FS.createDirAll folder
      IO.FS.writeFile path content
      return true
    catch _ => return false

end LabMatch

/-- Runs the command line. -/
def main (arguments : List String) : IO UInt32 := do
  let environment ← IO.getEnv "TESTBED_RESOLVER_CONFIG"
  let runId := LabMatch.RunId.ofBytes (← IO.getRandomBytes 16).toList
  let outcome ← LabMatch.CommandLine.run LabMatch.systemFiles environment runId arguments
  (← IO.getStdout).putStr outcome.output
  if !outcome.complaint.isEmpty then (← IO.getStderr).putStrLn outcome.complaint
  return outcome.exitCode
