import SqlScribe.CommandLine

/-!
# The program

Files, the standard streams and the environment for the command line.
-/

open SqlScribe SqlScribe.CommandLine

namespace SqlScribe.Program

/-- What there is under the name of a file. -/
def fileContent (path : String) : IO FileContent := do
  try
    return .readable (← IO.FS.readFile path)
  catch
    | .noFileOrDirectory .. => return .missing
    | fault => return .unreadable (toString fault)

/-- What is left of a stream. -/
partial def readRest (stream : IO.FS.Stream) (seen : String) : IO String := do
  let line ← stream.getLine
  if line.isEmpty then return seen else readRest stream (seen ++ line)

/-- The directories where a user keeps settings. -/
def settingsDirectories : IO (List String) := do
  match ← IO.getEnv "XDG_CONFIG_HOME", ← IO.getEnv "HOME" with
  | some directory, home =>
    if directory.startsWith "/" then return [directory]
    else return (home.map (· ++ "/.config")).toList
  | none, home => return (home.map (· ++ "/.config")).toList

end SqlScribe.Program

open SqlScribe.Program

/-- Runs the command line. -/
def main (args : List String) : IO UInt32 := do
  let outside : Outside IO := {
    fileContent
    readInput := do readRest (← IO.getStdin) ""
    print := IO.print
    settingsDirectories := ← settingsDirectories }
  let ending ← run outside (← IO.getEnv "POLYSQL_DATABASE_URL") args
  match ending with
  | .success => pure ()
  | .failure complaint => IO.eprintln ("Error: " ++ complaint)
  | .usage => IO.eprint usageText
  return ending.code
