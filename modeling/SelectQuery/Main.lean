import SelectQuery.Command.Basic

namespace SelectQuery.Command

def addPath (base : String) (files : Files) (path : String) : IO Files := do
  try
    return files.add path (← IO.FS.readBinFile (base ++ path))
  catch
    | .noFileOrDirectory .. => return files
    | _ => return files.addDirectory path

def prefixes (path : String) : List String :=
  let parts := Files.components path
  (List.range parts.length).map fun i => "/".intercalate (parts.take (i + 1))

def addPaths (base : String) (files : Files) (paths : List String) : IO Files :=
  (paths.flatMap prefixes).foldlM (addPath base) files

def userDirectory : IO (Option String) := do
  match ← IO.getEnv "XDG_CONFIG_HOME" with
  | some path => if path.startsWith "/" then return some path
  | none => pure ()
  return (← IO.getEnv "HOME").map (· ++ "/.config")

def userFiles : IO (Option (String × Files)) := do
  match ← userDirectory with
  | none => return none
  | some path => return some (path, ← addPaths (path ++ "/") {} [userConfigurationName])

def surroundings : IO Surroundings := do
  return {
    files := ← addPaths "" {} [configurationName]
    userFiles := ← userFiles
    databaseUrl := ← IO.getEnv "QSPEC_DATABASE_URL"
    screen := .ofVariable (← IO.getEnv "CLICOLOR_FORCE") }

def find (around : Surroundings) (arguments : List String) : IO Surroundings := do
  match Request.ofArguments? around.databaseUrl arguments with
  | none => return around
  | some request => do
    let files ← addPaths "" around.files (wanted around request)
    return { around with files }

end SelectQuery.Command

open SelectQuery.Command in
def main (arguments : List String) : IO UInt32 := do
  let outcome := respond (← find (← surroundings) arguments) arguments
  IO.print outcome.output
  if !outcome.errors.isEmpty then IO.eprintln outcome.errors
  return outcome.code
