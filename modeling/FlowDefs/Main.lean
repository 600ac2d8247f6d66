import FlowDefs.Command.Snapshot
import FlowDefs.Json.Reader
set_option autoImplicit false

open FlowDefs

-- The parser runs before the program and leaves the trees of the declaration files here, by path; a
-- hyphen stands for the standard input.
def outlinesFile : String := ".tsflow/outlines.json"

def readText? (path : String) : IO (Option String) := do
  try
    return some (← IO.FS.readFile path)
  catch _ =>
    return none

def readOutlines : IO (List (String × Json)) := do
  let text ← readText? outlinesFile
  return ((text.bind Json.ofText?).bind Json.object?).getD []

def readSource (outlines : List (String × Json)) (path : String) :
    IO (Option (String × Source)) := do
  match ← readText? path with
  | none => return none
  | some text =>
    return some (path, ⟨text, (outlines.lookup path).bind (Node.ofJson? text)⟩)

-- The configuration file for all projects, in the directory that the user's settings name.
def readGeneral : IO (Option String) := do
  match ← IO.getEnv "XDG_CONFIG_HOME", ← IO.getEnv "HOME" with
  | some directory, _ => readText? (directory ++ "/tsflow/config.toml")
  | none, some home => readText? (home ++ "/.config/tsflow/config.toml")
  | none, none => return none

def readInput (arguments : List String) : IO String := do
  if arguments.contains "-" then (← IO.getStdin).readToEnd else return ""

def projectFileOf (arguments : List String) : String :=
  match Invocation.ofArguments arguments with
  | .run (some root) _ => (root.below Environment.projectFile).text
  | _ => Text.join "/" Environment.projectFile

def readSnapshot (arguments : List String) : IO Snapshot := do
  let outlines ← readOutlines
  let paths := projectFileOf arguments :: (outlines.map Prod.fst).filter (· ≠ "-")
  let files ← paths.filterMapM (readSource outlines)
  let text ← readInput arguments
  return ⟨files, ⟨text, (outlines.lookup "-").bind (Node.ofJson? text)⟩, ← readGeneral⟩

def saveChange (change : String × String) : IO Unit := do
  let parent := (Path.ofText change.1).parent.text
  unless parent.isEmpty do
    IO.FS.createDirAll parent
  IO.FS.writeFile change.1 change.2

def main (arguments : List String) : IO UInt32 := do
  let snapshot ← readSnapshot arguments
  let exit := snapshot.run arguments
  (snapshot.changes exit).forM saveChange
  (← IO.getStdout).putStr exit.output
  exit.messages.forM fun message => do
    (← IO.getStderr).putStrLn message
  return exit.code.toUInt32
