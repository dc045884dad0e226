import KeyCatalog.CommandLine
/-!
The command: it reads the input, works out the listings, and writes them to the file system. What
to write and every message come from the library.
-/
namespace KeyCatalog.Command

def readText? (path : String) : IO (Option String) := do
  try
    return some (← IO.FS.readFile path)
  catch _ =>
    return none

/-- Writes the staged copy of an output and gives its path. -/
def stage (output : Output) : IO String := do
  let number ← IO.rand 100000000 999999999
  let path := Path.directory output.path ++ "/.tmp" ++ toString number
  let handle ← IO.FS.Handle.mk path .writeNew
  handle.putStr output.contents
  handle.flush
  IO.setAccessRights path ⟨⟨true, true, false⟩, ⟨true, false, false⟩, ⟨true, false, false⟩⟩
  return path

def discard (path : String) : IO Unit := do
  try
    IO.FS.removeFile path
  catch _ =>
    return ()

/-- Stages outputs and gives the paths of the copies, or none of them if one cannot be staged. -/
def stageAll (outputs : List Output) : IO (Except Output.WriteError (List String)) := do
  let mut staged := []
  for output in outputs do
    try
      staged := staged ++ [← stage output]
    catch _ =>
      staged.forM discard
      return .error (.unstaged (Path.directory output.path))
  return .ok staged

def replaceAll (copies : List (Output × String)) : IO (Except Output.WriteError Unit) := do
  let mut waiting := copies
  for (output, copy) in copies do
    try
      IO.FS.rename copy output.path
      waiting := waiting.tail
    catch _ =>
      waiting.forM fun (_, copy) => discard copy
      return .error (.unreplaced output.path)
  return .ok ()

def writeAll (workingDirectory : Place) (outputs : List Output) :
    IO (Except Output.WriteError Unit) := do
  match Output.checkDestinations workingDirectory [] outputs with
  | .error error => return .error error
  | .ok () =>
    match ← stageAll outputs with
    | .error error => return .error error
    | .ok staged => replaceAll (outputs.zip staged)

def fail (message : String) : IO Nat := do
  IO.eprintln message
  return CommandLine.failure

def carryOut (request : Request) : IO Nat := do
  let text? ← match request.input with
    | some path => readText? path
    | none => pure none
  let workingDirectory := Path.steps (← IO.currentDir).toString
  match Generation.plan workingDirectory request text? with
  | .error error => fail error.message
  | .ok plan =>
    match ← writeAll workingDirectory plan.outputs with
    | .error error => fail error.message
    | .ok () => return CommandLine.success

def helpLines : List String :=
  ["Generate Go and TypeScript registries of Kubernetes metadata keys", "",
    "Usage: key-catalog [OPTIONS] --output_go <OUTPUT_GO> --output_ts <OUTPUT_TS>", "",
    "Options:"] ++
    CommandLine.Flag.all.map fun flag => "  " ++ flag.name ++ "  " ++ flag.purpose

/-- Runs the command and gives its exit code. -/
def run (arguments : List String) : IO Nat := do
  match CommandLine.parse arguments with
  | .help =>
    helpLines.forM IO.println
    return CommandLine.success
  | .wrong =>
    helpLines.forM IO.eprintln
    return CommandLine.misuse
  | .options options =>
    match options.request with
    | .error error => fail error.message
    | .ok request => carryOut request

end KeyCatalog.Command

/-- The entry point of the command. -/
def main (arguments : List String) : IO UInt32 := do
  return (← KeyCatalog.Command.run arguments).toUInt32
