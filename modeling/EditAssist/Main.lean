import EditAssist.CommandLine

/-! The command itself: it reads the files that may be asked for, runs, and prints. -/
namespace EditAssist.Main

/-- Read a file from disk. -/
def readFile (path : List Char) : IO (Except ReadFault (List UInt8)) := do
  try
    let bytes ← IO.FS.readBinFile (String.ofList path)
    return .ok bytes.toList
  catch e =>
    match e with
    | .inappropriateType .. => return .error .isFolder
    | _ => return .error .notFound

/-- The files the command may ask for: the configuration, its catalog and the input. -/
def gather (home : Option (List Char)) (args : List (List Char)) :
    IO (List (List Char × Except ReadFault (List UInt8))) := do
  let mut found := []
  for path in (CommandLine.configPath home).toList ++ args do
    found := (path, ← readFile path) :: found
  let config := CommandLine.loadConfig (fun p => (found.lookup p).getD (.error .notFound)) home
  for path in config.catalogPath.toList do
    found := (path, ← readFile path) :: found
  return found

end EditAssist.Main

open EditAssist in
def main (args : List String) : IO UInt32 := do
  let home := (← IO.getEnv "HOME").map String.toList
  let noColor := (← IO.getEnv "NO_COLOR").isSome
  let arguments := args.map String.toList
  let found ← Main.gather home arguments
  let world : CommandLine.World :=
    { read := fun p => (found.lookup p).getD (.error .notFound), home, noColor }
  let outcome := CommandLine.run world arguments
  IO.print (String.ofList outcome.output)
  for f in outcome.failure.toList do
    IO.eprintln ("Error: " ++ String.ofList f.message)
  return outcome.code.toUInt32
