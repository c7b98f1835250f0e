import Gatehouse.CommandLine

/-!
# The program

Reads the arguments, the environment and the files that settings may come from, and ends as
`Gatehouse.CommandLine.run` says.
-/

namespace Gatehouse.Main

/-- What stands under a path, if it can be read. -/
def entryAt? (path : String) : IO (Option FileEntry) := do
  try
    let octets ← IO.FS.readBinFile path
    return some (.file octets.toList)
  catch
    | .inappropriateType .. => return some .folder
    | _ => return none

/-- The environment that the program began with, in its order. -/
def environment : IO Dotenv.Environment := do
  let octets ← try IO.FS.readBinFile "/proc/self/environ" catch _ => return []
  let pairs := (Text.splitOn 0 octets.toList).filterMap fun entry => do
    let text ← Bytes.toText? entry
    let name := text.toList.takeWhile (· != '=')
    let value ← (text.toList.drop name.length).tail?
    pure (String.ofList name, String.ofList value)
  return pairs

/-- The files that settings may come from: that of variables and the one that is asked for. -/
def paths (arguments : List String) : List String :=
  match CommandLine.options ⟨none, false⟩ arguments with
  | .ok o => Surroundings.variablesFile :: o.file.toList
  | .error _ => []

/-- The surroundings as far as the arguments need them. -/
def surroundings (arguments : List String) : IO Surroundings := do
  let entries ← (paths arguments).filterMapM fun path => do
    return (← entryAt? path).map fun entry => (path, entry)
  return .ofEntries entries (← environment)

end Gatehouse.Main

/-- The program: prints what the command line has to say and exits. -/
def main (arguments : List String) : IO UInt32 := do
  match Gatehouse.CommandLine.run (← Gatehouse.Main.surroundings arguments) arguments with
  | .exit code stdout stderr =>
    IO.print stdout
    IO.eprint stderr
    return UInt32.ofNat code
  | .serve _ =>
    IO.eprintln (Gatehouse.CommandLine.program ++ ": there is no network to serve")
    return 1
