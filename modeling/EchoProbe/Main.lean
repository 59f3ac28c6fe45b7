import EchoProbe.Command.Run
import EchoProbe.Isolation

/-!
# The program

Reads the environment, the files and what the operator types, runs the
program, and writes what it says. The program runs on a host without a
network: it binds no address and makes no connection.
-/

namespace EchoProbe.Main

/-- The variables in a block of bytes, each ended by a zero. -/
def environmentOf (bytes : List UInt8) : List (String × List UInt8) :=
  (bytes.splitBy fun _ b => b != 0).filterMap fun entry =>
    let entry := entry.filter (· != 0)
    let name := entry.takeWhile (· != 61)
    (Text.Utf8.decode? name).map fun name => (name, entry.drop (name.utf8ByteSize + 1))

/-- The environment of this process. -/
def environment : IO Environment := do
  try return ⟨environmentOf (← IO.FS.readBinFile "/proc/self/environ").toList⟩
  catch _ => return .empty

/-- What stands at a path. -/
def entry? (path : String) : IO (Option FileEntry) := do
  try return some (.file (← IO.FS.readBinFile path).toList)
  catch
    | .inappropriateType .. => return some .directory
    | _ => return none

/-- What stands at some paths. -/
def files (paths : List String) : IO FileTree := do
  let mut entries := #[]
  for path in paths do
    if let some e ← entry? path then entries := entries.push (path, e)
  return .ofList entries.toList

/-- The paths that a command line may lead to from a working directory: those
of environment files, there and in each directory above, and of documents. -/
def paths (directory : String) (arguments : List String) : List String :=
  let given :=
    match Command.Invocation.parse arguments with
    | .ok invocation => invocation.choices.config.toList
    | .error _ => []
  let steps := List.range ((FileTree.parts directory).length + 1)
  let envFiles := steps.map fun n =>
    String.intercalate "/" (FileTree.up n ++ [Settings.envFileName])
  envFiles ++ Settings.defaultPath :: given

/-- The second at which this host was started. -/
def startTime (text : String) : Nat :=
  ((text.splitOn "\n").filterMap fun line =>
    match line.splitOn " " with
    | ["btime", seconds] => seconds.toNat?
    | _ => none).headD 0

/-- The time in seconds. -/
def clock : IO Binary64 := do
  let started ← try pure (startTime (← IO.FS.readFile "/proc/stat")) catch _ => pure 0
  let nanos ← IO.monoNanosNow
  return .ofDecimal false (started * 10 ^ 9 + nanos) (-9)

/-- Go on for ever. -/
partial def rest : IO Unit := do
  IO.sleep 60000
  rest

end EchoProbe.Main

open EchoProbe in
/-- **Run the program.** The operator is asked first, if at all. -/
def main (arguments : List String) : IO UInt32 := do
  let output ← IO.getStdout
  let errors ← IO.getStderr
  let surroundings : Command.Surroundings := {
    environment := ← Main.environment
    files := ← Main.files (Main.paths (← IO.currentDir).toString arguments)
    input := []
    network := Isolation.network []
    interrupt := .never
    now := ← Main.clock
    coloured := ← output.isTty }
  let silent := Command.run arguments surroundings
  let result ←
    if silent.asked then do
      output.putStr Command.prompt
      output.flush
      let line ← (← IO.getStdin).getLine
      pure (Command.run arguments { surroundings with input := Text.Utf8.encode line })
    else pure silent
  output.putStr result.output
  output.flush
  errors.putStr result.errors
  match result.code with
  | some code => return code.toUInt32
  | none =>
    Main.rest
    return 0
