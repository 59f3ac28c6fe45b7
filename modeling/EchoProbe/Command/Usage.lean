import EchoProbe.Command.Arguments

/-!
# Usage texts

The version of the program and the help on it and on its commands.
-/

namespace EchoProbe.Command

/-- What the program is. -/
def about : String := "WebSocket proxy compliance harness"

/-- The version of the program. -/
def versionText : String := programName ++ " 0.1.0\n"

/-- A table of two columns, the first as wide as its widest entry. -/
def table (rows : List (String × String)) : String :=
  let width := (rows.map fun r => r.1.length).foldl max 0
  String.join (rows.map fun (left, right) =>
    "  " ++ left ++ String.ofList (List.replicate (width - left.length + 2) ' ') ++ right ++ "\n")

/-- A flag with its letter, as it stands in a table. -/
def Flag.entry (f : Flag) : String :=
  match f.letter? with
  | some letter => String.ofList ['-', letter, ',', ' '] ++ f.shown
  | none => "    " ++ f.shown

/-- The table of the flags of a place. -/
def flagTable (place : Place) : String :=
  "Options:\n" ++ table (place.flags.map fun f => (f.entry, f.purpose))

/-- The table of the commands. -/
def verbTable : String :=
  "Commands:\n" ++ table (Verb.all.map fun v => (v.name, v.purpose))

/-- **The help on a place.** -/
def helpText : Place → String
  | none =>
    about ++ "\n\nUsage: " ++ programName ++ " [OPTIONS] <COMMAND>\n\n" ++ verbTable ++ "\n" ++
      flagTable none
  | some verb =>
    verb.purpose ++ "\n\nUsage: " ++ programName ++ " " ++ verb.name ++ " [OPTIONS]\n\n" ++
      flagTable (some verb)

/-- What is written about a command line that is refused. -/
def refusalText (refusal : Refusal) : String :=
  "error: " ++ refusal.message ++ "\n\nFor more information, try '--help'.\n"

end EchoProbe.Command
