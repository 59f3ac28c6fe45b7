import EchoProbe.Command.Usage
import EchoProbe.Network
import EchoProbe.Report.Json
import EchoProbe.Settings.Loading

/-!
# Runs of the program

`Command.run` gives what the program writes and the code it exits with, for
the arguments, the environment, the files, the input and what else it meets
with. A command line that is refused exits with code 2, an error with code
1, and so does a probe whose outcome is a failure.
-/

namespace EchoProbe.Command

/-- **What the program meets with.** -/
structure Surroundings where
  /-- The environment. -/
  environment : Environment
  /-- The files of the working directory. -/
  files : FileTree
  /-- What the operator types. -/
  input : List UInt8
  /-- The network. -/
  network : Network
  /-- When the program is interrupted. -/
  interrupt : Session.Shutdown
  /-- The time that a scripted ping tells. -/
  now : Binary64
  /-- Whether the output is coloured. -/
  coloured : Bool

/-- What the operator is asked to do. -/
def prompt : String := "Start the proxy under test and press Enter to run the client test...\n"

/-- **What the program does.** -/
structure Result where
  /-- Whether it asks the operator before it writes anything. -/
  asked : Bool := false
  /-- What it writes then. -/
  output : String := ""
  /-- What it writes about errors. -/
  errors : String := ""
  /-- The code it exits with; none if it never does. -/
  code : Option UInt8
deriving DecidableEq, Repr

namespace Result

/-- All that it writes. -/
def written (r : Result) : String := if r.asked then prompt ++ r.output else r.output

/-- A success, silent or not. -/
def success (output : String) : Result := { output, code := some 0 }

/-- A probe that ran, and whether it succeeded. -/
def probed (output : String) (success : Bool) : Result :=
  { output, code := some (if success then 0 else 1) }

end Result

/-! ### Errors -/

/-- The text with this many blanks in front of each line but the first. -/
def hang (width : Nat) (text : String) : String :=
  String.intercalate ("\n" ++ String.ofList (List.replicate width ' ')) (text.splitOn "\n")

/-- One error of several, with its number. -/
def numbered (number : Nat) (text : String) : String :=
  let shown := Text.decimal number
  String.ofList (List.replicate (5 - shown.length) ' ') ++ shown ++ ": " ++ hang 7 text

/-- The errors below an error. A single one has no number. -/
def causes : List String → String
  | [] => ""
  | [cause] => "\n\nCaused by:\n    " ++ hang 4 cause
  | several =>
    "\n\nCaused by:\n" ++
      String.intercalate "\n" (several.zipIdx.map fun (cause, number) => numbered number cause)

/-- **What is written about an error**: its wording, and what lies below. -/
def errorText : List String → String
  | [] => ""
  | message :: sources => "Error: " ++ message ++ causes sources ++ "\n"

/-- The program ends with an error. -/
def failure (chain : List String) : Result := { errors := errorText chain, code := some 1 }

/-! ### Commands -/

/-- What the operator answers by typing: Enter, or the end of the input. -/
def handoff (input : List UInt8) : Session.Handoff :=
  match input with
  | [] => .cancelled
  | input =>
    let line := input.takeWhile (· != 10)
    if (Text.Utf8.decode? line).isSome then .proceed else .cancelled

/-- The text of a probe's report, as JSON or to be read. -/
def reportText (json coloured : Bool) (report : Report) : String :=
  if json then report.toPrettyJson ++ "\n" else report.render coloured

/-- The text of a session's report. Without a report of the probe there is
no JSON of it. -/
def sessionText (json coloured : Bool) (report : Session.Report) : String :=
  match json, report.probe? with
  | true, some probe => reportText json coloured probe
  | _, _ => report.render coloured

/-- **Run the echo server** until the interrupt. -/
def serve (settings : Settings) (w : Surroundings) : Result :=
  match Echo.Server.start settings.server (w.network.bind settings.server), w.interrupt with
  | .error error, _ => failure error.chain
  | .ok _, .at _ =>
    match w.network.stopped with
    | .ok () => .success ""
    | .error error => failure error.chain
  | .ok _, _ => { code := none }

/-- **Run the probe** once. -/
def probe (settings : Settings) (json : Bool) (w : Surroundings) : Result :=
  let script := Script.ofSettings settings.probe w.now
  let link := (w.network.link settings.probe.proxyUrl).cancelling w.interrupt.moment?
  match Probe.conduct settings.probe script link with
  | none => { code := none }
  | some (.error error) => failure error.chain
  | some (.ok report) => .probed (reportText json w.coloured report) report.outcome.isSuccess

/-- What the operator answers, unless nobody waits for it. -/
def answer (noWait : Bool) (w : Surroundings) : Session.Answer :=
  some (.zero, if noWait then .proceed else handoff w.input)

/-- **Run a session.** The operator is asked once the server has settled. -/
def session (settings : Settings) (choices : Choices) (w : Surroundings) : Result :=
  let s := w.network.surroundings settings w.interrupt (answer choices.noWait w) w.now
  let course := Session.run settings s
  let asked := !choices.noWait && course.actions.contains .settle
  let output := String.join (course.reports.map (sessionText choices.json w.coloured))
  let result : Result :=
    match course.result with
    | none => { code := none }
    | some (.error error) => failure error.chain
    | some (.ok report) => .probed "" report.isSuccess
  { result with asked, output }

/-- Check the settings first. -/
def validated (settings : Settings) (next : Settings → Result) : Result :=
  match settings.validate with
  | .ok () => next settings
  | .error error => failure error.chain

/-- **Carry out what a command line asks for.** -/
def perform (i : Invocation) (w : Surroundings) : Result :=
  match (Settings.load w.environment w.files i.choices.config).2 with
  | .error problem =>
    failure ["Failed to load configuration", (Error.config problem).message]
  | .ok loaded =>
    let settings := i.choices.apply loaded
    match i.verb with
    | .serve => validated settings (serve · w)
    | .probe => validated settings (probe · i.choices.json w)
    | .session => session settings i.choices w

/-- What is written when a command line is not carried out. -/
def stopped : Stop → Result
  | .refused refusal => { errors := refusalText refusal, code := some 2 }
  | .help place => .success (helpText place)
  | .version => .success versionText
  | .empty => { errors := helpText none, code := some 2 }

/-- **Run the program.** -/
def run (arguments : List String) (w : Surroundings) : Result :=
  match Invocation.parse arguments with
  | .ok invocation => perform invocation w
  | .error stop => stopped stop

end EchoProbe.Command
