import EchoProbe.Settings
import EchoProbe.Settings.Problem
import EchoProbe.Settings.Overrides

/-!
# Flags of the command line

A flag is a switch or takes a value. What the flags choose is collected in
`Choices`, and `Choices.apply` lets it win over the settings that were
loaded. A value is read when its flag is dealt with; a value that the flag
cannot take, a value that is missing, and a flag that is repeated are
refused.
-/

namespace EchoProbe.Command

/-- **The flags.** -/
inductive Flag where
  /-- Where the settings stand. -/
  | config
  /-- Write the log as JSON. -/
  | jsonLogs
  /-- The interface of the echo server. -/
  | host
  /-- The port of the echo server. -/
  | port
  /-- The address to probe. -/
  | proxyUrl
  /-- The scenario. -/
  | scenario
  /-- Every check must be verified. -/
  | strict
  /-- Print the report as JSON. -/
  | json
  /-- Do not wait for the operator. -/
  | noWait
  /-- Do not linger. -/
  | noLinger
  /-- Print the help. -/
  | help
  /-- Print the version. -/
  | version
deriving DecidableEq, Repr

namespace Flag

/-- The name of a flag. -/
def name : Flag → String
  | .config => "config"
  | .jsonLogs => "json-logs"
  | .host => "host"
  | .port => "port"
  | .proxyUrl => "proxy-url"
  | .scenario => "scenario"
  | .strict => "strict"
  | .json => "json"
  | .noWait => "no-wait"
  | .noLinger => "no-linger"
  | .help => "help"
  | .version => "version"

/-- What stands for the value of a flag that takes one. -/
def placeholder? : Flag → Option String
  | .config => some "CONFIG"
  | .host => some "HOST"
  | .port => some "PORT"
  | .proxyUrl => some "PROXY_URL"
  | .scenario => some "SCENARIO"
  | _ => none

/-- The letter of a flag that has one. -/
def letter? : Flag → Option Char
  | .help => some 'h'
  | .version => some 'V'
  | _ => none

/-- What a flag is for. -/
def purpose : Flag → String
  | .config => "Configuration file (defaults to ./ws-harness.toml when present)"
  | .jsonLogs => "Emit logs as JSON"
  | .host => "Interface for the echo server"
  | .port => "Port for the echo server"
  | .proxyUrl => "WebSocket URL fronted by the proxy under test"
  | .scenario => "Message script: full or minimal"
  | .strict => "Fail when any round trip is unverified"
  | .json => "Print the report as JSON"
  | .noWait => "Do not wait for Enter before probing"
  | .noLinger => "Stop the upstream right after the report"
  | .help => "Print help"
  | .version => "Print version"

/-- Whether a flag takes a value. -/
def takesValue (f : Flag) : Bool := f.placeholder?.isSome

/-- A flag as it is shown. -/
def shown (f : Flag) : String :=
  match f.placeholder? with
  | some placeholder => "--" ++ f.name ++ " <" ++ placeholder ++ ">"
  | none => "--" ++ f.name

end Flag

/-- **Why a command line is refused.** -/
inductive Refusal where
  /-- An argument that has no place. -/
  | unexpectedArgument (shown : String)
  /-- A command that there is not. -/
  | unknownCommand (name : String)
  /-- A value for a switch. -/
  | unexpectedValue (flag : Flag) (value : String)
  /-- No value for a flag that takes one. -/
  | missingValue (flag : Flag)
  /-- A flag for the second time. -/
  | repeated (flag : Flag)
  /-- A value that the flag cannot take. -/
  | invalidValue (flag : Flag) (value reason : String)
  /-- No command. -/
  | missingCommand
deriving DecidableEq, Repr

/-- The name of the program. -/
def programName : String := "wsh-harness"

/-- The wording of a refusal. -/
def Refusal.message : Refusal → String
  | .unexpectedArgument shown => "unexpected argument '" ++ shown ++ "' found"
  | .unknownCommand name => "unrecognized subcommand '" ++ name ++ "'"
  | .unexpectedValue flag value =>
    "unexpected value '" ++ value ++ "' for '" ++ flag.shown ++ "' found; no more were expected"
  | .missingValue flag => "a value is required for '" ++ flag.shown ++ "' but none was supplied"
  | .repeated flag => "the argument '" ++ flag.shown ++ "' cannot be used multiple times"
  | .invalidValue flag value reason =>
    "invalid value '" ++ value ++ "' for '" ++ flag.shown ++ "': " ++ reason
  | .missingCommand => "'" ++ programName ++ "' requires a subcommand but one was not provided"

/-! ### Reading a port -/

/-- Why a text is no port. -/
inductive PortFault where
  /-- It is empty. -/
  | empty
  /-- It is no number. -/
  | noNumber
  /-- It is a number above all that are considered. -/
  | tooLarge
  /-- It is a number below all that are considered. -/
  | tooSmall
  /-- It is a number and no port. -/
  | outside (value : Int)
deriving DecidableEq, Repr

/-- A number with its sign. -/
def signed (n : Int) : String := (if n < 0 then "-" else "") ++ Text.decimal n.natAbs

/-- The wording of a fault. -/
def PortFault.message : PortFault → String
  | .empty => "cannot parse integer from empty string"
  | .noNumber => "invalid digit found in string"
  | .tooLarge => "number too large to fit in target type"
  | .tooSmall => "number too small to fit in target type"
  | .outside value => signed value ++ " is not in 0..=65535"

/-- A whole number of 64 bits with an optional sign. -/
def readInteger (text : String) : Except PortFault Int :=
  let digits (limit : Nat) (far : PortFault) (cs : List Char) : Except PortFault Nat :=
    if cs.isEmpty then .error .noNumber
    else
      (Settings.readUnsigned limit 0 cs).mapError fun
        | .tooLarge => far
        | _ => .noNumber
  match text.toList with
  | [] => .error .empty
  | '-' :: cs => (digits (2 ^ 63) .tooSmall cs).map fun n => -(n : Int)
  | '+' :: cs => (digits (2 ^ 63 - 1) .tooLarge cs).map Int.ofNat
  | cs => (digits (2 ^ 63 - 1) .tooLarge cs).map Int.ofNat

/-- **A port.** -/
def readPort (text : String) : Except PortFault UInt16 := do
  let value ← readInteger text
  if 0 ≤ value ∧ value ≤ 65535 then return UInt16.ofNat value.toNat
  else throw (.outside value)

/-! ### What flags choose -/

/-- **What the flags of a command line choose.** -/
structure Choices where
  /-- Where the settings stand. -/
  config : Option String := none
  /-- Whether the log is JSON. -/
  jsonLogs : Bool := false
  /-- The interface of the echo server. -/
  host : Option String := none
  /-- The port of the echo server. -/
  port : Option UInt16 := none
  /-- The address to probe. -/
  proxyUrl : Option String := none
  /-- The scenario. -/
  scenario : Option Scenario := none
  /-- Whether every check must be verified. -/
  strict : Bool := false
  /-- Whether the report is printed as JSON. -/
  json : Bool := false
  /-- Whether the operator is not waited for. -/
  noWait : Bool := false
  /-- Whether the server does not linger. -/
  noLinger : Bool := false
deriving DecidableEq, Repr

namespace Choices

/-- The choices with one more switch. -/
def turnOn (c : Choices) : Flag → Choices
  | .jsonLogs => { c with jsonLogs := true }
  | .strict => { c with strict := true }
  | .json => { c with json := true }
  | .noWait => { c with noWait := true }
  | .noLinger => { c with noLinger := true }
  | _ => c

/-- The choices with one more value. -/
def assign (c : Choices) (flag : Flag) (value : String) : Except Refusal Choices :=
  match flag with
  | .config =>
    if value.isEmpty then .error (.missingValue flag) else .ok { c with config := some value }
  | .host => .ok { c with host := some value }
  | .port =>
    match readPort value with
    | .ok port => .ok { c with port := some port }
    | .error fault => .error (.invalidValue flag value fault.message)
  | .proxyUrl => .ok { c with proxyUrl := some value }
  | .scenario =>
    match Scenario.parse value with
    | .ok scenario => .ok { c with scenario := some scenario }
    | .error name =>
      .error (.invalidValue flag value (Settings.ValueFault.unknownScenario name).message)
  | _ => .ok c

/-- The choices before a command with those behind it, which win. -/
def merge (outer inner : Choices) : Choices :=
  { inner with
    config := inner.config <|> outer.config
    jsonLogs := inner.jsonLogs || outer.jsonLogs }

/-- **The settings with the choices.** Switches can only set strictness and
only clear lingering. -/
def apply (c : Choices) (s : Settings) : Settings :=
  { s with
    server :=
      { s.server with
        host := c.host.getD s.server.host
        port := c.port.getD s.server.port }
    probe :=
      { s.probe with
        proxyUrl := c.proxyUrl.getD s.probe.proxyUrl
        scenario := c.scenario.getD s.probe.scenario
        strict := c.strict || s.probe.strict }
    session := { s.session with linger := s.session.linger && !c.noLinger } }

end Choices

end EchoProbe.Command
