import EchoProbe.Settings
import EchoProbe.Settings.Environment
import EchoProbe.Settings.Problem

/-!
# Overrides from the environment

Eight settings can be given by variables. The variables are looked at in a
fixed order; one that is unset, unreadable or empty changes nothing, and the
first whose value the setting cannot take stops the rest. What was assigned
before it stays.
-/

namespace EchoProbe.Settings

open EchoProbe.Text

/-- Read the digits of a number that must not exceed a limit; the first
character that is at fault decides. -/
def readUnsigned (limit value : Nat) : List Char → Except ValueFault Nat
  | [] => .ok value
  | c :: cs =>
    match Digit.ofChar? c with
    | none => .error .invalidDigit
    | some d =>
      if limit < value * 10 + d.val then .error .tooLarge
      else readUnsigned limit (value * 10 + d.val) cs

/-- **A number up to a limit.** A plus may stand in front of the digits. -/
def parseUnsigned (limit : Nat) (text : String) : Except ValueFault Nat :=
  match text.toList with
  | [] => .error .invalidDigit
  | ['+'] => .error .invalidDigit
  | '+' :: cs => readUnsigned limit 0 cs
  | cs => readUnsigned limit 0 cs

/-- A truth value, spelled out. -/
def parseBoolean (text : String) : Except ValueFault Bool :=
  if text = "true" then .ok true
  else if text = "false" then .ok false
  else .error .notBoolean

/-- The scenario of a name. -/
def parseScenario (text : String) : Except ValueFault Scenario :=
  (Scenario.parse text).mapError .unknownScenario

/-- **A setting that a variable gives.** -/
inductive Override where
  /-- The interface of the echo server. -/
  | serverHost
  /-- Its port. -/
  | serverPort
  /-- Its name. -/
  | serverTag
  /-- The address to probe. -/
  | proxyUrl
  /-- The wait for an echo. -/
  | exchangeTimeout
  /-- The scenario. -/
  | scenario
  /-- Whether every check must be verified. -/
  | strict
  /-- Whether the server stays up. -/
  | linger
deriving DecidableEq, Repr

namespace Override

/-- All overrides, in the order in which they are looked at. -/
def all : List Override :=
  [.serverHost, .serverPort, .serverTag, .proxyUrl, .exchangeTimeout, .scenario, .strict,
    .linger]

/-- The variable of an override. -/
def variableName : Override → String
  | .serverHost => "WSH_UPSTREAM_HOST"
  | .serverPort => "WSH_UPSTREAM_PORT"
  | .serverTag => "WSH_SERVER_TAG"
  | .proxyUrl => "WSH_PROXY_URL"
  | .exchangeTimeout => "WSH_EXCHANGE_TIMEOUT_MS"
  | .scenario => "WSH_SCENARIO"
  | .strict => "WSH_STRICT"
  | .linger => "WSH_LINGER"

/-- Give a setting the value that a text spells. -/
def assign (o : Override) (raw : String) (s : Settings) : Except ValueFault Settings :=
  match o with
  | .serverHost => .ok { s with server.host := raw }
  | .serverPort =>
    (parseUnsigned 0xFFFF raw).map fun n => { s with server.port := UInt16.ofNat n }
  | .serverTag => .ok { s with server.serverTag := raw }
  | .proxyUrl => .ok { s with probe.proxyUrl := raw }
  | .exchangeTimeout =>
    (parseUnsigned 0xFFFFFFFFFFFFFFFF raw).map fun n =>
      { s with probe.exchangeTimeoutMs := UInt64.ofNat n }
  | .scenario => (parseScenario raw).map fun c => { s with probe.scenario := c }
  | .strict => (parseBoolean raw).map fun b => { s with probe.strict := b }
  | .linger => (parseBoolean raw).map fun b => { s with session.linger := b }

/-- Apply one override, if its variable has a value. -/
def apply (env : Environment) (o : Override) (s : Settings) : Except Problem Settings :=
  match env.nonEmpty? o.variableName with
  | none => .ok s
  | some raw => (o.assign raw s).mapError (.invalidVariable o.variableName raw)

/-- Apply overrides in order: the settings that are reached, and what stopped
on the way. -/
def applyAll (env : Environment) : List Override → Settings → Settings × Option Problem
  | [], s => (s, none)
  | o :: os, s =>
    match o.apply env s with
    | .ok s => applyAll env os s
    | .error p => (s, some p)

end Override

/-- **Apply all overrides of an environment.** -/
def applyOverrides (env : Environment) (s : Settings) : Settings × Option Problem :=
  Override.applyAll env Override.all s

/-- The settings with all overrides, or what is wrong with one of them. -/
def override (env : Environment) (s : Settings) : Except Problem Settings :=
  match s.applyOverrides env with
  | (s, none) => .ok s
  | (_, some p) => .error p

end EchoProbe.Settings
