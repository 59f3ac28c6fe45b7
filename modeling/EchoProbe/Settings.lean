import EchoProbe.Settings.Scenario
import EchoProbe.Duration

/-!
# Settings

The fourteen settings of the program, in three groups: the echo server, the
probe and the session. Each has a default. Waits are given in milliseconds.
-/

namespace EchoProbe

/-- **The settings of the echo server.** -/
structure Settings.Server where
  /-- The interface it binds. -/
  host : String := "127.0.0.1"
  /-- The port it binds; zero lets the system choose. -/
  port : UInt16 := 3001
  /-- The name it gives in every echo. -/
  serverTag : String := "BWS WebSocket Proxy Test Server"
  /-- The greeting in its welcome. -/
  welcomeMessage : String := "Connected to BWS WebSocket Proxy Test Server"
deriving DecidableEq, Repr

/-- **The settings of the probe.** -/
structure Settings.Probe where
  /-- The address behind which the proxy is. -/
  proxyUrl : String := "ws://localhost:8080/ws"
  /-- How long the upgrade may take. -/
  connectTimeoutMs : UInt64 := 5000
  /-- How long the welcome may take. -/
  welcomeTimeoutMs : UInt64 := 5000
  /-- How long each echo may take. -/
  exchangeTimeoutMs : UInt64 := 5000
  /-- The pause between the frames of the full scenario. -/
  messagePauseMs : UInt64 := 500
  /-- Which script to follow. -/
  scenario : Scenario := .full
  /-- Whether every check must be verified. -/
  strict : Bool := false
deriving DecidableEq, Repr

/-- **The settings of a session.** -/
structure Settings.Session where
  /-- How long the server may take to start. -/
  startupTimeoutMs : UInt64 := 5000
  /-- The delay between the start and the rendezvous. -/
  settleMs : UInt64 := 1000
  /-- Whether the server stays up after the report. -/
  linger : Bool := true
deriving DecidableEq, Repr

/-- **All settings.** -/
structure Settings where
  /-- The echo server. -/
  server : Settings.Server := {}
  /-- The probe. -/
  probe : Settings.Probe := {}
  /-- The session. -/
  session : Settings.Session := {}
deriving DecidableEq, Repr

namespace Settings

/-- The address that the echo server binds. -/
def Server.bindAddress (u : Server) : String :=
  u.host ++ ":" ++ Text.decimal u.port.toNat

/-- How long the upgrade may take. -/
def Probe.connectTimeout (p : Probe) : Duration := .ofMillis p.connectTimeoutMs.toNat

/-- How long the welcome may take. -/
def Probe.welcomeTimeout (p : Probe) : Duration := .ofMillis p.welcomeTimeoutMs.toNat

/-- How long each echo may take. -/
def Probe.exchangeTimeout (p : Probe) : Duration := .ofMillis p.exchangeTimeoutMs.toNat

/-- The pause between the frames of the full scenario. -/
def Probe.messagePause (p : Probe) : Duration := .ofMillis p.messagePauseMs.toNat

/-- How long the server may take to start. -/
def Session.startupTimeout (s : Session) : Duration := .ofMillis s.startupTimeoutMs.toNat

/-- The delay between the start and the rendezvous. -/
def Session.settle (s : Session) : Duration := .ofMillis s.settleMs.toNat

end Settings

end EchoProbe
