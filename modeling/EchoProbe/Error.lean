import EchoProbe.Envelope
import EchoProbe.Duration
import EchoProbe.Net.Url
import EchoProbe.Settings.Problem

/-!
# Errors

An error is a cause inside layers: what is wrong at the core, and on top of
it the part of the program that could not go on. Each layer words the error
with the wording of the layer below; `sources` lists what lies below.
-/

namespace EchoProbe

/-- **What went wrong at the core.** -/
inductive Error where
  /-- The settings. -/
  | config (problem : Settings.Problem)
  /-- A message of the echo server. -/
  | protocol (text : String)
  /-- An address of the web. -/
  | url (fault : Net.Url.Fault)
  /-- The operating system. -/
  | io (error : SystemError)
  /-- A JSON text. -/
  | json (fault : Json.Fault)
deriving Repr

namespace Error

/-- The wording of an error. -/
def message : Error → String
  | .config problem => "Configuration error: " ++ problem.message
  | .protocol text => "Protocol error: " ++ text
  | .url fault => "Invalid URL: " ++ fault.message
  | .io error => "IO error: " ++ error.message
  | .json fault => "JSON parsing error: " ++ fault.message

/-- What lies below an error. -/
def sources : Error → List String
  | .config _ => []
  | .protocol _ => []
  | .url fault => [fault.message]
  | .io error => [error.message]
  | .json fault => [fault.message]

/-- A wording with all that lies below it. -/
def chain (e : Error) : List String := e.message :: e.sources

end Error

/-- **Why a probe could not run.** What the network does is no error: it is
classified into the outcome. -/
inductive ProbeError where
  /-- The address is none. -/
  | invalidUrl (fault : Net.Url.Fault)
  /-- The address is not one of a WebSocket. -/
  | unsupportedScheme (scheme : String)
  /-- An error at the core. -/
  | core (error : Error)
  /-- The run was cancelled. -/
  | cancelled
deriving Repr

namespace ProbeError

/-- The wording of an error. -/
def message : ProbeError → String
  | .invalidUrl fault => "Invalid proxy URL: " ++ fault.message
  | .unsupportedScheme scheme => "Unsupported URL scheme: " ++ scheme
  | .core error => "Core error: " ++ error.message
  | .cancelled => "Probe cancelled"

/-- What lies below an error. -/
def sources : ProbeError → List String
  | .invalidUrl fault => [fault.message]
  | .unsupportedScheme _ => []
  | .core error => error.chain
  | .cancelled => []

/-- A wording with all that lies below it. -/
def chain (e : ProbeError) : List String := e.message :: e.sources

end ProbeError

/-- **Why the echo server could not start or stop.** -/
inductive EchoError where
  /-- The address cannot be bound. -/
  | bind (address : String) (error : SystemError)
  /-- An error at the core. -/
  | core (error : Error)
  /-- The operating system. -/
  | io (error : SystemError)
deriving Repr

namespace EchoError

/-- The wording of an error. -/
def message : EchoError → String
  | .bind address error => "Failed to bind " ++ address ++ ": " ++ error.message
  | .core error => "Core error: " ++ error.message
  | .io error => "IO error: " ++ error.message

/-- What lies below an error. -/
def sources : EchoError → List String
  | .bind _ error => [error.message]
  | .core error => error.chain
  | .io error => [error.message]

/-- A wording with all that lies below it. -/
def chain (e : EchoError) : List String := e.message :: e.sources

end EchoError

/-- **What ends a session without a report.** -/
inductive SessionError where
  /-- The settings are refused. -/
  | config (error : Error)
  /-- The echo server does not start or stop. -/
  | echo (error : EchoError)
  /-- The echo server takes too long to start. -/
  | startupTimeout (limit : Duration)
  /-- The probe cannot run. -/
  | probe (error : ProbeError)
deriving Repr

namespace SessionError

/-- The wording of an error. -/
def message : SessionError → String
  | .config error => "Config error: " ++ error.message
  | .echo error => "Echo server error: " ++ error.message
  | .startupTimeout limit => "Echo server not ready within " ++ limit.toText
  | .probe error => "Probe error: " ++ error.message

/-- What lies below an error. -/
def sources : SessionError → List String
  | .config error => error.chain
  | .echo error => error.chain
  | .startupTimeout _ => []
  | .probe error => error.chain

/-- A wording with all that lies below it. -/
def chain (e : SessionError) : List String := e.message :: e.sources

end SessionError

end EchoProbe
