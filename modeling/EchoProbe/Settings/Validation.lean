import EchoProbe.Settings
import EchoProbe.Error
import EchoProbe.Text.Blank

/-!
# Validation

Settings that cannot make a meaningful run are refused. The checks have an
order, and the first that fails is reported.
-/

namespace EchoProbe.Settings

/-- The waits that must not be zero, with their names. -/
def waits (s : Settings) : List (String × UInt64) :=
  [("probe.connect_timeout_ms", s.probe.connectTimeoutMs),
    ("probe.welcome_timeout_ms", s.probe.welcomeTimeoutMs),
    ("probe.exchange_timeout_ms", s.probe.exchangeTimeoutMs),
    ("session.startup_timeout_ms", s.session.startupTimeoutMs)]

/-- **Check the settings.** -/
def validate (s : Settings) : Except Error Unit := do
  if Text.isBlank s.server.host then throw (.config .emptyHost)
  if s.server.serverTag = "" then throw (.config .emptyTag)
  let url ← (Net.Url.parse s.probe.proxyUrl).mapError .url
  if !url.isWebSocket then throw (.config (.wrongScheme url.scheme))
  if url.host.isNone then throw (.config .noHost)
  match s.waits.find? (·.2 == 0) with
  | some (name, _) => throw (.config (.zeroTimeout name))
  | none => return

end EchoProbe.Settings
