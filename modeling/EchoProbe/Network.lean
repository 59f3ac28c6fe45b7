import EchoProbe.Session.Run

/-!
# Networks

What a host offers to the program: addresses that can be bound, and a
transport to other addresses. Everything else that the program does depends
on its input alone.
-/

namespace EchoProbe

/-- **The network of a host.** -/
structure Network where
  /-- How long it takes to bind an address. -/
  bindDelay : Duration
  /-- What binding the address of a server results in. -/
  bind : Settings.Server → Echo.Binding
  /-- How the transport behaves towards a probe of an address. -/
  link : String → Probe.Link
  /-- What stopping a server results in. -/
  stopped : Except EchoError Unit

/-- **What a session meets with** on a host. -/
def Network.surroundings (n : Network) (settings : Settings) (shutdown : Session.Shutdown)
    (answer : Session.Answer) (now : Binary64) : Session.Surroundings where
  bindDelay := n.bindDelay
  bound := n.bind settings.server
  shutdown
  answer
  now
  link := n.link settings.probe.proxyUrl
  stopped := n.stopped

end EchoProbe
