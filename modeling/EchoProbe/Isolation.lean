import EchoProbe.Net.RequestTarget
import EchoProbe.Network

/-!
# A host without a network

On a host that has no network, addresses can be bound, but there is no way
to any of them, not even from the host to itself. The only name that can be
looked up is the one of the host itself, which takes a while.
-/

namespace EchoProbe.Isolation

/-- The error that a connection fails with, before or after a request for
the address could be written. -/
def failure (address : String) : TransportError :=
  if Net.RequestTarget.isValid address then .io .networkUnreachable
  else .violation "HTTP format error: invalid uri character"

/-- **Connect to an address.** -/
def connect (address : String) : Except TransportError Unit := .error (failure address)

/-- How long the lookup of a name takes, at the least. -/
def lookupDelay : Duration := ⟨1⟩

/-- How long it takes until a connection fails: a name is looked up, an
address is not. -/
def delay (url : Net.Url) : Duration :=
  match url.host with
  | some (.domain _) => if Net.RequestTarget.isValid url.toText then lookupDelay else .zero
  | _ => .zero

/-- **The link to an address.** -/
def link (address : String) : Probe.Link :=
  match Net.Url.parse address with
  | .ok url => .unreachable (delay url) (failure url.toText)
  | .error _ => .unreachable .zero (failure address)

/-- The address that a host and a port stand for. -/
def resolve? (host : String) (port : UInt16) : Option Net.SocketAddress :=
  let shown := Text.decimal port.toNat
  if host = "localhost" then some (.v4 .loopback port)
  else
    match Net.SocketAddress.parse? (host ++ ":" ++ shown) with
    | some address => some address
    | none => Net.SocketAddress.parse? ("[" ++ host ++ "]:" ++ shown)

/-- **Bind the address of a server**, where some ports are in use. -/
def bind (inUse : List UInt16) (u : Settings.Server) : Echo.Binding :=
  match resolve? u.host u.port with
  | none => .refused .addressUnavailable
  | some address => if inUse.contains u.port then .refused .addressInUse else .bound address

/-- **The network of a host without one**, where some ports are in use. -/
def network (inUse : List UInt16) : Network where
  bindDelay := .zero
  bind := bind inUse
  link
  stopped := .ok ()

end EchoProbe.Isolation
