import EchoProbe.Net.Address

/-!
# The registry of connections

The server keeps one entry for each connection it serves. An entry is made
when the connection has been upgraded and is taken out when it ends; in
between, each echo that was sent is counted in it.

A registry is reached through *handles*. The copies of a handle share one
registry, so what is done through one is seen through all; a new handle has
a registry of its own. `Registries` is the state of all of them. The number
of a connection is given once and never again, also not by another registry.
-/

namespace EchoProbe.Echo

/-- The number of a connection. -/
abbrev ConnectionId := Nat

/-- **A connection that is being served.** -/
structure Connection where
  /-- Its number. -/
  id : ConnectionId
  /-- The address of the other end. -/
  peer : Net.SocketAddress
  /-- The path that the upgrade asked for. -/
  path : String
  /-- How many echoes have been sent on it. A counter of 64 bits tells the same
  below 2 ^ 64, and it takes the server at least so many steps to get there
  (`Server.within_steps`). -/
  framesEchoed : Nat
deriving DecidableEq, Repr

/-- **The connections being served**, oldest first, each number once. -/
structure Registry where
  /-- The entries. -/
  entries : List Connection
deriving DecidableEq, Repr

namespace Registry

/-- The registry without connections. -/
def empty : Registry := ⟨[]⟩

/-- Enter a connection that has just been upgraded. -/
def register (r : Registry) (id : ConnectionId) (peer : Net.SocketAddress) (path : String) :
    Registry :=
  ⟨r.entries ++ [⟨id, peer, path, 0⟩]⟩

/-- The entry of a connection. -/
def get? (r : Registry) (id : ConnectionId) : Option Connection :=
  r.entries.find? (·.id == id)

/-- Take a connection out; for an unknown number nothing happens. -/
def remove (r : Registry) (id : ConnectionId) : Registry :=
  ⟨r.entries.filter (·.id != id)⟩

/-- Count an echo; for an unknown number nothing happens. -/
def recordEcho (r : Registry) (id : ConnectionId) : Registry :=
  ⟨r.entries.map fun c => if c.id = id then { c with framesEchoed := c.framesEchoed + 1 } else c⟩

/-- How many connections there are. -/
def size (r : Registry) : Nat := r.entries.length

/-- Whether there are none. -/
def isEmpty (r : Registry) : Bool := r.entries.isEmpty

/-- All connections. -/
def snapshot (r : Registry) : List Connection := r.entries

end Registry

/-- **What can be done through a handle.** -/
inductive Registry.Action where
  /-- Enter a connection. -/
  | register (peer : Net.SocketAddress) (path : String)
  /-- Take a connection out. -/
  | remove (id : ConnectionId)
  /-- Count an echo. -/
  | recordEcho (id : ConnectionId)
  /-- Look a connection up. -/
  | get (id : ConnectionId)
  /-- List all connections. -/
  | snapshot
  /-- Make another handle to the same registry. -/
  | clone
  /-- Make a handle to a registry of its own. -/
  | create
deriving DecidableEq, Repr

/-- What an action answers. -/
inductive Registry.Answer where
  /-- The number of a new connection. -/
  | registered (id : ConnectionId)
  /-- The connection asked for, or taken out. -/
  | connection (found : Option Connection)
  /-- Nothing to say. -/
  | done
  /-- All connections. -/
  | connections (all : List Connection)
  /-- The number of a new handle. -/
  | handle (index : Nat)
deriving DecidableEq, Repr

/-- **All registries and the handles to them.** -/
structure Registries where
  /-- The number of the next connection. -/
  nextId : ConnectionId
  /-- The registries. -/
  stores : List Registry
  /-- The index of the registry of each handle. -/
  handles : List Nat
deriving DecidableEq, Repr

namespace Registries

/-- One handle to one registry without connections. -/
def start : Registries := ⟨0, [.empty], [0]⟩

/-- The index of the registry of a handle. -/
def storeOf (s : Registries) (handle : Nat) : Nat := s.handles.getD handle 0

/-- The registry of a handle. -/
def registry (s : Registries) (handle : Nat) : Registry :=
  s.stores.getD (s.storeOf handle) .empty

/-- Change the registry of a handle. -/
def update (s : Registries) (handle : Nat) (f : Registry → Registry) : Registries :=
  { s with stores := s.stores.modify (s.storeOf handle) f }

/-- **Do one thing through a handle.** -/
def step (s : Registries) (handle : Nat) : Registry.Action → Registries × Registry.Answer
  | .register peer path =>
    ({ s.update handle (·.register s.nextId peer path) with nextId := s.nextId + 1 },
      .registered s.nextId)
  | .remove id => (s.update handle (·.remove id), .connection ((s.registry handle).get? id))
  | .recordEcho id => (s.update handle (·.recordEcho id), .done)
  | .get id => (s, .connection ((s.registry handle).get? id))
  | .snapshot => (s, .connections (s.registry handle).snapshot)
  | .clone => ({ s with handles := s.handles ++ [s.storeOf handle] }, .handle s.handles.length)
  | .create =>
    ({ s with stores := s.stores ++ [.empty], handles := s.handles ++ [s.stores.length] },
      .handle s.handles.length)

end Registries

end EchoProbe.Echo
