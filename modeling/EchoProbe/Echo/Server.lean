import EchoProbe.Echo.Conversation
import EchoProbe.Echo.Registry
import EchoProbe.Error

/-!
# The echo server

The server takes upgrade requests, holds a conversation on each connection
that results, and keeps a registry of them. Everything happens in small
steps, in any order that the guards of `Server.step` allow:

* A request is accepted while the server accepts requests. It is answered,
  and then the upgrade completes or fails.
* When the upgrade completes, the connection is entered into the registry
  and its conversation begins. When the conversation is over, the connection
  is taken out again.
* A *token* is taken by the handler that answers a request, and held to the
  very end, on every path. The tracker counts the tokens.
* A shutdown can be asked for at any time. From then on no request is
  accepted, and conversations are interrupted in their waits.
* A stop asks for the shutdown, waits until the requests that were accepted
  are answered, closes the tracker, and waits until no token is held.

A step whose guard does not hold changes nothing.
-/

namespace EchoProbe.Echo

/-- **How far the server has come with a client.** -/
inductive Progress where
  /-- It has accepted the request. -/
  | requested
  /-- It has answered the request; from now on a token is held. -/
  | answered
  /-- The upgrade has failed. -/
  | failed
  /-- It holds a conversation. -/
  | served (conversation : Conversation)
  /-- The conversation is over and the entry is taken out of the registry;
  the token is still held. -/
  | removed (conversation : Conversation) (entry : Option Connection)
  /-- Everything is done. -/
  | gone (conversation : Conversation) (entry : Option Connection)
deriving DecidableEq, Repr

namespace Progress

/-- Whether the client is between its request and its conversation. -/
def isPending : Progress → Bool
  | .requested => true
  | .answered => true
  | _ => false

/-- Whether the request has been answered and the upgrade is under way. -/
def isUpgrading : Progress → Bool
  | .answered => true
  | _ => false

/-- Whether a task serves the client. -/
def isServed : Progress → Bool
  | .served _ => true
  | .removed .. => true
  | _ => false

/-- The conversation, once there is one. -/
def conversation? : Progress → Option Conversation
  | .served c => some c
  | .removed c _ => some c
  | .gone c _ => some c
  | _ => none

end Progress

/-- **A client of the server.** -/
structure Client where
  /-- Its address. -/
  peer : Net.SocketAddress
  /-- The path it asked for. -/
  path : String
  /-- How far it has come. -/
  progress : Progress
deriving DecidableEq, Repr

/-- **How far a stop has come.** -/
inductive Stopping where
  /-- Nobody has asked for it. -/
  | idle
  /-- It waits for the requests that were accepted. -/
  | waiting
  /-- The tracker is closed; it waits for the tokens. -/
  | draining
  /-- It is done. -/
  | done
deriving DecidableEq, Repr

/-- **The state of a server.** -/
structure Server where
  /-- The settings. -/
  settings : Settings.Server
  /-- The address it is bound to. -/
  address : Net.SocketAddress
  /-- The connections being served. -/
  registry : Registry
  /-- All clients there ever were. The index of a client is the number of
  its connection. -/
  clients : List Client
  /-- How many tokens are held. -/
  tokens : Nat
  /-- Whether a shutdown has been asked for. -/
  shutdown : Bool
  /-- Whether requests are still being answered. -/
  serving : Bool
  /-- How far a stop has come. -/
  stopping : Stopping
deriving DecidableEq, Repr

/-- **What binding an address results in.** -/
inductive Binding where
  /-- The address is bound, and it has become this one. -/
  | bound (address : Net.SocketAddress)
  /-- It cannot be bound. -/
  | refused (error : SystemError)
  /-- It is bound, but the system does not tell what it has become. -/
  | untold (error : SystemError)
deriving DecidableEq, Repr

/-- **A step of the server or its clients.** -/
inductive Server.Action where
  /-- A client asks for an upgrade. -/
  | request (peer : Net.SocketAddress) (path : String)
  /-- The request of a client is answered. -/
  | answer (client : ConnectionId)
  /-- The upgrade of a client fails. -/
  | failUpgrade (client : ConnectionId)
  /-- The upgrade of a client completes. -/
  | upgrade (client : ConnectionId) (now : Binary64)
  /-- Something happens in the conversation with a client. -/
  | converse (client : ConnectionId) (occurrence : Occurrence)
  /-- A client whose conversation is over is taken out of the registry. -/
  | remove (client : ConnectionId)
  /-- The token of a client is given back. -/
  | release (client : ConnectionId)
  /-- Someone asks for a shutdown. -/
  | shutdown
  /-- Someone asks for a stop. -/
  | stop
  /-- The answering of requests comes to its end. -/
  | endServing
  /-- The stop closes the tracker. -/
  | closeTracker
  /-- The stop is done. -/
  | finish
deriving DecidableEq, Repr

namespace Server

/-- A server that has just been bound. -/
def listening (settings : Settings.Server) (address : Net.SocketAddress) : Server where
  settings
  address
  registry := .empty
  clients := []
  tokens := 0
  shutdown := false
  serving := true
  stopping := .idle

/-- **Start a server**, given what binding its address results in. -/
def start (settings : Settings.Server) (binding : Binding) : Except EchoError Server :=
  match binding with
  | .bound address => .ok (listening settings address)
  | .refused error => .error (.bind settings.bindAddress error)
  | .untold error => .error (.io error)

/-- The address at which a local client reaches the server. An address that
stands for all interfaces is replaced by the one of the local host. -/
def url (s : Server) : String := "ws://" ++ s.address.reachable.toText

/-- How many connections are being served. -/
def activeConnections (s : Server) : Nat := s.registry.size

/-- How far a client has come. -/
def progress? (s : Server) (client : ConnectionId) : Option Progress :=
  (s.clients[client]?).map Client.progress

/-- Move a client on. -/
def setProgress (s : Server) (client : ConnectionId) (progress : Progress) : Server :=
  { s with clients := s.clients.modify client fun c => { c with progress } }

/-- Whether a request has been accepted and not been answered. -/
def hasRequest (s : Server) : Bool := s.clients.any (·.progress == .requested)

/-- A request is accepted. -/
def accept (s : Server) (peer : Net.SocketAddress) (path : String) : Server :=
  { s with clients := s.clients ++ [⟨peer, path, .requested⟩] }

/-- A request is answered. -/
def answer (s : Server) (client : ConnectionId) : Server :=
  { s.setProgress client .answered with tokens := s.tokens + 1 }

/-- A client goes away before its upgrade is complete. Only a request that has
been answered has a token to give back. -/
def fail (s : Server) (client : ConnectionId) (p : Progress) : Server :=
  { s.setProgress client .failed with tokens := if p.isUpgrading then s.tokens - 1 else s.tokens }

/-- An upgrade is complete. -/
def begin (s : Server) (client : ConnectionId) (c : Client) (now : Binary64) : Server :=
  { s.setProgress client (.served (.start s.settings c.path now)) with
    registry := s.registry.register client c.peer c.path }

/-- Something happens in a conversation. -/
def converse (s : Server) (client : ConnectionId) (c : Conversation) (o : Occurrence) : Server :=
  let next := s.setProgress client (.served (c.step s.settings o))
  if c.stage = .counting ∧ o = .counted then
    { next with registry := s.registry.recordEcho client }
  else next

/-- **One step.** -/
def step (s : Server) (action : Action) : Server :=
  match action with
  | .request peer path => if s.serving && !s.shutdown then s.accept peer path else s
  | .answer client =>
    match s.progress? client with
    | some .requested => s.answer client
    | _ => s
  | .failUpgrade client =>
    match s.progress? client with
    | some p => if p.isPending then s.fail client p else s
    | none => s
  | .upgrade client now =>
    match s.clients[client]? with
    | some c => if c.progress = .answered then s.begin client c now else s
    | none => s
  | .converse client o =>
    match s.progress? client with
    | some (.served c) => if o = .interrupted ∧ !s.shutdown then s else s.converse client c o
    | _ => s
  | .remove client =>
    match s.progress? client with
    | some (.served c) =>
      if c.isOver then
        { s.setProgress client (.removed c (s.registry.get? client)) with
          registry := s.registry.remove client }
      else s
    | _ => s
  | .release client =>
    match s.progress? client with
    | some (.removed c entry) =>
      { s.setProgress client (.gone c entry) with tokens := s.tokens - 1 }
    | _ => s
  | .shutdown => { s with shutdown := true }
  | .stop =>
    if s.stopping = .idle then { s with shutdown := true, stopping := .waiting } else s
  | .endServing => if s.shutdown && !s.hasRequest then { s with serving := false } else s
  | .closeTracker =>
    if s.stopping = .waiting && !s.serving then { s with stopping := .draining } else s
  | .finish =>
    if s.stopping = .draining && s.tokens == 0 then { s with stopping := .done } else s

/-- **Steps in a row.** -/
def steps (s : Server) (actions : List Action) : Server := actions.foldl step s

/-- Whether the server takes a new connection. -/
def accepts (s : Server) : Bool := s.serving && !s.shutdown

end Server

end EchoProbe.Echo
