/-!
# The rendezvous with the operator

Between the start of the server and the run of the probe the operator
decides when to go on. An immediate rendezvous goes on at once. A channel
has a sender, which is used once, to release the rendezvous, or is dropped
unused; and a receiver, which the first wait takes. A wait that finds the
receiver taken is cancelled at once. The first wait looks what has become of
the sender when it begins, and may look again while it is pending, until the
sender has been used. If it is given up before it looks, it takes the receiver
along, and what was sent to it is lost.
-/

namespace EchoProbe.Session

/-- **What a wait results in.** -/
inductive Handoff where
  /-- Run the probe. -/
  | proceed
  /-- End the session. -/
  | cancelled
deriving DecidableEq, Repr

/-- What has become of the sender. -/
inductive Sender where
  /-- It can still be used. -/
  | ready
  /-- It has sent, whether anyone heard it or not. -/
  | sent
  /-- It was dropped unused. -/
  | dropped
deriving DecidableEq, Repr

/-- What becomes of the sender when it is used, which it can be once. -/
def Sender.use (sender outcome : Sender) : Sender :=
  match sender with
  | .ready => outcome
  | sender => sender

/-- What has become of the receiver. -/
inductive Receiver where
  /-- No wait has taken it. -/
  | idle
  /-- The first wait has it and is pending. -/
  | waiting
  /-- The first wait is over. -/
  | gone
deriving DecidableEq, Repr

/-- **A channel between the operator and the session.** -/
structure Channel where
  /-- The sender. -/
  sender : Sender
  /-- The receiver. -/
  receiver : Receiver
deriving DecidableEq, Repr

/-- What happens at a channel. -/
inductive Channel.Event where
  /-- The sender sends. -/
  | send
  /-- The sender is dropped. -/
  | drop
  /-- A wait begins. -/
  | wait
  /-- The pending wait looks again. -/
  | poll
  /-- The pending wait is given up. -/
  | abandon
  /-- A wait of an immediate rendezvous. -/
  | immediate
deriving DecidableEq, Repr

/-- What an event tells those who take part in it. -/
structure Channel.Reply where
  /-- For a send or a drop: whether it had an effect; nothing when the
  sender could not send any more. -/
  effect : Option Bool
  /-- The result of the wait that completes with this event. -/
  completed : Option Handoff
deriving DecidableEq, Repr

namespace Channel

/-- A channel that nobody has used. -/
def pair : Channel := ⟨.ready, .idle⟩

/-- The sender sends, to the wait that is pending or to the one that will be
the first. Once the receiver is gone, nobody hears it. -/
def send (c : Channel) : Channel × Reply :=
  ({ c with sender := c.sender.use .sent },
    ⟨if c.sender = .ready then some (c.receiver != .gone) else none, none⟩)

/-- The sender is dropped. -/
def drop (c : Channel) : Channel × Reply :=
  ({ c with sender := c.sender.use .dropped }, ⟨some (c.sender == .ready), none⟩)

/-- The pending wait looks what has become of the sender: it proceeds if the
sender has sent, and is cancelled if the sender was dropped. -/
def poll (c : Channel) : Channel × Reply :=
  match c.receiver, c.sender with
  | .waiting, .sent => ({ c with receiver := .gone }, ⟨none, some .proceed⟩)
  | .waiting, .dropped => ({ c with receiver := .gone }, ⟨none, some .cancelled⟩)
  | _, _ => (c, ⟨none, none⟩)

/-- A wait begins, and looks at once. Only the first can be anything but
cancelled. -/
def wait (c : Channel) : Channel × Reply :=
  match c.receiver with
  | .idle => poll { c with receiver := .waiting }
  | _ => (c, ⟨none, some .cancelled⟩)

/-- The pending wait is given up. -/
def abandon (c : Channel) : Channel :=
  match c.receiver with
  | .waiting => { c with receiver := .gone }
  | _ => c

/-- **One event.** -/
def step (c : Channel) : Event → Channel × Reply
  | .send => c.send
  | .drop => c.drop
  | .wait => c.wait
  | .poll => c.poll
  | .abandon => (c.abandon, ⟨none, none⟩)
  | .immediate => (c, ⟨none, some .proceed⟩)

end Channel

end EchoProbe.Session
