import EchoProbe.Error
import EchoProbe.Probe.Run

/-!
# Links

A *link* is one behaviour of the transport during one run: when the upgrade
completes, what arrives when, how each sending goes, and whether and when
the run is cancelled. `Link.run` lets a run of the probe follow a link.

Moments count from the beginning of the run. A step completes at the first
moment at which its cause is there; its limit counts from the moment at
which its phase began, so a control message that is skipped does not extend
a wait. What happens right at the limit is still in time. A cancellation
wins over everything that does not happen before it.
-/

namespace EchoProbe.Probe

/-- A moment: so many nanoseconds after the beginning of a run. -/
abbrev Moment := Nat

/-- How the upgrade goes. -/
inductive Opening where
  /-- It completes after a while. -/
  | opens (delay : Duration)
  /-- It fails after a while. -/
  | refuses (delay : Duration) (error : TransportError)
  /-- The other end keeps silent. -/
  | silent
deriving DecidableEq, Repr

/-- How the sending of a message goes. -/
inductive Sending where
  /-- It completes after a while. -/
  | goes (delay : Duration)
  /-- It fails after a while. -/
  | fails (delay : Duration) (error : TransportError)
  /-- The other end takes nothing any more. -/
  | stalls
deriving DecidableEq, Repr

/-- Something that arrives at a moment. -/
structure Delivery where
  /-- When. -/
  moment : Moment
  /-- What. -/
  arrival : Arrival
deriving DecidableEq, Repr

/-- **A behaviour of the transport.** -/
structure Link where
  /-- How the upgrade goes. -/
  opening : Opening
  /-- What arrives, the first first. -/
  inbox : List Delivery
  /-- How the sendings go, in order. Beyond the end of the list they
  complete at once. -/
  sendings : List Sending
  /-- When the run is cancelled, if it is. -/
  cancelAt : Option Moment
  /-- Nothing arrives before what it follows. -/
  ordered : inbox.Pairwise fun a b => a.moment ≤ b.moment
deriving DecidableEq, Repr

/-- The link to an address to which there is no way: the upgrade fails with
this error after a while. -/
def Link.unreachable (delay : Duration) (error : TransportError) : Link where
  opening := .refuses delay error
  inbox := []
  sendings := []
  cancelAt := none
  ordered := .nil

/-- The same behaviour, with a cancellation or without. -/
def Link.cancelling (link : Link) (cancelAt : Option Moment) : Link := { link with cancelAt }

/-- **A run that follows a link.** -/
structure Passage where
  /-- The run. -/
  run : Run
  /-- Now. -/
  now : Moment
  /-- When the phase began. -/
  since : Moment
  /-- What is still to arrive. -/
  inbox : List Delivery
  /-- How the sendings to come will go. -/
  sendings : List Sending
deriving DecidableEq, Repr

namespace Passage

/-- The passage that begins. -/
def start (plan : Plan) (link : Link) : Passage where
  run := .start plan
  now := 0
  since := 0
  inbox := link.inbox
  sendings := link.sendings

/-- What completes a step that has a limit: its cause, or the limit. -/
def within (limit : Moment) (late : Event) : Option (Moment × Event) → Moment × Event
  | some (moment, event) => if moment ≤ limit then (moment, event) else (limit, late)
  | none => (limit, late)

/-- What the upgrade results in, and when. -/
def nextOpening : Opening → Option (Moment × Event)
  | .opens delay => some (delay.nanoseconds, .opened)
  | .refuses delay error => some (delay.nanoseconds, .refused error)
  | .silent => none

/-- What arrives next, and when it is noticed. -/
def nextArrival (p : Passage) : Option (Moment × Event) :=
  p.inbox.head?.map fun d => (max p.now d.moment, .arrived d.arrival)

/-- What the sending that is under way results in, and when. -/
def nextSending (p : Passage) : Option (Moment × Event) :=
  match p.sendings.head? with
  | none => some (p.now, .sent)
  | some (.goes delay) => some (p.now + delay.nanoseconds, .sent)
  | some (.fails delay error) => some (p.now + delay.nanoseconds, .unsent error)
  | some .stalls => none

/-- What completes the step that is under way, and when, if the run is not
cancelled before. -/
def next (plan : Plan) (link : Link) (p : Passage) : Option (Moment × Event) :=
  match p.run.phase with
  | .connecting =>
    some (within (p.since + plan.settings.connectTimeout.nanoseconds) .unopened
      (nextOpening link.opening))
  | .greeting =>
    some (within (p.since + plan.settings.welcomeTimeout.nanoseconds) .expired p.nextArrival)
  | .pausing _ => some (p.since + plan.script.pause.nanoseconds, .resumed)
  | .sending _ => p.nextSending
  | .awaiting _ =>
    some (within (p.since + plan.settings.exchangeTimeout.nanoseconds) .expired p.nextArrival)
  | .finished => none
  | .cancelled => none

/-- What a cancellation makes of the completion of a step. -/
def interrupt (cancelAt : Option Moment) (now : Moment) (next : Option (Moment × Event)) :
    Option (Moment × Event) :=
  match cancelAt, next with
  | none, next => next
  | some moment, none => some (max now moment, .cancelled)
  | some moment, some (completion, event) =>
    if moment ≤ completion then some (max now moment, .cancelled) else some (completion, event)

/-- What happens next, and when; none if the run is over or hangs. -/
def upcoming (plan : Plan) (link : Link) (p : Passage) : Option (Moment × Event) :=
  if p.run.isOver then none else interrupt link.cancelAt p.now (p.next plan link)

/-- The passage after an event. -/
def after (plan : Plan) (p : Passage) (moment : Moment) (event : Event) : Passage :=
  let run := p.run.step plan event
  { run
    now := moment
    since := if run.phase = p.run.phase then p.since else moment
    inbox :=
      match event with
      | .arrived _ => p.inbox.tail
      | _ => p.inbox
    sendings :=
      match event with
      | .sent => p.sendings.tail
      | .unsent _ => p.sendings.tail
      | _ => p.sendings }

/-- The passage after the next event. -/
def advance (plan : Plan) (link : Link) (p : Passage) : Passage :=
  match p.upcoming plan link with
  | some (moment, event) => p.after plan moment event
  | none => p

/-- The passage after so many events. -/
def follow (plan : Plan) (link : Link) : Nat → Passage → Passage
  | 0, p => p
  | n + 1, p => follow plan link n (p.advance plan link)

end Passage

/-- No run takes more events: one for the upgrade, at most three for each
frame, one for each message that arrives, and one that ends a wait. -/
def Link.bound (plan : Plan) (link : Link) : Nat := 3 * plan.size + link.inbox.length + 3

/-- **A run along a link**, as far as it goes. -/
def Link.run (plan : Plan) (link : Link) : Passage :=
  Passage.follow plan link (link.bound plan) (.start plan link)

/-- **Probe an address**: the report, or why there is none; nothing at all
if the run never ends. The time that is reported goes up to the last event of
the run: the farewell that may follow, in which the connection is closed, is
left out. -/
def conduct (settings : Settings.Probe) (script : Script) (link : Link) :
    Option (Except ProbeError Report) :=
  match Net.Url.parse settings.proxyUrl with
  | .error fault => some (.error (.invalidUrl fault))
  | .ok url =>
    if !url.isWebSocket then some (.error (.unsupportedScheme url.scheme))
    else
      let passage := link.run ⟨url.toText, script, settings⟩
      match passage.run.phase with
      | .finished => some (.ok { passage.run.report with elapsed := ⟨passage.now⟩ })
      | .cancelled => some (.error .cancelled)
      | _ => none

end EchoProbe.Probe
