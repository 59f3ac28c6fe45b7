import EchoProbe.Frame
import EchoProbe.Duration

/-!
# Reports

A run of the probe is recorded as separate checks: the upgrade, the welcome,
and one *exchange* for each scripted frame. A report starts pessimistic,
with nothing received and nothing sent. Each check is then replaced by what
the run established, and `Report.conclude` derives the one outcome:

* an altered payload fails the run, whatever else happened;
* else a wait that expired makes it `timedOut` and every other ending
  `passed`;
* a strict run fails in both cases unless every check is verified.
-/

namespace EchoProbe

open Json

/-- **The result of a run as a whole.** -/
inductive Outcome where
  /-- Nothing contradicts a faithful proxy. -/
  | passed
  /-- The upgrade or the greeting did not complete, or a payload came back
  altered. -/
  | failed (reason : String)
  /-- Upgraded, but a frame that was due did not arrive in time. -/
  | timedOut
deriving DecidableEq, Repr

namespace Outcome

/-- Whether the upgrade worked and nothing was altered. -/
def isSuccess : Outcome → Bool
  | .failed _ => false
  | _ => true

/-- The outcome in two words at most. -/
def label : Outcome → String
  | .passed => "PASSED"
  | .failed _ => "FAILED"
  | .timedOut => "TIMED OUT"

/-- The outcome with its reason. -/
def toText : Outcome → String
  | .failed reason => "FAILED (" ++ reason ++ ")"
  | o => o.label

end Outcome

/-- **The state of one check.** -/
inductive Check where
  /-- The frame that was due arrived. -/
  | verified
  /-- A frame arrived that is not the one that was due. -/
  | mismatch (received : Value)
  /-- Nothing conclusive arrived. -/
  | unverified (reason : String)
deriving DecidableEq, Repr

namespace Check

/-- Whether the check is verified. -/
def isVerified : Check → Bool
  | .verified => true
  | _ => false

/-- Whether the check is a mismatch. -/
def isMismatch : Check → Bool
  | .mismatch _ => true
  | _ => false

/-- Whether the check is open. -/
def isUnverified : Check → Bool
  | .unverified _ => true
  | _ => false

/-- Give up on a check that has no result yet. -/
def abandon (reason : String) : Check → Check
  | .unverified _ => .unverified reason
  | c => c

end Check

/-- One scripted frame and what came back for it. -/
structure Exchange where
  /-- The frame. -/
  sent : Frame
  /-- Whether it came back. -/
  check : Check
deriving DecidableEq, Repr

/-- How the phase of exchanges stopped. -/
inductive Ending where
  /-- Every frame got an answer. -/
  | completed
  /-- A frame was not answered in time. -/
  | timedOut
  /-- The peer closed the connection. -/
  | peerClosed
  /-- The transport failed; the failure is recorded already. -/
  | broken
deriving DecidableEq, Repr

/-- **Everything a run established.** -/
structure Report where
  /-- The address that was probed. -/
  target : String
  /-- The outcome. -/
  outcome : Outcome
  /-- Whether the WebSocket upgrade completed. -/
  upgrade : Bool
  /-- The check of the welcome. -/
  welcome : Check
  /-- One exchange for each scripted frame, in order. -/
  exchanges : List Exchange
  /-- How long the run took. -/
  elapsed : Duration
deriving DecidableEq, Repr

namespace Report

/-- The report of a run that has not begun. -/
def pending (target : String) (frames : List Frame) : Report where
  target
  outcome := .failed "not run"
  upgrade := false
  welcome := .unverified "not received"
  exchanges := frames.map fun frame => ⟨frame, .unverified "not sent"⟩
  elapsed := .zero

/-- Record the check of the exchange at an index. -/
def setCheck (r : Report) (index : Nat) (check : Check) : Report :=
  { r with exchanges := r.exchanges.modify index fun e => { e with check } }

/-- Give up on the exchanges from an index on that have no result yet. -/
def abandonFrom (r : Report) (index : Nat) (reason : String) : Report :=
  { r with
    exchanges := r.exchanges.take index ++
      (r.exchanges.drop index).map fun e => { e with check := e.check.abandon reason } }

/-- Record a failure. -/
def fail (r : Report) (reason : String) : Report := { r with outcome := .failed reason }

/-- How many exchanges are verified. -/
def verifiedCount (r : Report) : Nat := r.exchanges.countP (·.check.isVerified)

/-- How many exchanges are open. -/
def unverifiedCount (r : Report) : Nat := r.exchanges.countP (·.check.isUnverified)

/-- Whether every exchange is verified. -/
def allVerified (r : Report) : Bool := r.exchanges.all (·.check.isVerified)

/-- Whether a verified exchange sent a frame of this kind. -/
def preserved (r : Report) (json : Bool) : Bool :=
  r.exchanges.any fun e => e.check.isVerified && e.sent.isJson == json

/-- Whether frames of both kinds came back intact. -/
def payloadTypesPreserved (r : Report) : Bool := r.preserved true && r.preserved false

/-- The outcome of an ending without any mismatch, when not strict. -/
def softOutcome : Ending → Outcome
  | .timedOut => .timedOut
  | _ => .passed

/-- The failure a strict run adds: an open welcome, else open exchanges. -/
def strictFailure? (r : Report) : Option String :=
  if !r.welcome.isVerified then some "strict: welcome frame not verified"
  else if 0 < r.unverifiedCount then
    some ("strict: " ++ Text.decimal r.unverifiedCount ++ " round trip(s) unverified")
  else none

/-- **Derive the outcome** from the checks and the ending. -/
def conclude (r : Report) (ending : Ending) (strict : Bool) : Report :=
  if ending = .broken then r
  else
    match r.exchanges.findIdx? (·.check.isMismatch) with
    | some index => r.fail ("echo mismatch on message " ++ Text.decimal (index + 1))
    | none =>
      match if strict then r.strictFailure? else none with
      | some reason => r.fail reason
      | none => { r with outcome := softOutcome ending }

end Report

end EchoProbe
