import EchoProbe.Report
import EchoProbe.Text.Painted

/-!
# Reports for the terminal

A report is rendered line by line: the target, a mark for the upgrade and,
if that completed, one for the welcome, for each exchange, for the relay as
a whole and for the kinds of payload, and last the result. A mark is PASS
for what is verified, FAIL for what is contradicted and WARN for what stayed
open.
-/

namespace EchoProbe

open Text

/-- A mark in front of a line. -/
inductive Mark where
  /-- Verified. -/
  | pass
  /-- Contradicted. -/
  | fail
  /-- Open. -/
  | warn
deriving DecidableEq, Repr

/-- The painted word of a mark. -/
def Mark.span : Mark → Span
  | .pass => painted .good "PASS"
  | .fail => painted .bad "FAIL"
  | .warn => painted .doubtful "WARN"

/-- The mark of a check. -/
def Check.mark : Check → Mark
  | .verified => .pass
  | .mismatch _ => .fail
  | .unverified _ => .warn

/-- What a check says behind its mark. -/
def Check.detail : Check → String
  | .verified => "verified"
  | .mismatch received => "mismatch, got " ++ received.toText
  | .unverified reason => "unverified (" ++ reason ++ ")"

/-- A line with a mark. -/
def markedLine (mark : Mark) (text : String) : Line :=
  [plain "  [", mark.span, plain ("] " ++ text)]

namespace Report

/-- The mark of the upgrade. -/
def upgradeMark (r : Report) : Mark := if r.upgrade then .pass else .fail

/-- The mark of the relay: whether everything was echoed. -/
def relayMark (r : Report) : Mark := if r.allVerified then .pass else .warn

/-- The mark of the kinds of payload. -/
def payloadMark (r : Report) : Mark := if r.payloadTypesPreserved then .pass else .warn

/-- The line of an exchange, numbered from one. -/
def exchangeLine (index : Nat) (e : Exchange) : Line :=
  markedLine e.check.mark
    ("Message " ++ decimal (index + 1) ++ " (" ++ e.sent.kind ++ "): " ++ e.check.detail)

/-- The lines of the exchanges, numbered from an index on. -/
def exchangeLines (index : Nat) : List Exchange → List Line
  | [] => []
  | e :: es => exchangeLine index e :: exchangeLines (index + 1) es

/-- The lines that stand only in the report of an upgraded connection. -/
def detailLines (r : Report) : List Line :=
  markedLine r.welcome.mark ("Welcome frame: " ++ r.welcome.detail) ::
    exchangeLines 0 r.exchanges ++
    [markedLine r.relayMark
        ("Bidirectional relay (" ++ decimal r.verifiedCount ++ "/" ++
          decimal r.exchanges.length ++ " echoed)"),
      markedLine r.payloadMark "JSON and text payloads preserved"]

/-- The painted outcome. -/
def outcomeSpan (r : Report) : Span :=
  match r.outcome with
  | .passed => painted .good "PASSED"
  | .timedOut => painted .doubtful "TIMED OUT (upgrade succeeded, echoes unverified)"
  | .failed reason => painted .bad (Outcome.failed reason).toText

/-- **The lines of a report.** -/
def lines (r : Report) : List Line :=
  [plain ("Proxy probe: " ++ r.target)] ::
    markedLine r.upgradeMark "WebSocket upgrade" ::
    (if r.upgrade then r.detailLines else []) ++
    [[plain "Result: ", r.outcomeSpan, plain (" in " ++ r.elapsed.toShortText)]]

/-- **The text of a report**, with colours or without. -/
def render (coloured : Bool) (r : Report) : String := renderLines coloured r.lines

end Report

end EchoProbe
