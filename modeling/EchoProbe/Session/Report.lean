import EchoProbe.Report.Rendering

/-!
# Reports of sessions

A session ends with the report of its probe, or was cancelled before the
probe came to one. In both cases the report says where the echo server was.
-/

namespace EchoProbe.Session

open Text

/-- **How a session ended.** -/
inductive End where
  /-- With the report of the probe. -/
  | completed (report : EchoProbe.Report)
  /-- Before the probe was done. -/
  | cancelled
deriving DecidableEq, Repr

/-- **The report of a session.** -/
structure Report where
  /-- The address of the echo server. -/
  serverUrl : String
  /-- How the session ended. -/
  ending : End
deriving DecidableEq, Repr

namespace Report

/-- The report of the probe, if there is one. -/
def probe? (r : Report) : Option EchoProbe.Report :=
  match r.ending with
  | .completed report => some report
  | .cancelled => none

/-- **The lines of a session's report.** -/
def lines (r : Report) : List Line :=
  [plain ("Upstream echo server: " ++ r.serverUrl)] ::
    match r.ending with
    | .completed report => report.lines
    | .cancelled => [[plain "Session cancelled before the probe completed"]]

/-- The text of a session's report, with colours or without. -/
def render (coloured : Bool) (r : Report) : String := renderLines coloured r.lines

/-- Whether the session counts as a success: only a failed probe does not. -/
def isSuccess (r : Report) : Bool :=
  match r.ending with
  | .completed report => report.outcome.isSuccess
  | .cancelled => true

end Report

end EchoProbe.Session
