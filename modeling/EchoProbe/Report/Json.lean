import EchoProbe.Report
import EchoProbe.Json.Printer

/-!
# Reports as JSON

A report is one object, its members in a fixed order. An outcome and a check
are objects that name their case; a frame that was sent is its value, so a
text is a string.
-/

namespace EchoProbe

open Json

/-- The object of an outcome. -/
def Outcome.toValue : Outcome → Value
  | .passed => .object [("outcome", .string "passed")]
  | .failed reason => .object [("outcome", .string "failed"), ("reason", .string reason)]
  | .timedOut => .object [("outcome", .string "timed_out")]

/-- The object of a check. -/
def Check.toValue : Check → Value
  | .verified => .object [("status", .string "verified")]
  | .mismatch received => .object [("status", .string "mismatch"), ("received", received)]
  | .unverified reason => .object [("status", .string "unverified"), ("reason", .string reason)]

/-- The object of an exchange. -/
def Exchange.toValue (e : Exchange) : Value :=
  .object [("sent", e.sent.toValue), ("check", e.check.toValue)]

/-- The object of a duration: whole seconds and the nanoseconds beyond. -/
def Duration.toValue (d : Duration) : Value :=
  .object [("secs", .number (.ofNat d.seconds)), ("nanos", .number (.ofNat d.subsecond))]

/-- **The object of a report.** -/
def Report.toValue (r : Report) : Value :=
  .object [("target", .string r.target), ("outcome", r.outcome.toValue),
    ("upgrade", .bool r.upgrade), ("welcome", r.welcome.toValue),
    ("exchanges", .array (r.exchanges.map Exchange.toValue)), ("elapsed", r.elapsed.toValue)]

/-- The report on one line. -/
def Report.toJson (r : Report) : String := r.toValue.toText

/-- The report with one member a line. -/
def Report.toPrettyJson (r : Report) : String := r.toValue.toPrettyText

end EchoProbe
