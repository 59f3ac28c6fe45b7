import EchoProbe.Text.Case

/-!
# Scenarios

The two scripts that come with the program, chosen by name. The name is
matched in lower case.
-/

namespace EchoProbe

/-- **Which script the probe follows.** -/
inductive Scenario where
  /-- One JSON frame and one text frame, one right after the other. -/
  | minimal
  /-- Text, JSON and a ping, with a pause between them. -/
  | full
deriving DecidableEq, Repr

namespace Scenario

/-- The name of a scenario. -/
def name : Scenario → String
  | .minimal => "minimal"
  | .full => "full"

/-- The scenario of a name; a name that none has is given back in lower
case. -/
def parse (text : String) : Except String Scenario :=
  let name := Text.lowercase text
  if name = "minimal" then .ok .minimal
  else if name = "full" then .ok .full
  else .error name

end Scenario

end EchoProbe
