import EchoProbe.Text.Utf8

/-!
# Environments

The variables of the environment, each a name with bytes. Only a value that
is UTF-8 can be read; where a setting is concerned, an empty value counts as
none.
-/

namespace EchoProbe

/-- **The variables of an environment.** -/
structure Environment where
  /-- Each name with its value; the first entry of a name counts. -/
  entries : List (String × List UInt8)
deriving DecidableEq, Repr

namespace Environment

/-- The environment without variables. -/
def empty : Environment := ⟨[]⟩

/-- The text of a variable that is set and readable. -/
def read? (env : Environment) (name : String) : Option String :=
  (env.entries.lookup name).bind Text.Utf8.decode?

/-- The text of a variable, unless it is empty. -/
def nonEmpty? (env : Environment) (name : String) : Option String :=
  (env.read? name).filter (· != "")

/-- Set a variable. -/
def set (env : Environment) (name value : String) : Environment :=
  ⟨(name, Text.Utf8.encode value) :: env.entries.filter (·.1 != name)⟩

end Environment

end EchoProbe
