import EchoProbe.Toml.Parser
import EchoProbe.Files
import EchoProbe.Binary64.Shortest
import EchoProbe.Text.Quoted

/-!
# What can be wrong with the settings

Each cause has a constructor, and `Problem.message` words it. A document may
break the grammar, or hold a value that the setting cannot take. Either is a
`Mismatch`, which tells what is wrong, but not where: the line, the column and
the excerpt of the document that go with it are left out, and of a text that
breaks the grammar it is left out, too, which rule it breaks. So two documents
with the same mismatch need not be at fault in the same way.
-/

namespace EchoProbe.Settings

open EchoProbe.Text

/-- The text of a floating-point number with all its digits and a point. -/
def floatText (x : Binary64) : String :=
  if x.isFinite then
    let (ds, point) := (Binary64.shortest .up x.magnitude).layout
    let point := if x.magnitude.val = 0 then 1 else point
    let whole := ds.take point.toNat ++ List.replicate (point.toNat - ds.length) 0
    let fraction := List.replicate (-point).toNat 0 ++ ds.drop point.toNat
    let digits (ds : List Digit) : String :=
      if ds.isEmpty then "0" else String.ofList (digitChars ds)
    (if x.negative then "-" else "") ++ digits whole ++ "." ++ digits fraction
  else if x.magnitude.val = Binary64.infinite then (if x.negative then "-inf" else "inf")
  else "NaN"

/-- What a value of a document is, in the words of a message. -/
def describe : Toml.Node → String
  | .string s => "string " ++ quoted s
  | .integer n =>
    "integer `" ++ (if n < 0 then "-" else "") ++ decimal n.natAbs ++ "`"
  | .float x => "floating point `" ++ floatText x ++ "`"
  | .boolean b => "boolean `" ++ (if b then "true" else "false") ++ "`"
  | .moment => "map"
  | .array _ => "sequence"
  | .table _ _ => "map"
  | .tables _ => "sequence"

/-- Names between backticks, the last but one joined to the last by a word if
there are two, else all behind `one of`. -/
def expectedNames (names : List String) : String :=
  match names with
  | [a, b] => "expected `" ++ a ++ "` or `" ++ b ++ "`"
  | _ => "expected one of " ++ String.intercalate ", " (names.map fun n => "`" ++ n ++ "`")

/-- **Why a document does not give the settings.** -/
inductive Mismatch where
  /-- The text is no document, or a value has a shape that nothing takes. -/
  | malformed
  /-- A name that no setting has. -/
  | unknownField (name : String) (known : List String)
  /-- A name that no scenario has. -/
  | unknownScenario (name : String)
  /-- A value of another kind is due. -/
  | wrongType (found : Toml.Node) (due : String)
  /-- A whole number that is out of range. -/
  | outOfRange (value : Int) (due : String)
  /-- A scenario is neither a name nor a table. -/
  | scenarioShape
  /-- The table of a scenario is empty. -/
  | scenarioEmpty
  /-- The table of a scenario has more than one entry. -/
  | scenarioMany
deriving Repr

/-- What the wording of a mismatch ends with, behind the place and the
excerpt. For a text that is no document it is one word in place of the rule
that is broken. -/
def Mismatch.message : Mismatch → String
  | .malformed => "syntax"
  | .unknownField name known => "unknown field `" ++ name ++ "`, " ++ expectedNames known
  | .unknownScenario name =>
    "unknown variant `" ++ name ++ "`, " ++ expectedNames ["minimal", "full"]
  | .wrongType found due => "invalid type: " ++ describe found ++ ", expected " ++ due
  | .outOfRange value due => "invalid value: " ++ describe (.integer value) ++ ", expected " ++ due
  | .scenarioShape => "wanted string or table"
  | .scenarioEmpty => "wanted exactly 1 element, found 0 elements"
  | .scenarioMany => "wanted exactly 1 element, more than 1 element"

/-- **Why a text is no value of a setting.** -/
inductive ValueFault where
  /-- A character is no digit. -/
  | invalidDigit
  /-- The number is out of range. -/
  | tooLarge
  /-- Neither `true` nor `false`. -/
  | notBoolean
  /-- No scenario has the name, which is given in lower case. -/
  | unknownScenario (name : String)
deriving DecidableEq, Repr

/-- The wording of a value's fault. -/
def ValueFault.message : ValueFault → String
  | .invalidDigit => "invalid digit found in string"
  | .tooLarge => "number too large to fit in target type"
  | .notBoolean => "provided string was not `true` or `false`"
  | .unknownScenario name => "Configuration error: Unknown scenario: " ++ name

/-- **What is wrong with the settings.** -/
inductive Problem where
  /-- A remark of any other kind. -/
  | noted (text : String)
  /-- No scenario has the name, which is given in lower case. -/
  | unknownScenario (name : String)
  /-- A variable has a value that the setting cannot take. -/
  | invalidVariable (name raw : String) (fault : ValueFault)
  /-- The file cannot be read. -/
  | unreadable (path : String) (fault : FileFault)
  /-- The document does not give the settings. -/
  | document (mismatch : Mismatch)
  /-- The host is blank. -/
  | emptyHost
  /-- The server has no name. -/
  | emptyTag
  /-- The address to probe is not one of a WebSocket. -/
  | wrongScheme (scheme : String)
  /-- The address to probe has no host. -/
  | noHost
  /-- A time that must not be zero is. -/
  | zeroTimeout (name : String)
deriving Repr

/-- **The wording of a problem.** That of a document is without the place and
the excerpt. -/
def Problem.message : Problem → String
  | .noted text => text
  | .unknownScenario name => "Unknown scenario: " ++ name
  | .invalidVariable name raw fault =>
    "Invalid " ++ name ++ "=" ++ quoted raw ++ ": " ++ fault.message
  | .unreadable path fault => "Failed to read config file " ++ path ++ ": " ++ fault.message
  | .document mismatch => "Failed to parse TOML: " ++ mismatch.message
  | .emptyHost => "upstream.host must not be empty"
  | .emptyTag => "upstream.server_tag must not be empty"
  | .wrongScheme scheme => "probe.proxy_url must use ws:// or wss://, got " ++ scheme ++ "://"
  | .noHost => "probe.proxy_url has no host"
  | .zeroTimeout name => name ++ " must be greater than zero"

end EchoProbe.Settings
