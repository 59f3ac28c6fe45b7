import EchoProbe.Settings
import EchoProbe.Settings.Expansion
import EchoProbe.Settings.Problem

/-!
# Settings from a document

A document has a table for each group of settings, and each table an entry
for each setting that differs from its default. The entries are taken in the
order of the document, and the first that does not fit is reported. A group
may also be an array, whose items are its settings in their own order.
-/

namespace EchoProbe.Settings

open Toml

/-! ### Single values -/

/-- A string. -/
def decodeText (n : Node) : Except Mismatch String :=
  match n with
  | .string s => .ok s
  | n => .error (.wrongType n "a string")

/-- A truth value. -/
def decodeBoolean (n : Node) : Except Mismatch Bool :=
  match n with
  | .boolean b => .ok b
  | n => .error (.wrongType n "a boolean")

/-- A whole number from zero to a limit, by the name of its kind. -/
def decodeUnsigned (limit : Nat) (kind : String) (n : Node) : Except Mismatch Nat :=
  match n with
  | .integer i => if 0 ≤ i ∧ i ≤ limit then .ok i.toNat else .error (.outOfRange i kind)
  | n => .error (.wrongType n kind)

/-- A port. -/
def decodePort (n : Node) : Except Mismatch UInt16 :=
  (decodeUnsigned 0xFFFF "u16" n).map UInt16.ofNat

/-- A number of milliseconds. -/
def decodeMillis (n : Node) : Except Mismatch UInt64 :=
  (decodeUnsigned 0xFFFFFFFFFFFFFFFF "u64" n).map UInt64.ofNat

/-- The scenario of a name, as it is spelled. -/
def decodeScenarioName (name : String) : Except Mismatch Scenario :=
  if name = "minimal" then .ok .minimal
  else if name = "full" then .ok .full
  else .error (.unknownScenario name)

/-- What stands beside the name of a scenario in a table must be empty. -/
def isEmptyNode : Node → Bool
  | .array items => items.isEmpty
  | .table _ entries => entries.isEmpty
  | .tables elements => elements.isEmpty
  | _ => false

/-- A scenario: its name, or a table with the name as its only entry. -/
def decodeScenario (n : Node) : Except Mismatch Scenario :=
  match n with
  | .string name => decodeScenarioName name
  | .table _ [] => .error .scenarioEmpty
  | .table _ [(name, node)] => do
    let c ← decodeScenarioName name
    if isEmptyNode node then .ok c else .error .malformed
  | .table _ _ => .error .scenarioMany
  | _ => .error .scenarioShape

/-! ### Groups -/

/-- **A group of settings**: the name of its kind, and for each setting its
name and how a value is put into the group. -/
structure Group (α : Type) where
  /-- The name of its kind, for messages. -/
  kind : String
  /-- The settings, in their own order. -/
  fields : List (String × (Node → α → Except Mismatch α))

namespace Group

variable {α : Type}

/-- The names of the settings. -/
def names (g : Group α) : List String := g.fields.map (·.1)

/-- Take the entries of a table in order. -/
def decodeEntries (g : Group α) (start : α) (entries : Entries) : Except Mismatch α :=
  entries.foldlM
    (fun group (name, node) =>
      match g.fields.lookup name with
      | some put => put node group
      | none => .error (.unknownField name g.names))
    start

/-- Take the items of an array, one for each setting; further ones are
ignored. -/
def decodeItems (g : Group α) (start : α) (items : List Node) : Except Mismatch α :=
  (g.fields.zip items).foldlM (fun group (field, node) => field.2 node group) start

/-- The name that stands for a date or a time where a table is due. -/
def momentField : String := "$__toml_private_datetime"

/-- A group from a value: a table, or an array. -/
def decode (g : Group α) (start : α) (n : Node) : Except Mismatch α :=
  match n with
  | .table _ entries => g.decodeEntries start entries
  | .array items => g.decodeItems start items
  | .tables elements => g.decodeItems start (elements.map (.table .header ·))
  | .moment => .error (.unknownField momentField g.names)
  | n => .error (.wrongType n ("struct " ++ g.kind))

end Group

/-- The settings of the echo server. -/
def serverGroup : Group Server where
  kind := "UpstreamConfig"
  fields :=
    [("host", fun n u => (decodeText n).map fun s => { u with host := s }),
      ("port", fun n u => (decodePort n).map fun p => { u with port := p }),
      ("server_tag", fun n u => (decodeText n).map fun s => { u with serverTag := s }),
      ("welcome_message", fun n u =>
        (decodeText n).map fun s => { u with welcomeMessage := s })]

/-- The settings of the probe. -/
def probeGroup : Group Probe where
  kind := "ProbeConfig"
  fields :=
    [("proxy_url", fun n p => (decodeText n).map fun s => { p with proxyUrl := s }),
      ("connect_timeout_ms", fun n p =>
        (decodeMillis n).map fun ms => { p with connectTimeoutMs := ms }),
      ("welcome_timeout_ms", fun n p =>
        (decodeMillis n).map fun ms => { p with welcomeTimeoutMs := ms }),
      ("exchange_timeout_ms", fun n p =>
        (decodeMillis n).map fun ms => { p with exchangeTimeoutMs := ms }),
      ("message_pause_ms", fun n p =>
        (decodeMillis n).map fun ms => { p with messagePauseMs := ms }),
      ("scenario", fun n p => (decodeScenario n).map fun c => { p with scenario := c }),
      ("strict", fun n p => (decodeBoolean n).map fun b => { p with strict := b })]

/-- The settings of a session. -/
def sessionGroup : Group Session where
  kind := "SessionConfig"
  fields :=
    [("startup_timeout_ms", fun n s =>
        (decodeMillis n).map fun ms => { s with startupTimeoutMs := ms }),
      ("settle_ms", fun n s => (decodeMillis n).map fun ms => { s with settleMs := ms }),
      ("linger", fun n s => (decodeBoolean n).map fun b => { s with linger := b })]

/-- All settings, in their three groups. -/
def rootGroup : Group Settings where
  kind := "HarnessConfig"
  fields :=
    [("upstream", fun n s => (serverGroup.decode {} n).map fun u => { s with server := u }),
      ("probe", fun n s => (probeGroup.decode {} n).map fun p => { s with probe := p }),
      ("session", fun n s => (sessionGroup.decode {} n).map fun t => { s with session := t })]

/-- **The settings that a document gives.** -/
def decodeDocument (entries : Entries) : Except Mismatch Settings :=
  rootGroup.decodeEntries {} entries

/-- **The settings that a text gives**, once its placeholders are replaced. -/
def fromDocument (env : Environment) (text : String) : Except Problem Settings :=
  match Toml.parse (env.expand text) with
  | none => .error (.document .malformed)
  | some entries => (decodeDocument entries).mapError .document

end EchoProbe.Settings
