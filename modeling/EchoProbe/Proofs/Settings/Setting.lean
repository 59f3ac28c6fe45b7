import Mathlib.Data.List.Basic
import Mathlib.Data.List.Nodup
import Mathlib.Tactic.FinCases
import EchoProbe.Command.Flag
import EchoProbe.Proofs.Toml.Document
import EchoProbe.Proofs.Yields
import EchoProbe.Settings.Loading

/-!
# The settings, one by one

Each setting has a name in the document, and some have a variable or a flag. So a setting is
looked at by itself here: `Setting.get` reads it off, and `node?`, `raw?` and `flag?`
are what the document, the environment and the flags say about it.

Whatever sets settings does so in turn, and what counts for a single one of them is
the step that is its own, if there is one: no other step touches it (`get_of_foldlM`). This is so
for the entries of a group (`Setting.get_of_decodeDocument`), for the variables
(`Setting.get_of_override`), and for the flags (`Setting.get_apply`).
-/

namespace EchoProbe.Settings

open Toml Command

/-! ### Settings and their values -/

/-- **The value of a setting.** -/
inductive Value where
  /-- A text. -/
  | text (s : String)
  /-- A port. -/
  | port (p : UInt16)
  /-- A number of milliseconds. -/
  | millis (ms : UInt64)
  /-- A scenario. -/
  | scenario (c : Scenario)
  /-- On or off. -/
  | switch (b : Bool)
deriving DecidableEq, Repr

/-- **What the values of a setting are.** -/
inductive Kind where
  /-- Texts. -/
  | text
  /-- Ports. -/
  | port
  /-- Numbers of milliseconds. -/
  | millis
  /-- Scenarios. -/
  | scenario
  /-- On and off. -/
  | switch
deriving DecidableEq, Repr

namespace Kind

/-- What a value of a document stands for. -/
def decode (k : Kind) (n : Node) : Except Mismatch Value :=
  match k with
  | .text => (decodeText n).map .text
  | .port => (decodePort n).map .port
  | .millis => (decodeMillis n).map .millis
  | .scenario => (decodeScenario n).map .scenario
  | .switch => (decodeBoolean n).map .switch

/-- What the text of a variable stands for. -/
def parse (k : Kind) (raw : String) : Except ValueFault Value :=
  match k with
  | .text => .ok (.text raw)
  | .port => (parseUnsigned 0xFFFF raw).map fun n => .port (UInt16.ofNat n)
  | .millis => (parseUnsigned 0xFFFFFFFFFFFFFFFF raw).map fun n => .millis (UInt64.ofNat n)
  | .scenario => (parseScenario raw).map .scenario
  | .switch => (parseBoolean raw).map .switch

end Kind

/-- **A group of the document.** -/
inductive Part where
  /-- The echo server. -/
  | server
  /-- The probe. -/
  | probe
  /-- The session. -/
  | session
deriving DecidableEq, Repr

/-- The name of a group in the document. -/
def Part.name : Part → String
  | .server => "upstream"
  | .probe => "probe"
  | .session => "session"

/-- What a group holds. -/
def Part.Contents : Part → Type
  | .server => Server
  | .probe => Probe
  | .session => Session

/-- How a group is read from a document. -/
def Part.group : (p : Part) → Group p.Contents
  | .server => serverGroup
  | .probe => probeGroup
  | .session => sessionGroup

/-- The defaults of a group. -/
def Part.defaults : (p : Part) → p.Contents
  | .server => ({} : Server)
  | .probe => ({} : Probe)
  | .session => ({} : Session)

/-- The contents of a group. -/
def Part.contents (s : Settings) : (p : Part) → p.Contents
  | .server => s.server
  | .probe => s.probe
  | .session => s.session

/-- **One of the fourteen settings.** -/
inductive Setting where
  /-- The interface that the echo server binds. -/
  | serverHost
  /-- Its port. -/
  | serverPort
  /-- Its name. -/
  | serverTag
  /-- Its greeting. -/
  | welcomeMessage
  /-- The address to probe. -/
  | proxyUrl
  /-- How long the upgrade may take. -/
  | connectTimeout
  /-- How long the welcome may take. -/
  | welcomeTimeout
  /-- How long each echo may take. -/
  | exchangeTimeout
  /-- The pause between frames. -/
  | messagePause
  /-- The scenario. -/
  | scenario
  /-- Whether every check must be verified. -/
  | strict
  /-- How long the server may take to start. -/
  | startupTimeout
  /-- The delay in front of the rendezvous. -/
  | settle
  /-- Whether the server stays up. -/
  | linger
deriving DecidableEq, Repr

namespace Setting

/-- What the values of a setting are. -/
def kind : Setting → Kind
  | .serverHost | .serverTag | .welcomeMessage | .proxyUrl => .text
  | .serverPort => .port
  | .connectTimeout | .welcomeTimeout | .exchangeTimeout | .messagePause => .millis
  | .startupTimeout | .settle => .millis
  | .scenario => .scenario
  | .strict | .linger => .switch

/-- The group that a setting belongs to. -/
def part : Setting → Part
  | .serverHost | .serverPort | .serverTag | .welcomeMessage => .server
  | .proxyUrl | .connectTimeout | .welcomeTimeout | .exchangeTimeout => .probe
  | .messagePause | .scenario | .strict => .probe
  | .startupTimeout | .settle | .linger => .session

/-- The name of a setting in its group. -/
def key : Setting → String
  | .serverHost => "host"
  | .serverPort => "port"
  | .serverTag => "server_tag"
  | .welcomeMessage => "welcome_message"
  | .proxyUrl => "proxy_url"
  | .connectTimeout => "connect_timeout_ms"
  | .welcomeTimeout => "welcome_timeout_ms"
  | .exchangeTimeout => "exchange_timeout_ms"
  | .messagePause => "message_pause_ms"
  | .scenario => "scenario"
  | .strict => "strict"
  | .startupTimeout => "startup_timeout_ms"
  | .settle => "settle_ms"
  | .linger => "linger"

/-- The value that a setting has in its group. -/
def read : (x : Setting) → x.part.Contents → Value
  | .serverHost => fun u : Server => .text u.host
  | .serverPort => fun u : Server => .port u.port
  | .serverTag => fun u : Server => .text u.serverTag
  | .welcomeMessage => fun u : Server => .text u.welcomeMessage
  | .proxyUrl => fun p : Probe => .text p.proxyUrl
  | .connectTimeout => fun p : Probe => .millis p.connectTimeoutMs
  | .welcomeTimeout => fun p : Probe => .millis p.welcomeTimeoutMs
  | .exchangeTimeout => fun p : Probe => .millis p.exchangeTimeoutMs
  | .messagePause => fun p : Probe => .millis p.messagePauseMs
  | .scenario => fun p : Probe => .scenario p.scenario
  | .strict => fun p : Probe => .switch p.strict
  | .startupTimeout => fun t : Session => .millis t.startupTimeoutMs
  | .settle => fun t : Session => .millis t.settleMs
  | .linger => fun t : Session => .switch t.linger

/-- **The value that a setting has.** -/
def get (x : Setting) (s : Settings) : Value := x.read (x.part.contents s)

/-- **There are no others**: settings that agree in the fourteen are the same. -/
theorem eq_of_get_eq {s s' : Settings} (h : ∀ x : Setting, x.get s = x.get s') : s = s' := by
  obtain ⟨server, probe, session⟩ := s
  obtain ⟨server', probe', session'⟩ := s'
  have hserver : server = server' := by
    cases server
    cases server'
    rw [Server.mk.injEq]
    exact ⟨Value.text.inj (h .serverHost), Value.port.inj (h .serverPort),
      Value.text.inj (h .serverTag), Value.text.inj (h .welcomeMessage)⟩
  have hprobe : probe = probe' := by
    cases probe
    cases probe'
    rw [Probe.mk.injEq]
    exact ⟨Value.text.inj (h .proxyUrl), Value.millis.inj (h .connectTimeout),
      Value.millis.inj (h .welcomeTimeout), Value.millis.inj (h .exchangeTimeout),
      Value.millis.inj (h .messagePause), Value.scenario.inj (h .scenario),
      Value.switch.inj (h .strict)⟩
  have hsession : session = session' := by
    cases session
    cases session'
    rw [Session.mk.injEq]
    exact ⟨Value.millis.inj (h .startupTimeout), Value.millis.inj (h .settle),
      Value.switch.inj (h .linger)⟩
  rw [hserver, hprobe, hsession]

/-! ### What is said about a setting -/

/-- What the flags say. Strictness can only be switched on, and lingering only off. -/
def flag? (x : Setting) (c : Choices) : Option Value :=
  match x with
  | .serverHost => c.host.map .text
  | .serverPort => c.port.map .port
  | .proxyUrl => c.proxyUrl.map .text
  | .scenario => c.scenario.map .scenario
  | .strict => if c.strict then some (.switch true) else none
  | .linger => if c.noLinger then some (.switch false) else none
  | _ => none

/-- The variable of a setting, if it has one. -/
def override? : Setting → Option Override
  | .serverHost => some .serverHost
  | .serverPort => some .serverPort
  | .serverTag => some .serverTag
  | .proxyUrl => some .proxyUrl
  | .exchangeTimeout => some .exchangeTimeout
  | .scenario => some .scenario
  | .strict => some .strict
  | .linger => some .linger
  | _ => none

/-- What the environment says: the text of the variable, if it is readable and not empty. -/
def raw? (x : Setting) (env : Environment) : Option String :=
  x.override?.bind fun o => (env.read? o.variableName).filter (· != "")

end Setting

/-- What a value of a document holds under a name, where an array holds its items under these
names in turn. -/
def member? (keys : List String) (key : String) : Node → Option Node
  | .table _ entries => entries.lookup key
  | .array items => (keys.zip items).lookup key
  | .tables elements => (keys.zip (elements.map (.table .header ·))).lookup key
  | _ => none

/-- What a document says about a setting. -/
def Setting.node? (x : Setting) (document : Entries) : Option Node :=
  (document.lookup x.part.name).bind (member? x.part.group.names x.key)

/-! ### Setting in turn -/

variable {α β ε ι κ : Type}

/-- **Only the own step counts.** Of the steps that are taken in turn, each has a name of its own,
and only the one with the name `key` may change what `get` reads. -/
theorem get_of_foldlM [DecidableEq κ] {step : α → ι → Except ε α} {key : κ} {get : α → β}
    {steps : List ι} (name : ι → κ) (does : ι → β → β → Prop) (hnames : (steps.map name).Nodup)
    (hstep : ∀ i ∈ steps, ∀ a a', step a i = .ok a' →
      if name i = key then does i (get a) (get a') else get a' = get a)
    {a a' : α} (h : steps.foldlM step a = .ok a') :
    ((∀ i ∈ steps, name i ≠ key) ∧ get a' = get a) ∨
      ∃ i ∈ steps, name i = key ∧ does i (get a) (get a') := by
  induction steps generalizing a with
  | nil =>
    cases h
    exact .inl ⟨List.forall_mem_nil _, rfl⟩
  | cons i steps ih =>
    rw [List.foldlM_cons] at h
    obtain ⟨a₁, hfirst, hrest⟩ := exists_of_bind_eq_ok h
    rw [List.map_cons, List.nodup_cons] at hnames
    have hfirst := hstep i List.mem_cons_self a a₁ hfirst
    rcases ih hnames.2 (fun j hj => hstep j (List.mem_cons_of_mem i hj)) hrest with
      ⟨hnone, hget⟩ | ⟨j, hj, hname, hdoes⟩
    · rw [hget]
      split at hfirst
      · next hname => exact .inr ⟨i, List.mem_cons_self, hname, hfirst⟩
      · next hname => exact .inl ⟨List.forall_mem_cons.mpr ⟨hname, hnone⟩, hfirst⟩
    · have hne : name i ≠ key := fun heq =>
        hnames.1 (List.mem_map.mpr ⟨j, hj, hname.trans heq.symm⟩)
      rw [if_neg hne] at hfirst
      rw [hfirst] at hdoes
      exact .inr ⟨j, List.mem_cons_of_mem i hj, hname, hdoes⟩

/-- **What is said counts**, and what was there before if nothing is said. -/
def Given (read : ι → Except ε β) (said : Option ι) (before after : β) : Prop :=
  match said with
  | some i => read i = .ok after
  | none => after = before

/-! ### Groups -/

theorem lookup_of_mem [BEq κ] [LawfulBEq κ] {pairs : List (κ × β)} {key : κ} {b : β}
    (hnames : (pairs.map (·.1)).Nodup) (h : (key, b) ∈ pairs) : pairs.lookup key = some b := by
  obtain ⟨before, after, rfl⟩ := List.append_of_mem h
  refine List.lookup_eq_some_iff.mpr ⟨before, after, rfl, fun p hp => bne_iff_ne.mpr fun heq => ?_⟩
  rw [List.map_append, List.map_cons, List.nodup_append] at hnames
  exact hnames.2.2 p.1 (List.mem_map_of_mem hp) key List.mem_cons_self heq.symm

theorem lookup_eq_none_of_forall [BEq κ] [LawfulBEq κ] {pairs : List (κ × β)} {key : κ}
    (h : ∀ p ∈ pairs, p.1 ≠ key) : pairs.lookup key = none :=
  List.lookup_eq_none_iff.mpr fun p hp => bne_iff_ne.mpr (h p hp).symm

namespace Group

variable {g : Group α} {key : String} {decode : Node → Except Mismatch β} {get : α → β}
  {start a : α}

/-- **A group holds a setting** under a name: the field of that name gives it its value, and no
other field touches it. -/
def Holds (g : Group α) (key : String) (decode : Node → Except Mismatch β) (get : α → β) : Prop :=
  ∀ field ∈ g.fields, ∀ node a a', field.2 node a = .ok a' →
    if field.1 = key then decode node = .ok (get a') else get a' = get a

theorem Holds.of_entry (h : g.Holds key decode get) {name : String} {node : Node} {a a' : α}
    (hput : (match g.fields.lookup name with
      | some put => put node a
      | none => .error (.unknownField name g.names)) = .ok a') :
    if name = key then decode node = .ok (get a') else get a' = get a := by
  split at hput
  · next put hlookup =>
    obtain ⟨before, after, hfields, -⟩ := List.lookup_eq_some_iff.mp hlookup
    have hmem : (name, put) ∈ g.fields := by
      rw [hfields]
      exact List.mem_append_right _ List.mem_cons_self
    exact h (name, put) hmem node a a' hput
  · cases hput

theorem Holds.given_of_decodeEntries (h : g.Holds key decode get) {entries : Entries}
    (hnames : (entries.map (·.1)).Nodup) (hdecode : g.decodeEntries start entries = .ok a) :
    Given decode (entries.lookup key) (get start) (get a) := by
  have hentry : ∀ e ∈ entries, ∀ b b', (match g.fields.lookup e.1 with
      | some put => put e.2 b
      | none => .error (.unknownField e.1 g.names)) = .ok b' →
      if e.1 = key then decode e.2 = .ok (get b') else get b' = get b :=
    fun e _ b b' hput => h.of_entry hput
  rcases get_of_foldlM (·.1) (fun e _ after => decode e.2 = .ok after) hnames hentry hdecode with
    ⟨hnone, hget⟩ | ⟨⟨_, node⟩, hmem, rfl, hgiven⟩
  · rw [lookup_eq_none_of_forall hnone]
    exact hget
  · rw [lookup_of_mem hnames hmem]
    exact hgiven

theorem nodup_fst_zip {names : List κ} (h : names.Nodup) (items : List β) :
    ((names.zip items).map (·.1)).Nodup := by
  have hlength : (names.take (min names.length items.length)).length
      ≤ (items.take (min names.length items.length)).length := by
    rw [List.length_take, List.length_take]
    omega
  rw [List.zip_eq_zip_take_min, List.map_fst_zip hlength]
  exact (List.take_sublist _ names).nodup h

theorem Holds.given_of_decodeItems (h : g.Holds key decode get) (hnames : g.names.Nodup)
    {items : List Node} (hdecode : g.decodeItems start items = .ok a) :
    Given decode ((g.names.zip items).lookup key) (get start) (get a) := by
  have hzip : g.names.zip items = (g.fields.zip items).map fun i => (i.1.1, i.2) := by
    rw [names, List.zip_map_left]
    rfl
  have hpairs := nodup_fst_zip hnames items
  have hsteps : ((g.fields.zip items).map (·.1.1)).Nodup := by
    rwa [hzip, List.map_map] at hpairs
  have hitem : ∀ i ∈ g.fields.zip items, ∀ b b', i.1.2 i.2 b = .ok b' →
      if i.1.1 = key then decode i.2 = .ok (get b') else get b' = get b :=
    fun i hi b b' hput => h i.1 (List.of_mem_zip hi).1 i.2 b b' hput
  rcases get_of_foldlM (·.1.1) (fun i _ after => decode i.2 = .ok after) hsteps hitem hdecode with
    ⟨hnone, hget⟩ | ⟨⟨⟨_, put⟩, node⟩, hmem, rfl, hgiven⟩
  · rw [lookup_eq_none_of_forall (by rw [hzip]; exact List.forall_mem_map.mpr hnone)]
    exact hget
  · have hpair := List.mem_map_of_mem (f := fun i => (i.1.1, i.2)) hmem
    rw [← hzip] at hpair
    rw [lookup_of_mem hpairs hpair]
    exact hgiven

theorem Holds.given_of_decode (h : g.Holds key decode get) (hnames : g.names.Nodup) {node : Node}
    (hnode : node.Distinct) (hdecode : g.decode start node = .ok a) :
    Given decode (member? g.names key node) (get start) (get a) := by
  cases node with
  | table origin entries =>
    exact h.given_of_decodeEntries (Entries.Distinct.of_table hnode).names hdecode
  | array items => exact h.given_of_decodeItems hnames hdecode
  | tables elements => exact h.given_of_decodeItems hnames hdecode
  | string s => cases hdecode
  | integer n => cases hdecode
  | float x => cases hdecode
  | boolean b => cases hdecode
  | moment => cases hdecode

end Group

theorem nodup_names (p : Part) : p.group.names.Nodup := by
  cases p <;> decide

/-- **Each setting is held by its group**, … -/
theorem holds_group (x : Setting) : x.part.group.Holds x.key x.kind.decode x.read := by
  intro field hfield node a a' hput
  cases x
  all_goals
    fin_cases hfield
    all_goals
      obtain ⟨v, hv, rfl⟩ := exists_of_map_eq_ok hput
      simp [Setting.key, Setting.kind, Setting.read, Kind.decode, hv, Except.map]

/-- … and each group by the document. -/
theorem holds_rootGroup (p : Part) :
    rootGroup.Holds p.name (p.group.decode p.defaults) (Part.contents · p) := by
  intro field hfield node s s' hput
  cases p
  all_goals
    fin_cases hfield
    all_goals
      obtain ⟨a, ha, rfl⟩ := exists_of_map_eq_ok hput
      simp only [Part.name]
      first | exact ha | rfl

/-- **What a document gives.** A setting has the value that stands under its name, and else its
default. -/
theorem Setting.get_of_decodeDocument {document : Entries} {s : Settings}
    (hdocument : document.Distinct) (h : decodeDocument document = .ok s) (x : Setting) :
    Given x.kind.decode (x.node? document) (x.get {}) (x.get s) := by
  have hroot := (holds_rootGroup x.part).given_of_decodeEntries hdocument.names h
  have hdefaults : x.part.contents {} = x.part.defaults := by cases x <;> rfl
  unfold Setting.node? Setting.get
  cases hlookup : document.lookup x.part.name with
  | none =>
    rw [hlookup] at hroot
    exact congrArg x.read hroot
  | some node =>
    rw [hlookup] at hroot
    rw [hdefaults]
    exact (holds_group x).given_of_decode (nodup_names x.part) (hdocument.of_lookup hlookup) hroot

/-! ### Variables -/

theorem Setting.get_of_assign {o : Override} {raw : String} {s s' : Settings}
    (h : o.assign raw s = .ok s') (x : Setting) :
    if some o = x.override? then x.kind.parse raw = .ok (x.get s') else x.get s' = x.get s := by
  cases o with
  | serverHost | serverTag | proxyUrl =>
    cases h
    cases x <;> simp [Setting.override?, Setting.kind, Setting.get, Setting.read, Part.contents,
      Setting.part, Kind.parse]
  | serverPort | exchangeTimeout | scenario | strict | linger =>
    obtain ⟨v, hv, rfl⟩ := exists_of_map_eq_ok h
    cases x <;> simp [Setting.override?, Setting.kind, Setting.get, Setting.read, Part.contents,
      Setting.part, Kind.parse, hv, Except.map]

theorem Setting.get_of_apply {env : Environment} {o : Override} {s s' : Settings}
    (h : o.apply env s = .ok s') (x : Setting) :
    if some o = x.override? then
      Given x.kind.parse (env.nonEmpty? o.variableName) (x.get s) (x.get s')
    else x.get s' = x.get s := by
  unfold Override.apply at h
  split at h
  · next hnone =>
    cases h
    split
    · rw [hnone]
      rfl
    · rfl
  · next raw hraw =>
    rw [hraw]
    exact Setting.get_of_assign (eq_ok_of_mapError_eq_ok h) x

theorem foldlM_of_applyAll {env : Environment} {os : List Override} {s s' : Settings}
    (h : Override.applyAll env os s = (s', none)) :
    os.foldlM (fun s o => o.apply env s) s = .ok s' := by
  induction os generalizing s with
  | nil =>
    cases h
    rfl
  | cons o os ih =>
    rw [Override.applyAll] at h
    rw [List.foldlM_cons]
    split at h
    · next s₁ hfirst =>
      rw [hfirst]
      exact ih h
    · cases h

theorem mem_all (o : Override) : o ∈ Override.all := by
  cases o <;> decide

/-- **What the environment gives.** A setting has the value that its variable spells, and else the
one that it had before. -/
theorem Setting.get_of_override {env : Environment} {s s' : Settings}
    (h : s.override env = .ok s') (x : Setting) :
    Given x.kind.parse (x.raw? env) (x.get s) (x.get s') := by
  have happly : Override.applyAll env Override.all s = (s', none) := by
    unfold override applyOverrides at h
    split at h
    · next s₁ heq =>
      cases h
      exact heq
    · cases h
  rcases get_of_foldlM some
      (fun o before after => Given x.kind.parse (env.nonEmpty? o.variableName) before after)
      (by decide) (fun o _ a a' hstep => Setting.get_of_apply hstep x)
      (foldlM_of_applyAll happly) with ⟨hnone, hget⟩ | ⟨o, -, ho, hgiven⟩
  · have hraw : x.raw? env = none := by
      unfold Setting.raw?
      cases ho : x.override? with
      | none => rfl
      | some o => exact absurd ho.symm (hnone o (mem_all o))
    rw [hraw]
    exact hget
  · rw [Setting.raw?, ← ho]
    exact hgiven

/-! ### Flags -/

/-- **What the flags give**, and else the setting is as before. -/
theorem Setting.get_apply (c : Choices) (s : Settings) (x : Setting) :
    x.get (c.apply s) = (x.flag? c).getD (x.get s) := by
  -- the choices are taken apart first, so that each setting can be read off
  obtain ⟨_, _, host, port, proxyUrl, scenario, strict, _, _, noLinger⟩ := c
  cases x with
  | serverHost => cases host <;> rfl
  | serverPort => cases port <;> rfl
  | proxyUrl => cases proxyUrl <;> rfl
  | scenario => cases scenario <;> rfl
  | strict => cases strict <;> rfl
  | linger =>
    cases noLinger with
    | false => exact congrArg Value.switch (Bool.and_true s.session.linger)
    | true => exact congrArg Value.switch (Bool.and_false s.session.linger)
  | _ => rfl

end EchoProbe.Settings
