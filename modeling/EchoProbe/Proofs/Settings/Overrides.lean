import EchoProbe.Proofs.Settings.Setting
import EchoProbe.Proofs.Text.Digit

/-!
# What the variables do to the settings

A variable that is set, readable and not empty spells a value of its setting or none
(`Kind.Spells`). If each spells one, the settings get those values, all others stay as they
were, and there is nothing left to do. Else the first that spells none stops the rest
(`overridden_applyOverrides`).
-/

namespace EchoProbe.Settings

open EchoProbe.Text

/-! ### What a text spells -/

/-- **A numeral**: decimal digits, at least one, with or without a plus in front. -/
def Numeral (raw : String) (n : Nat) : Prop :=
  ∃ ds, ds ≠ [] ∧ digitsValue ds = n ∧
    (raw.toList = digitChars ds ∨ raw.toList = '+' :: digitChars ds)

/-- **The value that a text spells**, for the settings of a kind. -/
inductive Kind.Spells : Kind → String → Value → Prop
  /-- A text is its own value. -/
  | text (raw : String) : Spells .text raw (.text raw)
  /-- A numeral, if the number is one of a port. -/
  | port {raw : String} {p : UInt16} (h : Numeral raw p.toNat) : Spells .port raw (.port p)
  /-- A numeral, if the number fits. -/
  | millis {raw : String} {ms : UInt64} (h : Numeral raw ms.toNat) :
    Spells .millis raw (.millis ms)
  /-- The name of a scenario, in any case. -/
  | scenario {raw : String} {c : Scenario} (h : lowercase raw = c.name) :
    Spells .scenario raw (.scenario c)
  /-- On. -/
  | on : Spells .switch "true" (.switch true)
  /-- Off. -/
  | off : Spells .switch "false" (.switch false)

/-- What is left of a number whose first digits have been read. -/
theorem readUnsigned_eq_ok_iff {limit value n : Nat} {cs : List Char} (hvalue : value ≤ limit) :
    readUnsigned limit value cs = .ok n ↔
      ∃ ds : List Digit, cs = digitChars ds ∧ ds.foldl (fun n d => 10 * n + d.val) value = n ∧
        n ≤ limit := by
  induction cs generalizing value with
  | nil =>
    rw [readUnsigned]
    constructor
    · rintro ⟨⟩
      exact ⟨[], rfl, rfl, hvalue⟩
    · rintro ⟨ds, hds, rfl, -⟩
      rw [List.map_eq_nil_iff.mp hds.symm]
      rfl
  | cons c cs ih =>
    rw [readUnsigned]
    constructor
    · intro h
      split at h
      · cases h
      · next d hd =>
        split at h
        · cases h
        · next hle =>
          obtain ⟨ds, rfl, hds, hn⟩ := (ih (Nat.le_of_not_lt hle)).mp h
          rw [Nat.mul_comm] at hds
          exact ⟨d :: ds, by rw [eq_toChar_of_ofChar? hd]; rfl, hds, hn⟩
    · rintro ⟨ds, hds, hn, hle⟩
      obtain ⟨d, ds, rfl, rfl, rfl⟩ := List.map_eq_cons_iff.mp hds.symm
      rw [List.foldl_cons] at hn
      have hfits : value * 10 + d.val ≤ limit := by
        have hgrows := le_foldl_digits ds (10 * value + d.val)
        omega
      rw [Digit.ofChar?_toChar]
      dsimp only
      rw [if_neg (Nat.not_lt.mpr hfits)]
      exact (ih hfits).mpr ⟨ds, rfl, by rw [Nat.mul_comm value, hn], hle⟩

/-- **A number is read from its numerals**, if it does not exceed the limit. -/
theorem parseUnsigned_eq_ok_iff {limit n : Nat} {raw : String} :
    parseUnsigned limit raw = .ok n ↔ Numeral raw n ∧ n ≤ limit := by
  have hdigits : ∀ cs : List Char, cs ≠ [] → (readUnsigned limit 0 cs = .ok n ↔
      ∃ ds, ds ≠ [] ∧ digitsValue ds = n ∧ n ≤ limit ∧ cs = digitChars ds) := by
    intro cs hcs
    rw [readUnsigned_eq_ok_iff (Nat.zero_le limit)]
    constructor
    · rintro ⟨ds, rfl, hn, hle⟩
      exact ⟨ds, fun hnil => hcs (by rw [hnil]; rfl), hn, hle, rfl⟩
    · rintro ⟨ds, -, hn, hle, rfl⟩
      exact ⟨ds, rfl, hn, hle⟩
  have hplus : ∀ ds : List Digit, ∀ cs, '+' :: cs ≠ digitChars ds := by
    intro ds cs h
    obtain ⟨d, ds, -, hd, -⟩ := List.map_eq_cons_iff.mp h.symm
    exact absurd hd (by revert d; decide)
  unfold parseUnsigned Numeral
  split
  · next hnil =>
    refine iff_of_false nofun ?_
    rintro ⟨⟨ds, hds, -, hraw | hraw⟩, -⟩
    · rw [hnil] at hraw
      exact hds (List.map_eq_nil_iff.mp hraw.symm)
    · rw [hnil] at hraw
      cases hraw
  · next hnil =>
    refine iff_of_false nofun ?_
    rintro ⟨⟨ds, hds, -, hraw | hraw⟩, -⟩
    · exact hplus ds [] (hnil ▸ hraw)
    · rw [hnil] at hraw
      exact hds (List.map_eq_nil_iff.mp (List.cons.inj hraw).2.symm)
  · next cs hne hraw =>
    rw [hdigits cs hne]
    constructor
    · rintro ⟨ds, hds, hn, hle, rfl⟩
      exact ⟨⟨ds, hds, hn, .inr hraw⟩, hle⟩
    · rintro ⟨⟨ds, hds, hn, hds' | hds'⟩, hle⟩
      · exact absurd (hraw.symm.trans hds') (hplus ds cs)
      · exact ⟨ds, hds, hn, hle, (List.cons.inj (hraw.symm.trans hds')).2⟩
  · next hnil _ hne =>
    rw [hdigits raw.toList hnil]
    constructor
    · rintro ⟨ds, hds, hn, hle, hraw⟩
      exact ⟨⟨ds, hds, hn, .inl hraw⟩, hle⟩
    · rintro ⟨⟨ds, hds, hn, hraw | hraw⟩, hle⟩
      · exact ⟨ds, hds, hn, hle, hraw⟩
      · exact absurd hraw (hne _)

/-- Scenarios go by their names, in lower case. -/
theorem parseScenario_eq_ok_iff {raw : String} {c : Scenario} :
    parseScenario raw = .ok c ↔ lowercase raw = c.name := by
  unfold parseScenario Scenario.parse
  dsimp only
  split
  · next h =>
    rw [h]
    cases c <;> decide
  · split
    · next h =>
      rw [h]
      cases c <;> decide
    · next hminimal hfull =>
      refine iff_of_false nofun ?_
      cases c
      · exact hminimal
      · exact hfull

/-- **Reading gives the value that is spelled**, and fails if none is. -/
theorem Kind.parse_eq_ok_iff {k : Kind} {raw : String} {v : Value} :
    k.parse raw = .ok v ↔ k.Spells raw v := by
  cases k with
  | text =>
    constructor
    · rintro ⟨⟩
      exact .text raw
    · rintro ⟨⟩
      rfl
  | port =>
    constructor
    · intro h
      obtain ⟨n, hn, rfl⟩ := exists_of_map_eq_ok h
      obtain ⟨hraw, hle⟩ := parseUnsigned_eq_ok_iff.mp hn
      refine .port ?_
      rwa [UInt16.toNat_ofNat_of_lt' (Nat.lt_succ_of_le hle)]
    · rintro ⟨⟩
      next p hp =>
      rw [Kind.parse, parseUnsigned_eq_ok_iff.mpr ⟨hp, Nat.le_of_lt_succ p.toNat_lt⟩, Except.map,
        UInt16.ofNat_toNat]
  | millis =>
    constructor
    · intro h
      obtain ⟨n, hn, rfl⟩ := exists_of_map_eq_ok h
      obtain ⟨hraw, hle⟩ := parseUnsigned_eq_ok_iff.mp hn
      refine .millis ?_
      rwa [UInt64.toNat_ofNat_of_lt' (Nat.lt_succ_of_le hle)]
    · rintro ⟨⟩
      next ms hms =>
      rw [Kind.parse, parseUnsigned_eq_ok_iff.mpr ⟨hms, Nat.le_of_lt_succ ms.toNat_lt⟩, Except.map,
        UInt64.ofNat_toNat]
  | scenario =>
    constructor
    · intro h
      obtain ⟨c, hc, rfl⟩ := exists_of_map_eq_ok h
      exact .scenario (parseScenario_eq_ok_iff.mp hc)
    · rintro ⟨⟩
      next c hc =>
      rw [Kind.parse, parseScenario_eq_ok_iff.mpr hc]
      rfl
  | switch =>
    constructor
    · intro h
      obtain ⟨b, hb, rfl⟩ := exists_of_map_eq_ok h
      unfold parseBoolean at hb
      split at hb
      · next hraw =>
        cases hb
        exact hraw ▸ .on
      · split at hb
        · next hraw =>
          cases hb
          exact hraw ▸ .off
        · cases hb
    · rintro ⟨⟩ <;> rfl

/-! ### What is said about the settings -/

/-- The setting that a variable gives. -/
def Override.setting : Override → Setting
  | .serverHost => .serverHost
  | .serverPort => .serverPort
  | .serverTag => .serverTag
  | .proxyUrl => .proxyUrl
  | .exchangeTimeout => .exchangeTimeout
  | .scenario => .scenario
  | .strict => .strict
  | .linger => .linger

/-- **A variable says something**: it is set, readable and not empty. -/
def Override.Says (env : Environment) (o : Override) (raw : String) : Prop :=
  env.read? o.variableName = some raw ∧ raw ≠ ""

/-- **The environment says nothing wrong** by a variable: what it says, if anything, spells a
value. -/
def Override.Sound (env : Environment) (o : Override) : Prop :=
  ∀ raw, o.Says env raw → ∃ v, o.setting.kind.Spells raw v

/-- **A setting has been overridden.** -/
structure Setting.Overridden (env : Environment) (x : Setting) (before after : Settings) : Prop where
  /-- It has the value that its variable spells, if that says something. -/
  spelled : ∀ (o : Override) raw, o.setting = x → o.Says env raw → x.kind.Spells raw (x.get after)
  /-- It has the value that it had before if it has no variable that says something. -/
  kept : (∀ (o : Override) raw, o.setting = x → ¬ o.Says env raw) → x.get after = x.get before

/-- **What overriding comes to**: the settings that are reached, and what stopped on the way. -/
inductive Overridden (env : Environment) (s : Settings) : Settings × Option Problem → Prop
  /-- Every variable is sound. Each setting has been overridden, which leaves nothing to do. -/
  | all {s' : Settings} (hsound : ∀ o : Override, o.Sound env)
    (hall : ∀ x : Setting, x.Overridden env s s')
    (hagain : s'.applyOverrides env = (s', none)) :
    Overridden env s (s', none)
  /-- A variable is the first that is not sound. The settings whose variables come before it
  have been overridden, and no other has been touched. -/
  | stopped {s' : Settings} {before after : List Override} {o : Override} {raw : String}
    {fault : ValueFault} (horder : Override.all = before ++ o :: after)
    (hsound : ∀ o' ∈ before, o'.Sound env) (hraw : o.Says env raw)
    (hnone : ¬ ∃ v, o.setting.kind.Spells raw v)
    (hfault : o.setting.kind.parse raw = .error fault)
    (hbefore : ∀ x : Setting, (∃ o' ∈ before, o'.setting = x) → x.Overridden env s s')
    (hrest : ∀ x : Setting, (¬ ∃ o' ∈ before, o'.setting = x) → x.get s' = x.get s) :
    Overridden env s (s', some (.invalidVariable o.variableName raw fault))

theorem override?_eq_some_iff {x : Setting} {o : Override} :
    x.override? = some o ↔ o.setting = x := by
  cases x <;> cases o <;> decide

/-- Only a text that says something is looked at, … -/
theorem nonEmpty?_eq_some_iff {env : Environment} {o : Override} {raw : String} :
    env.nonEmpty? o.variableName = some raw ↔ o.Says env raw := by
  unfold Environment.nonEmpty? Override.Says
  rw [Option.filter_eq_some_iff, bne_iff_ne]

/-- … for the setting of the variable. -/
theorem Setting.raw?_eq_some_iff {env : Environment} {x : Setting} {raw : String} :
    x.raw? env = some raw ↔ ∃ o : Override, o.setting = x ∧ o.Says env raw := by
  rw [Setting.raw?, Option.bind_eq_some_iff]
  simp only [override?_eq_some_iff, ← nonEmpty?_eq_some_iff, Environment.nonEmpty?]

theorem Setting.overridden_iff {env : Environment} {x : Setting} {s s' : Settings} :
    x.Overridden env s s' ↔ Given x.kind.parse (x.raw? env) (x.get s) (x.get s') := by
  unfold Given
  constructor
  · intro h
    split
    · next raw hraw =>
      obtain ⟨o, hx, hsays⟩ := Setting.raw?_eq_some_iff.mp hraw
      exact Kind.parse_eq_ok_iff.mpr (h.spelled o raw hx hsays)
    · next hnone =>
      refine h.kept fun o raw hx hsays => ?_
      rw [Setting.raw?_eq_some_iff.mpr ⟨o, hx, hsays⟩] at hnone
      cases hnone
  · intro h
    constructor
    · intro o raw hx hsays
      rw [Setting.raw?_eq_some_iff.mpr ⟨o, hx, hsays⟩] at h
      exact Kind.parse_eq_ok_iff.mp h
    · intro hnone
      split at h
      · next raw hraw =>
        obtain ⟨o, hx, hsays⟩ := Setting.raw?_eq_some_iff.mp hraw
        exact absurd hsays (hnone o raw hx)
      · exact h

/-- The setting of a variable is given what the text of the variable stands for. -/
theorem map_assign (o : Override) (raw : String) (s : Settings) :
    (o.assign raw s).map o.setting.get = o.setting.kind.parse raw := by
  cases o with
  | serverHost | serverTag | proxyUrl => rfl
  | serverPort | exchangeTimeout =>
    simp only [Override.assign, Override.setting, Setting.kind, Kind.parse]
    cases parseUnsigned _ raw <;> rfl
  | scenario =>
    simp only [Override.assign, Override.setting, Setting.kind, Kind.parse]
    cases parseScenario raw <;> rfl
  | strict | linger =>
    simp only [Override.assign, Override.setting, Setting.kind, Kind.parse]
    cases parseBoolean raw <;> rfl

/-- **One variable**: it is sound, or it is to blame. -/
theorem apply_cases (env : Environment) (o : Override) (s : Settings) :
    (o.Sound env ∧ ∃ s', o.apply env s = .ok s') ∨
      ∃ raw fault, o.Says env raw ∧
        (¬ ∃ v, o.setting.kind.Spells raw v) ∧ o.setting.kind.parse raw = .error fault ∧
        o.apply env s = .error (.invalidVariable o.variableName raw fault) := by
  unfold Override.apply Override.Sound
  simp only [← nonEmpty?_eq_some_iff]
  cases env.nonEmpty? o.variableName with
  | none => exact .inl ⟨nofun, s, rfl⟩
  | some raw =>
    have hassign := map_assign o raw s
    dsimp only
    cases h : o.assign raw s with
    | ok s' =>
      rw [h] at hassign
      refine .inl ⟨?_, s', rfl⟩
      rintro _ ⟨⟩
      exact ⟨o.setting.get s', Kind.parse_eq_ok_iff.mp hassign.symm⟩
    | error fault =>
      rw [h] at hassign
      refine .inr ⟨raw, fault, rfl, fun ⟨v, hv⟩ => ?_, hassign.symm, rfl⟩
      rw [Kind.parse_eq_ok_iff.mpr hv] at hassign
      cases hassign

/-- **Variables in turn**: all are sound, or one is the first that is not. -/
theorem applyAll_cases (env : Environment) (os : List Override) (s : Settings) :
    ((∀ o ∈ os, o.Sound env) ∧ ∃ s', Override.applyAll env os s = (s', none)) ∨
      ∃ before o after raw fault s', os = before ++ o :: after ∧
        (∀ o' ∈ before, o'.Sound env) ∧ o.Says env raw ∧
        (¬ ∃ v, o.setting.kind.Spells raw v) ∧ o.setting.kind.parse raw = .error fault ∧
        Override.applyAll env before s = (s', none) ∧
        Override.applyAll env os s = (s', some (.invalidVariable o.variableName raw fault)) := by
  induction os generalizing s with
  | nil => exact .inl ⟨List.forall_mem_nil _, s, rfl⟩
  | cons o os ih =>
    rcases apply_cases env o s with ⟨hsound, s₁, happly⟩ | ⟨raw, fault, hraw, hnone, hfault, happly⟩
    · rcases ih s₁ with ⟨hall, s', hs'⟩ | ⟨before, o', after, raw, fault, s', rfl, hbefore, hstop⟩
      · refine .inl ⟨List.forall_mem_cons.mpr ⟨hsound, hall⟩, s', ?_⟩
        rw [Override.applyAll, happly]
        exact hs'
      · obtain ⟨hraw, hnone, hfault, hreached, hs'⟩ := hstop
        refine .inr ⟨o :: before, o', after, raw, fault, s', rfl,
          List.forall_mem_cons.mpr ⟨hsound, hbefore⟩, hraw, hnone, hfault, ?_, ?_⟩
        · rw [Override.applyAll, happly]
          exact hreached
        · rw [Override.applyAll, happly]
          exact hs'
    · refine .inr ⟨[], o, os, raw, fault, s, rfl, List.forall_mem_nil _, hraw, hnone, hfault, rfl, ?_⟩
      rw [Override.applyAll, happly]

/-- **What variables that were all applied came to**, for each setting. -/
theorem get_of_applyAll {env : Environment} {os : List Override} {s s' : Settings}
    (hos : os.Nodup) (h : Override.applyAll env os s = (s', none)) (x : Setting) :
    ((∃ o ∈ os, o.setting = x) ∧ x.Overridden env s s') ∨
      (¬ (∃ o ∈ os, o.setting = x) ∧ x.get s' = x.get s) := by
  rcases get_of_foldlM some
      (fun o before after => Given x.kind.parse (env.nonEmpty? o.variableName) before after)
      (hos.map (Option.some_injective _)) (fun o _ a a' hstep => Setting.get_of_apply hstep x)
      (foldlM_of_applyAll h) with ⟨hnone, hget⟩ | ⟨o, ho, hx, hgiven⟩
  · exact .inr ⟨fun ⟨o, ho, hx⟩ => hnone o ho (override?_eq_some_iff.mpr hx).symm, hget⟩
  · refine .inl ⟨⟨o, ho, override?_eq_some_iff.mp hx.symm⟩, Setting.overridden_iff.mpr ?_⟩
    rw [Setting.raw?, ← hx]
    exact hgiven

/-- **Overriding twice is overriding once.** -/
theorem eq_of_overridden {env : Environment} {s s' s'' : Settings}
    (h : ∀ x : Setting, x.Overridden env s s') (h' : ∀ x : Setting, x.Overridden env s' s'') :
    s'' = s' := by
  refine Setting.eq_of_get_eq fun x => ?_
  have hx := Setting.overridden_iff.mp (h x)
  have hx' := Setting.overridden_iff.mp (h' x)
  cases hraw : x.raw? env with
  | none =>
    rw [hraw] at hx'
    exact hx'
  | some raw =>
    rw [hraw] at hx hx'
    exact Except.ok.inj (Eq.trans (Eq.symm hx') hx)

/-- If nothing stops on the way, each setting has been overridden. -/
theorem overridden_of_applyOverrides {env : Environment} {s s' : Settings}
    (h : s.applyOverrides env = (s', none)) (x : Setting) : x.Overridden env s s' := by
  have hoverride : s.override env = .ok s' := by rw [override, h]
  exact Setting.overridden_iff.mpr (Setting.get_of_override hoverride x)

/-- **Overriding is exact**: it gives each setting what its variable spells and touches no
other, up to the first variable that spells nothing. -/
theorem overridden_applyOverrides (env : Environment) (s : Settings) :
    Overridden env s (s.applyOverrides env) := by
  rcases applyAll_cases env Override.all s with
    ⟨hsound, s', hs'⟩ | ⟨before, o, after, raw, fault, s', horder, hsound, hraw, hstop⟩
  · have hall : ∀ x : Setting, x.Overridden env s s' := overridden_of_applyOverrides hs'
    have hagain : s'.applyOverrides env = (s', none) := by
      rcases applyAll_cases env Override.all s' with
        ⟨-, s'', hs''⟩ | ⟨before, o, after, raw, fault, s'', horder, -, hraw, hnone, -⟩
      · have hsame : s'' = s' := eq_of_overridden hall (overridden_of_applyOverrides hs'')
        exact hsame ▸ hs''
      · exact absurd (hsound o (mem_all o) raw hraw) hnone
    rw [applyOverrides, hs']
    exact .all (fun o => hsound o (mem_all o)) hall hagain
  · have hnodup : before.Nodup := by
      have hall : Override.all.Nodup := by decide
      rw [horder] at hall
      exact (List.nodup_append.mp hall).1
    obtain ⟨hnone, hfault, hreached, hs'⟩ := hstop
    rw [applyOverrides, hs']
    refine .stopped horder hsound hraw hnone hfault (fun x hx => ?_) fun x hx => ?_
    · exact ((get_of_applyAll hnodup hreached x).resolve_right fun h => h.1 hx).2
    · exact ((get_of_applyAll hnodup hreached x).resolve_left fun h => hx h.1).2

/-- Variables that spell values, but for one that is empty and one that cannot be read. -/
def soundVariables : Environment where
  entries :=
    [("WSH_LINGER", Text.Utf8.encode "false"), ("WSH_STRICT", Text.Utf8.encode "true"),
      ("WSH_SCENARIO", Text.Utf8.encode "Minimal"),
      ("WSH_EXCHANGE_TIMEOUT_MS", Text.Utf8.encode "250"), ("WSH_PROXY_URL", [0xFF]),
      ("WSH_SERVER_TAG", []), ("WSH_UPSTREAM_PORT", Text.Utf8.encode "+9000"),
      ("WSH_UPSTREAM_HOST", Text.Utf8.encode "::1")]

/-- Variables of which the fourth spells nothing. The one that follows is not looked at. -/
def unsoundVariables : Environment where
  entries :=
    [("WSH_LINGER", Text.Utf8.encode "false"),
      ("WSH_EXCHANGE_TIMEOUT_MS", Text.Utf8.encode "1e3"),
      ("WSH_PROXY_URL", Text.Utf8.encode "ws://a"), ("WSH_SERVER_TAG", Text.Utf8.encode "tag"),
      ("WSH_UPSTREAM_PORT", Text.Utf8.encode "80")]

/-- What these variables make of the defaults. -/
theorem overridden_applyOverrides_variables :
    Overridden soundVariables {}
        ({ server := { host := "::1", port := 9000 }
           probe := { exchangeTimeoutMs := 250, scenario := .minimal, strict := true }
           session := { linger := false } }, none) ∧
      Overridden unsoundVariables {}
        ({ server := { port := 80, serverTag := "tag" }, probe := { proxyUrl := "ws://a" } },
          some (.invalidVariable "WSH_EXCHANGE_TIMEOUT_MS" "1e3" .invalidDigit)) := by
  have hsound : ({} : Settings).applyOverrides soundVariables
      = ({ server := { host := "::1", port := 9000 }
           probe := { exchangeTimeoutMs := 250, scenario := .minimal, strict := true }
           session := { linger := false } }, none) := by
    with_unfolding_all rfl
  have hunsound : ({} : Settings).applyOverrides unsoundVariables
      = ({ server := { port := 80, serverTag := "tag" }, probe := { proxyUrl := "ws://a" } },
        some (.invalidVariable "WSH_EXCHANGE_TIMEOUT_MS" "1e3" .invalidDigit)) := by
    with_unfolding_all rfl
  exact ⟨hsound ▸ overridden_applyOverrides soundVariables {},
    hunsound ▸ overridden_applyOverrides unsoundVariables {}⟩

end EchoProbe.Settings
