import EchoProbe.Settings.Validation

/-!
# What validation accepts

Settings are accepted exactly if every check passes (`validate_eq_ok_iff`). The
address of the proxy is then one that a probe accepts.
-/

namespace EchoProbe.Settings

/-- **Settings that make a meaningful run.** -/
structure Valid (s : Settings) : Prop where
  /-- The server has a host to bind, … -/
  host : Text.isBlank s.server.host = false
  /-- … and a tag for its echoes. -/
  tag : s.server.serverTag ≠ ""
  /-- The address of the proxy is that of a WebSocket, and has a host. -/
  target : ∃ url, Net.Url.parse s.probe.proxyUrl = .ok url ∧ url.isWebSocket = true ∧
    url.host.isNone = false
  /-- No wait is over before it begins. -/
  waits : ∀ wait ∈ s.waits, wait.2 ≠ 0

/-- A check that passes leaves the others. -/
theorem check_eq_ok_iff {ε : Type} {p : Prop} [Decidable p] (error : ε) (rest : Except ε Unit) :
    (do if p then throw error
        rest) = .ok () ↔ ¬ p ∧ rest = .ok () := by
  by_cases h : p
  · rw [if_pos h]
    exact iff_of_false (by rintro ⟨⟩) fun hnot => hnot.1 h
  · rw [if_neg h]
    exact (and_iff_right h).symm

/-- The last check passes if no wait is over before it begins. -/
theorem check_waits_eq_ok_iff (s : Settings) :
    (match s.waits.find? (·.2 == 0) with
      | some (name, _) => throw (.config (.zeroTimeout name))
      | none => return : Except Error Unit) = .ok () ↔ ∀ wait ∈ s.waits, wait.2 ≠ 0 := by
  cases hfind : s.waits.find? (·.2 == 0) with
  | some wait =>
    refine iff_of_false (by rintro ⟨⟩) fun h => ?_
    exact h wait (List.mem_of_find?_eq_some hfind) (by simpa using List.find?_some hfind)
  | none => exact iff_of_true rfl (by simpa using hfind)

/-- **Validation accepts** the settings that make a meaningful run, and no others. -/
theorem validate_eq_ok_iff (s : Settings) : s.validate = .ok () ↔ s.Valid := by
  unfold validate
  rw [check_eq_ok_iff, check_eq_ok_iff, Bool.not_eq_true]
  cases hurl : Net.Url.parse s.probe.proxyUrl with
  | error fault =>
    refine iff_of_false (by rintro ⟨-, -, ⟨⟩⟩) fun h => ?_
    obtain ⟨url, hok, -⟩ := h.target
    rw [hurl] at hok
    cases hok
  | ok url =>
    show _ ∧ _ ∧ (do
      if !url.isWebSocket then throw (Error.config (.wrongScheme url.scheme))
      (_ : Except Error Unit)) = .ok () ↔ _
    rw [check_eq_ok_iff, check_eq_ok_iff, Bool.not_eq_true, Bool.not_eq_eq_eq_not,
      Bool.not_false, Bool.not_eq_true]
    constructor
    · rintro ⟨hhost, htag, hscheme, hsome, hwaits⟩
      exact ⟨hhost, htag, ⟨url, hurl, hscheme, hsome⟩, s.check_waits_eq_ok_iff.mp hwaits⟩
    · rintro ⟨hhost, htag, ⟨url', hurl', hscheme, hsome⟩, hwaits⟩
      obtain rfl := Except.ok.inj (hurl.symm.trans hurl')
      exact ⟨hhost, htag, hscheme, hsome, s.check_waits_eq_ok_iff.mpr hwaits⟩

end EchoProbe.Settings
