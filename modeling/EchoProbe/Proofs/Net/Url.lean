import EchoProbe.Net.Url
import EchoProbe.Proofs.Text.OneLine
import EchoProbe.Proofs.Yields

/-!
# The text of an address does not break the line

Whatever stands in an address is percent-encoded, or is a number, or has passed a check that
no control character passes. So its text holds no line feed (`oneLine_url`), although an
address may come with encoded ones, which are decoded in the name of the host.
-/

namespace EchoProbe.Net

open EchoProbe.Text

/-! ### Characters -/

theorem toLower_ne_newline {c : Char} (h : c ≠ '\n') : c.toLower ≠ '\n' := by
  unfold Char.toLower
  split
  · next hupper =>
    intro heq
    have hval : (c.val + 32).toNat = 10 := congrArg (fun d : Char => d.val.toNat) heq
    have hle : 65 ≤ c.val.toNat := UInt32.le_iff_toNat_le.mp hupper.1
    have hge : c.val.toNat ≤ 90 := UInt32.le_iff_toNat_le.mp hupper.2
    rw [UInt32.toNat_add, show (32 : UInt32).toNat = 32 from rfl] at hval
    omega
  · exact h

/-- A character that passes some check is no line feed if that does not pass. -/
theorem oneLine_of_all {p : Char → Bool} {cs : List Char} (h : ∀ c ∈ cs, p c = true)
    (hp : p '\n' = false) : OneLine cs := by
  intro hmem
  rw [h _ hmem] at hp
  cases hp

/-! ### Percent-encoding -/

theorem oneLine_percentByte (b : UInt8) : OneLine (percentByte b) := by
  have hdigit : ∀ n < 16, upperHex n ≠ '\n' := by decide
  have hlt : b.toNat < 256 := b.toNat_lt
  simp [percentByte, hdigit _ (show b.toNat / 16 < 16 by omega),
    hdigit _ (show b.toNat % 16 < 16 by omega)]

/-- **What is percent-encoded does not break the line.** -/
theorem oneLine_percentEncode (others cs : List Char) : OneLine (percentEncode others cs) := by
  refine oneLine_flatMap fun c _ => ?_
  split
  · exact oneLine_flatMap fun b _ => oneLine_percentByte b
  · next hplain =>
    refine oneLine_cons.mpr ⟨?_, oneLine_nil⟩
    rintro rfl
    exact hplain rfl

/-! ### Names of hosts -/

theorem digitChar_ne_newline (d : Nat) : Punycode.digitChar d ≠ '\n' := by
  unfold Punycode.digitChar
  split <;> exact ofNat_ne_newline (by omega)

theorem oneLine_deltaDigits (bias place q : Nat) :
    OneLine (Punycode.deltaDigits bias place q) := by
  fun_induction Punycode.deltaDigits bias place q with
  | case1 => exact oneLine_cons.mpr ⟨digitChar_ne_newline _, oneLine_nil⟩
  | case2 => exact oneLine_cons.mpr ⟨digitChar_ne_newline _, ‹_›⟩

theorem oneLine_pass {basic code : Nat} {e : Punycode.Encoder} (h : OneLine e.output) (c : Char) :
    OneLine (e.pass basic code c).output := by
  unfold Punycode.Encoder.pass
  split
  · exact h
  · split
    · exact oneLine_append.mpr ⟨oneLine_reverse.mpr (oneLine_deltaDigits _ _ _), h⟩
    · exact h

theorem oneLine_foldl_pass {basic code : Nat} (label : List Char) {e : Punycode.Encoder}
    (h : OneLine e.output) : OneLine (label.foldl (Punycode.Encoder.pass basic code) e).output := by
  induction label generalizing e with
  | nil => exact h
  | cons c label ih => exact ih (oneLine_pass h c)

theorem oneLine_run (label : List Char) (basic start : Nat) (codes : List Nat)
    {e : Punycode.Encoder} (h : OneLine e.output) :
    OneLine (Punycode.Encoder.run label basic codes start e).output := by
  induction codes generalizing start e with
  | nil => exact h
  | cons code codes ih => exact ih _ (oneLine_foldl_pass label h)

/-- The encoding of a label has no line feed of its own. -/
theorem oneLine_encode {label : List Char} (h : OneLine label) :
    OneLine (Punycode.encode label) := by
  have houtput : OneLine (Punycode.Encoder.run label
      (label.filter (·.toNat < 0x80)).length
      (((label.map Char.toNat).filter (0x80 ≤ ·)).foldr Punycode.insertSorted []) 0x80
      ⟨[], 0, 72, (label.filter (·.toNat < 0x80)).length⟩).output.reverse :=
    oneLine_reverse.mpr (oneLine_run label _ _ _ oneLine_nil)
  refine oneLine_append.mpr ⟨oneLine_append.mpr ⟨?_, ?_⟩, houtput⟩
  · exact h.of_subset List.filter_sublist.subset
  · split <;> decide

/-- **A label holds no control character.** -/
theorem oneLine_label {text : List Char} {label : DomainLabel}
    (h : DomainLabel.of? text = some label) : OneLine label.ascii := by
  unfold DomainLabel.of? at h
  split at h
  · cases h
  · next hforbidden =>
    have htext : OneLine text := by
      intro hmem
      exact hforbidden (List.any_eq_true.mpr ⟨_, hmem, by decide⟩)
    dsimp only at h
    split at h
    · split at h
      · obtain ⟨content, -, rfl⟩ := Option.map_eq_some_iff.mp h
        exact htext
      · cases h
    · split at h
      · cases h
        exact htext
      · split at h
        · cases h
          exact oneLine_append.mpr ⟨by decide, oneLine_encode htext⟩
        · cases h

theorem exists_of_mem_mapM {α β : Type} {f : α → Option β} {as : List α} {bs : List β}
    (h : as.mapM f = some bs) {b : β} (hb : b ∈ bs) : ∃ a ∈ as, f a = some b := by
  induction as generalizing bs with
  | nil =>
    cases h
    cases hb
  | cons a as ih =>
    rw [List.mapM_cons] at h
    obtain ⟨b₁, hb₁, h⟩ := Option.bind_eq_some_iff.mp h
    obtain ⟨bs₁, hbs₁, h⟩ := Option.bind_eq_some_iff.mp h
    cases h
    rcases List.mem_cons.mp hb with rfl | hb
    · exact ⟨a, List.mem_cons_self, hb₁⟩
    · obtain ⟨a', ha', hfa'⟩ := ih hbs₁ hb
      exact ⟨a', List.mem_cons_of_mem a ha', hfa'⟩

theorem oneLine_joinLabels {labels : List (List Char)} (h : ∀ label ∈ labels, OneLine label) :
    OneLine (joinLabels labels) := by
  fun_induction joinLabels labels with
  | case1 => exact oneLine_nil
  | case2 label => exact h label List.mem_cons_self
  | case3 label labels _ ih =>
    refine oneLine_append.mpr ⟨h label List.mem_cons_self, oneLine_cons.mpr ⟨by decide, ih ?_⟩⟩
    exact fun label hlabel => h label (List.mem_cons_of_mem _ hlabel)

/-- **The name of a host does not break the line.** -/
theorem oneLine_domain {name ascii : List Char} (h : domainToAscii? name = some ascii) :
    OneLine ascii := by
  obtain ⟨mapped, -, h⟩ := Option.bind_eq_some_iff.mp h
  obtain ⟨labels, hlabels, h⟩ := Option.bind_eq_some_iff.mp h
  split at h
  · cases h
    refine oneLine_joinLabels fun label hlabel => ?_
    obtain ⟨l, hl, rfl⟩ := List.mem_map.mp hlabel
    obtain ⟨text, -, htext⟩ := exists_of_mem_mapM hlabels hl
    exact oneLine_label htext
  · cases h

/-! ### Hosts -/

theorem oneLine_intercalate {separator : String} (hseparator : OneLine separator.toList) :
    (parts : List String) → (∀ part ∈ parts, OneLine part.toList) →
      OneLine (String.intercalate separator parts).toList
  | [], _ => by simp
  | [part], h => by simpa using h
  | part :: next :: parts, h => by
    have hpart := h part List.mem_cons_self
    have hrest := oneLine_intercalate hseparator (next :: parts)
      fun part hpart => h part (List.mem_cons_of_mem _ hpart)
    rw [String.toList_intercalate] at hrest ⊢
    simp only [List.map_cons, List.intercalate_cons_cons, oneLine_append] at hrest ⊢
    exact ⟨⟨hpart, hseparator⟩, hrest⟩

theorem oneLine_ipv4 (a : Ipv4) : OneLine a.toText.toList := by
  refine oneLine_intercalate (by decide) _ fun part hpart => ?_
  obtain ⟨b, -, rfl⟩ := List.mem_map.mp hpart
  exact oneLine_decimal _

theorem oneLine_groupsText (gs : List UInt16) : OneLine (groupsText gs).toList := by
  refine oneLine_intercalate (by decide) _ fun part hpart => ?_
  obtain ⟨g, -, rfl⟩ := List.mem_map.mp hpart
  exact oneLine_hexadecimal _

theorem oneLine_ipv6 (a : Ipv6) : OneLine a.compressed.toList := by
  unfold Ipv6.compressed
  dsimp only
  split
  · exact oneLine_groupsText _
  · simp [oneLine_groupsText]

theorem oneLine_parseBracketed {cs : List Char} {host : Host} (h : parseBracketed cs = .ok host) :
    OneLine host.toText.toList := by
  unfold parseBracketed at h
  split at h
  · split at h
    · cases h
      simp [Host.toText, oneLine_ipv6]
    · cases h
  · cases h

theorem oneLine_parseHost {cs : List Char} {host : Host} (h : parseHost cs = .ok host) :
    OneLine host.toText.toList := by
  unfold parseHost at h
  split at h
  · exact oneLine_parseBracketed h
  · split at h
    · cases h
    · cases h
    · next name _ hname =>
      obtain ⟨decoded, -, hname⟩ := Option.bind_eq_some_iff.mp hname
      split at h
      · obtain ⟨address, -, rfl⟩ := exists_of_map_eq_ok h
        exact oneLine_ipv4 address
      · cases h
        rw [Host.toText, String.toList_ofList]
        exact oneLine_domain hname

theorem oneLine_parseVerbatim {cs : List Char} {host : Host} (h : parseVerbatim cs = .ok host) :
    OneLine host.toText.toList := by
  unfold parseVerbatim at h
  split at h
  · exact oneLine_parseBracketed h
  · split at h
    · cases h
    · cases h
      rw [Host.toText, String.toList_ofList]
      exact oneLine_percentEncode _ _

/-! ### Parts of an address -/

/-- The characters of a scheme are small letters, digits and three signs. -/
theorem oneLine_scheme {cs rest : List Char} {scheme : String}
    (h : splitScheme? cs = some (scheme, rest)) : OneLine scheme.toList := by
  have hscheme : scheme = String.ofList ((cs.takeWhile isSchemeChar).map Char.toLower) := by
    unfold splitScheme? at h
    split at h
    · cases h
    · split at h
      · split at h
        · cases h
          rfl
        · cases h
      · cases h
  have hchars : OneLine (cs.takeWhile isSchemeChar) :=
    oneLine_of_all (List.all_eq_true.mp List.all_takeWhile) (by decide)
  rw [hscheme, String.toList_ofList]
  intro hmem
  obtain ⟨c, hc, hlower⟩ := List.mem_map.mp hmem
  exact toLower_ne_newline (fun hnewline => hchars (hnewline ▸ hc)) hlower

theorem oneLine_credentialsText (cs : List Char) : OneLine (credentialsText cs) := by
  unfold credentialsText
  dsimp only
  split
  · exact oneLine_nil
  · refine oneLine_append.mpr ⟨oneLine_append.mpr ⟨oneLine_percentEncode _ _, ?_⟩, by decide⟩
    split
    · exact oneLine_nil
    · exact oneLine_cons.mpr ⟨by decide, oneLine_percentEncode _ _⟩

/-- What stands between the slashes and the path does not break the line. -/
theorem oneLine_parseAuthority {scheme : String} {kind : SchemeKind} {cs : List Char}
    {authority : Authority} (h : parseAuthority scheme kind cs = .ok authority) :
    OneLine authority.credentials.toList ∧ OneLine authority.host.toText.toList := by
  have hpart : ∀ {user portText : List Char} {host : Host},
      OneLine host.toText.toList → (do
        let port ← parsePort scheme portText
        return (⟨String.ofList (credentialsText user), host, port⟩ : Authority)) = .ok authority →
      OneLine authority.credentials.toList ∧ OneLine authority.host.toText.toList := by
    intro user portText host hhost h
    obtain ⟨port, -, h⟩ := exists_of_bind_eq_ok h
    cases h
    refine ⟨?_, hhost⟩
    rw [String.toList_ofList]
    exact oneLine_credentialsText _
  unfold parseAuthority at h
  split at h
  split at h
  dsimp only at h
  split at h
  · cases h
  · split at h
    · obtain ⟨host, hhost, h⟩ := exists_of_bind_eq_ok h
      exact hpart (oneLine_parseVerbatim hhost) h
    · obtain ⟨host, hhost, h⟩ := exists_of_bind_eq_ok h
      exact hpart (oneLine_parseHost hhost) h

/-- Following segments brings no others in. -/
theorem oneLine_followSegments {done segments : List (List Char)}
    (hdone : ∀ segment ∈ done, OneLine segment) (h : ∀ segment ∈ segments, OneLine segment) :
    ∀ segment ∈ followSegments done segments, OneLine segment := by
  induction segments generalizing done with
  | nil => exact hdone
  | cons segment rest ih =>
    rw [List.forall_mem_cons] at h
    have hfinal : ∀ s ∈ (if rest.isEmpty then [[]] else [] : List (List Char)), OneLine s := by
      split <;> simp
    refine ih ?_ h.2
    split
    · exact List.forall_mem_append.mpr
        ⟨fun s hs => hdone s (List.dropLast_subset _ hs), hfinal⟩
    · split
      · exact List.forall_mem_append.mpr ⟨hdone, hfinal⟩
      · exact List.forall_mem_append.mpr ⟨hdone, List.forall_mem_singleton.mpr h.1⟩

/-- **The path of an address does not break the line.** -/
theorem oneLine_pathText (kind : SchemeKind) (cs : List Char) : OneLine (pathText kind cs) := by
  have hsegments : ∀ segments : List (List Char), ∀ segment ∈
      followSegments [] (segments.map (percentEncode pathSet)), OneLine segment := by
    intro segments
    refine oneLine_followSegments (List.forall_mem_nil _) fun segment hsegment => ?_
    obtain ⟨part, -, rfl⟩ := List.mem_map.mp hsegment
    exact oneLine_percentEncode _ _
  unfold pathText
  extract_lets
  split
  · exact oneLine_nil
  · exact oneLine_flatMap fun segment hsegment =>
      oneLine_cons.mpr ⟨by decide, hsegments _ segment hsegment⟩

/-- Nor do its query and its fragment. -/
theorem oneLine_splitTail (kind : SchemeKind) (cs : List Char) :
    (∀ query ∈ (splitTail kind cs).query, OneLine query.toList) ∧
      ∀ fragment ∈ (splitTail kind cs).fragment, OneLine fragment.toList := by
  constructor
  · intro query hquery
    unfold splitTail at hquery
    dsimp only at hquery
    split at hquery
    · cases hquery
    · cases hquery
      rw [String.toList_ofList]
      exact oneLine_percentEncode _ _
  · intro fragment hfragment
    unfold splitTail at hfragment
    dsimp only at hfragment
    split at hfragment
    · cases hfragment
    · cases hfragment
      rw [String.toList_ofList]
      exact oneLine_percentEncode _ _

/-! ### Whole addresses -/

/-- **Every part of an address does not break the line.** -/
structure Url.OneLine (u : Url) : Prop where
  scheme : Text.OneLine u.scheme.toList
  credentials : Text.OneLine u.credentials.toList
  host : ∀ host ∈ u.host, Text.OneLine host.toText.toList
  path : Text.OneLine u.path.toList
  query : ∀ query ∈ u.query, Text.OneLine query.toList
  fragment : ∀ fragment ∈ u.fragment, Text.OneLine fragment.toList

variable {url : Url}

theorem oneLine_parseWithHost {scheme : String} {kind : SchemeKind} {cs : List Char}
    (hscheme : OneLine scheme.toList) (h : parseWithHost scheme kind cs = .ok url) :
    url.OneLine := by
  obtain ⟨authority, hauthority, h⟩ := exists_of_bind_eq_ok h
  obtain ⟨hcredentials, hhost⟩ := oneLine_parseAuthority hauthority
  obtain ⟨hquery, hfragment⟩ :=
    oneLine_splitTail kind (cs.dropWhile fun c => !endsAuthority kind c)
  cases h
  refine ⟨hscheme, hcredentials, ?_, ?_, hquery, hfragment⟩
  · rintro _ ⟨⟩
    exact hhost
  · rw [String.toList_ofList]
    exact oneLine_pathText _ _

theorem oneLine_parseFile {scheme : String} {cs : List Char} (hscheme : OneLine scheme.toList)
    (h : parseFile scheme cs = .ok url) : url.OneLine := by
  have hrest : ∀ {host : Option Host} {tail : List Char},
      (∀ h ∈ host, OneLine h.toText.toList) →
      ({ scheme
         credentials := ""
         host := if host = some (.domain "localhost") then none else host
         port := none
         path := String.ofList (pathText .file (splitTail .file tail).path)
         query := (splitTail .file tail).query
         fragment := (splitTail .file tail).fragment } : Url).OneLine := by
    intro host tail hhost
    obtain ⟨hquery, hfragment⟩ := oneLine_splitTail .file tail
    refine ⟨hscheme, oneLine_nil, ?_, ?_, hquery, hfragment⟩
    · dsimp only
      split
      · nofun
      · exact hhost
    · rw [String.toList_ofList]
      exact oneLine_pathText _ _
  unfold parseFile at h
  extract_lets named after hostText at h
  split at h
  · cases h
    exact hrest nofun
  · obtain ⟨found, hfound, h⟩ := exists_of_bind_eq_ok h
    obtain ⟨host, hhost, rfl⟩ := exists_of_map_eq_ok hfound
    cases h
    refine hrest ?_
    rintro _ ⟨⟩
    exact oneLine_parseHost hhost

theorem oneLine_parseHostless {scheme : String} (hscheme : OneLine scheme.toList)
    (cs : List Char) : (parseHostless scheme cs).OneLine := by
  obtain ⟨hquery, hfragment⟩ := oneLine_splitTail .other cs
  refine ⟨hscheme, oneLine_nil, nofun, ?_, hquery, hfragment⟩
  rw [parseHostless, String.toList_ofList]
  split
  · exact oneLine_pathText _ _
  · exact oneLine_percentEncode _ _

theorem oneLine_parse {text : String} (h : Url.parse text = .ok url) : url.OneLine := by
  unfold Url.parse at h
  split at h
  · cases h
  · next scheme cs hsplit =>
    have hscheme := oneLine_scheme hsplit
    split at h
    · exact oneLine_parseWithHost hscheme h
    · exact oneLine_parseFile hscheme h
    · split at h
      · exact oneLine_parseWithHost hscheme h
      · cases h
        exact oneLine_parseHostless hscheme cs

/-- **The text of an address does not break the line.** -/
theorem oneLine_url {text : String} (h : Url.parse text = .ok url) :
    OneLine url.toText.toList := by
  obtain ⟨hscheme, hcredentials, hhost, hpath, hquery, hfragment⟩ := oneLine_parse h
  have hoption : ∀ {text : Option String} {sign : String}, OneLine sign.toList →
      (∀ t ∈ text, OneLine t.toList) → OneLine ((text.map (sign ++ ·)).getD "").toList := by
    intro text sign hsign htext
    cases text with
    | none => simp
    | some t => simp [hsign, htext t rfl]
  have hport : OneLine ((url.port.map fun p => ":" ++ decimal p.toNat).getD "").toList := by
    cases url.port <;> simp
  simp only [Url.toText, String.toList_append, oneLine_append]
  refine ⟨⟨⟨⟨⟨⟨hscheme, by decide⟩, ?_⟩, hport⟩, hpath⟩, hoption (by decide) hquery⟩,
    hoption (by decide) hfragment⟩
  split
  · split <;> simp
  · next host hurl => simp [hcredentials, hhost host hurl]

end EchoProbe.Net
