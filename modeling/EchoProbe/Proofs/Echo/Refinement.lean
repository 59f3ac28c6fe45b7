import EchoProbe.Proofs.Echo.Handles

/-!
# The registries refine maps

What a registry holds is said here by the history of the calls alone. A connection
is *left* by the calls if one of them entered it and none took it out again, and if
it counts the echoes that have been recorded in between (`Left`); only those calls
count that reach the registry, and these are the calls through the handles that
share (`Keeps`).

A call more changes what is left as it changes the entries (`left_concat_iff`,
`Holds.get?_effect_iff`), so after every history each registry holds what the calls
to it have left (`IsHistory.holds`). The induction is on the calls, at the end; it
needs that no number is entered twice, so that a registry has one entry for each.
All that the registries promise follows from this (`refinesMaps_calls`).
-/

namespace EchoProbe.Echo

/-! ## What the calls leave -/

/-- **A call has entered this connection**, and the calls after it have left it as it
is: none took it out, and it counts the echoes that were recorded. Only the calls
count that reach one registry. -/
structure Since (here : Call → Bool) (entry : Connection) (c : Call) (after : List Call) :
    Prop where
  /-- The call reaches the registry. -/
  reaches : here c
  /-- It entered the other end and the path. -/
  action : c.action = .register entry.peer entry.path
  /-- It gave the number. -/
  drawn : c.drawn = entry.id
  /-- The connection has not been taken out. -/
  kept (d : Call) (hd : d ∈ after) (hhere : here d) : d.action ≠ .remove entry.id
  /-- Each echo that was recorded is counted. -/
  counted : entry.framesEchoed
    = after.countP fun d => here d && d.action == .recordEcho entry.id

/-- **The connection is what some call has left.** -/
def Left (here : Call → Bool) (cs : List Call) (entry : Connection) : Prop :=
  Somewhere cs fun _ c after => Since here entry c after

variable {here here' : Call → Bool} {cs : List Call} {c : Call} {entry : Connection}

theorem Since.entered? {after : List Call} (h : Since here entry c after) :
    c.entered? = some entry.id := by
  rw [Call.entered?, h.action, ← h.drawn]

theorem Since.congr {after : List Call} (hc : here c = here' c)
    (hafter : ∀ d ∈ after, here d = here' d) (h : Since here entry c after) :
    Since here' entry c after where
  reaches := hc ▸ h.reaches
  action := h.action
  drawn := h.drawn
  kept d hd hhere := h.kept d hd (hafter d hd ▸ hhere)
  counted := by
    rw [h.counted]
    exact List.countP_congr fun d hd => by rw [hafter d hd]

theorem left_congr (h : ∀ c ∈ cs, here c = here' c) (entry : Connection) :
    Left here cs entry ↔ Left here' cs entry := by
  constructor
  all_goals
    rintro ⟨before, c, after, rfl, hsince⟩
    refine ⟨before, c, after, rfl, hsince.congr ?_ fun d hd => ?_⟩
    · simp [h]
    · simp [h, hd]

/-- A call more either is to be survived, and may be an echo to be counted. -/
theorem since_concat_iff {after : List Call} (d : Call) :
    Since here entry c (after ++ [d]) ↔
      (here d → d.action ≠ .remove entry.id) ∧
        ∃ n, entry.framesEchoed
            = n + (if here d && d.action == .recordEcho entry.id then 1 else 0) ∧
          Since here { entry with framesEchoed := n } c after := by
  constructor
  · intro h
    refine ⟨h.kept d (List.mem_append_right _ List.mem_cons_self),
      after.countP fun d => here d && d.action == .recordEcho entry.id, ?_, h.reaches, h.action,
      h.drawn, fun e he => h.kept e (List.mem_append_left _ he), rfl⟩
    rw [h.counted, List.countP_append, List.countP_singleton]
  · rintro ⟨hd, n, hn, h⟩
    refine ⟨h.reaches, h.action, h.drawn, fun e he hhere => ?_, ?_⟩
    · rcases List.mem_append.mp he with he | he
      · exact h.kept e he hhere
      · obtain rfl := List.mem_singleton.mp he
        exact hd hhere
    · rw [hn, List.countP_append, List.countP_singleton]
      exact congrArg (· + _) h.counted

/-- **What calls leave when one more is made.** -/
theorem left_concat_iff :
    Left here (cs ++ [c]) entry ↔
      ((here c → c.action ≠ .remove entry.id) ∧
        ∃ n, entry.framesEchoed
            = n + (if here c && c.action == .recordEcho entry.id then 1 else 0) ∧
          Left here cs { entry with framesEchoed := n }) ∨ Since here entry c [] := by
  rw [Left, somewhere_concat_iff]
  refine or_congr_left ⟨?_, ?_⟩
  · rintro ⟨before, b, after, rfl, hsince⟩
    obtain ⟨hc, n, hn, hsince⟩ := (since_concat_iff c).mp hsince
    exact ⟨hc, n, hn, before, b, after, rfl, hsince⟩
  · rintro ⟨hc, n, hn, before, b, after, rfl, hsince⟩
    exact ⟨before, b, after, rfl, (since_concat_iff c).mpr ⟨hc, n, hn, hsince⟩⟩

/-- Calls to other registries, about other numbers, and those that only ask leave the
connection as it is. -/
theorem left_concat_of_apart
    (h : here c = false ∨ c.about? ≠ some entry.id ∨ c.action = .get entry.id) :
    Left here (cs ++ [c]) entry ↔ Left here cs entry := by
  have hremove : here c → c.action ≠ .remove entry.id := by
    intro hc hremove
    rw [hc, Call.about?, hremove] at h
    simp at h
  have hecho : (here c && c.action == .recordEcho entry.id) = false := by
    rw [Bool.and_eq_false_iff]
    refine h.imp_right fun h => beq_eq_false_iff_ne.mpr fun hecho => ?_
    rw [Call.about?, hecho] at h
    simp at h
  have hsince : ¬ Since here entry c [] := by
    intro hsince
    rw [hsince.reaches, Call.about?, hsince.action, hsince.drawn] at h
    simp at h
  rw [left_concat_iff, or_iff_left hsince, and_iff_right hremove, hecho]
  constructor
  · rintro ⟨n, hn, hleft⟩
    rwa [← show entry.framesEchoed = n from hn] at hleft
  · exact fun hleft => ⟨_, rfl, hleft⟩

/-- A registry that enters a number for the first time enters it without echoes. -/
theorem left_concat_register {peer : Net.SocketAddress} {path : String} (hhere : here c)
    (haction : c.action = .register peer path) :
    Left here (cs ++ [c]) entry ↔ Left here cs entry ∨ ⟨c.drawn, peer, path, 0⟩ = entry := by
  rw [left_concat_iff, haction]
  refine or_congr ⟨?_, ?_⟩ ⟨?_, ?_⟩
  · rintro ⟨-, n, hn, hleft⟩
    rwa [← show entry.framesEchoed = n by simpa using hn] at hleft
  · exact fun hleft => ⟨fun _ => nofun, _, by simp, hleft⟩
  · intro hsince
    obtain ⟨id, peer', path', echoes⟩ := entry
    obtain ⟨rfl, rfl⟩ := Registry.Action.register.inj (haction.symm.trans hsince.action)
    obtain rfl := hsince.drawn
    have hzero : echoes = 0 := hsince.counted
    rw [hzero]
  · rintro rfl
    exact ⟨hhere, haction, rfl, nofun, rfl⟩

/-- What is taken out is not left. -/
theorem not_left_concat_remove (hhere : here c) (haction : c.action = .remove entry.id) :
    ¬ Left here (cs ++ [c]) entry := by
  rw [left_concat_iff]
  rintro (⟨hremove, -⟩ | hsince)
  · exact hremove hhere haction
  · exact nomatch haction.symm.trans hsince.action

/-- An echo more is counted. -/
theorem left_concat_recordEcho (hhere : here c) (haction : c.action = .recordEcho entry.id) :
    Left here (cs ++ [c]) entry ↔
      ∃ n, entry.framesEchoed = n + 1 ∧ Left here cs { entry with framesEchoed := n } := by
  have hsince : ¬ Since here entry c [] := fun hsince => nomatch haction.symm.trans hsince.action
  rw [left_concat_iff, or_iff_left hsince, haction, hhere]
  simp

/-! ## What the registries hold -/

theorem isHistory_concat_iff :
    IsHistory (cs ++ [c]) ↔ IsHistory cs ∧ c.handle < handleCount cs ∧
      ∀ id, c.entered? = some id → ∀ d ∈ cs, d.entered? ≠ some id := by
  constructor
  · intro h
    generalize hcs : cs ++ [c] = cs' at h
    cases h with
    | nil => exact absurd hcs (List.append_ne_nil_of_right_ne_nil cs (List.cons_ne_nil c []))
    | concat c' h hhandle hnew =>
      obtain ⟨rfl, hc⟩ := List.append_inj' hcs rfl
      obtain rfl := List.singleton_inj.mp hc
      exact ⟨h, hhandle, hnew⟩
  · exact fun ⟨h, hhandle, hnew⟩ => h.concat c hhandle hnew

theorem IsHistory.handle_lt (h : IsHistory cs) (hc : c ∈ cs) : c.handle < handleCount cs := by
  induction h with
  | nil => exact absurd hc List.not_mem_nil
  | concat d _ hhandle _ ih =>
    rw [handleCount_concat]
    refine Nat.lt_add_right _ ?_
    rcases List.mem_append.mp hc with hc | hc
    · exact ih hc
    · exact List.mem_singleton.mp hc ▸ hhandle

/-- A number that is entered now is of no connection so far. -/
theorem IsHistory.ne_of_left (h : IsHistory (cs ++ [c])) (hleft : Left here cs entry) :
    c.entered? ≠ some entry.id := by
  obtain ⟨before, d, after, rfl, hsince⟩ := hleft
  exact fun hid => (isHistory_concat_iff.mp h).2.2 _ hid d (by simp) hsince.entered?

/-- **Each registry holds what the calls to it have left**, under each number one
connection. -/
structure Holds (cs : List Call) (s : Registries) : Prop extends LaidOut cs s where
  /-- No number has two entries. -/
  distinct (k : Nat) : (s.store k).Distinct
  /-- The entries are what the calls to the registry have left. -/
  get?_iff (k : Nat) (id : ConnectionId) (entry : Connection) :
    (s.store k).get? id = some entry ↔
      entry.id = id ∧ Left (fun c => s.storeOf c.handle == k) cs entry

namespace Holds

variable {s : Registries}

theorem start : Holds [] .start where
  toLaidOut := .start
  distinct k := by
    rcases k with _ | k <;> exact Registry.distinct_empty
  get?_iff k id entry := by
    have hempty : Registries.start.store k = Registry.empty := by
      rcases k with _ | k <;> rfl
    rw [hempty, Registry.get?_empty]
    exact ⟨nofun, fun ⟨_, hleft⟩ => absurd hleft (not_somewhere_nil _)⟩

/-- One call keeps every number in one place. -/
theorem distinct_call (hs : Holds cs s) (h : IsHistory (cs ++ [c])) (k : Nat) :
    ((s.call c).1.store k).Distinct := by
  obtain ⟨-, hhandle, -⟩ := isHistory_concat_iff.mp h
  rw [Registries.store_call (hs.lt _ hhandle)]
  split
  · obtain ⟨handle, action, drawn⟩ := c
    cases action with
    | register peer path =>
      refine (hs.distinct k).register ?_ peer path
      refine Option.eq_none_iff_forall_ne_some.mpr fun entry hentry => ?_
      obtain ⟨hid, hleft⟩ := (hs.get?_iff k drawn entry).mp hentry
      exact h.ne_of_left hleft (congrArg some hid.symm)
    | remove id => exact (hs.distinct k).remove id
    | recordEcho id => exact (hs.distinct k).recordEcho id
    | _ => exact hs.distinct k
  · exact hs.distinct k

/-- One call leaves in its registry what the calls so far leave. -/
theorem get?_effect_iff (hs : Holds cs s) (h : IsHistory (cs ++ [c])) (id : ConnectionId)
    (entry : Connection) :
    (c.effect (s.store (s.storeOf c.handle))).get? id = some entry ↔
      entry.id = id ∧
        Left (fun d => s.storeOf d.handle == s.storeOf c.handle) (cs ++ [c]) entry := by
  have hhere : (s.storeOf c.handle == s.storeOf c.handle) = true := beq_self_eq_true _
  rw [Call.get?_effect]
  split
  · next habout =>
    rw [Call.about?] at habout
    rw [Call.revise]
    cases haction : c.action with
    | register peer path =>
      rw [haction] at habout
      obtain rfl : c.drawn = id := Option.some.inj habout
      have hnew : (s.store (s.storeOf c.handle)).get? c.drawn = none := by
        refine Option.eq_none_iff_forall_ne_some.mpr fun entry hentry => ?_
        obtain ⟨hid, hleft⟩ := (hs.get?_iff _ c.drawn entry).mp hentry
        exact h.ne_of_left hleft (by rw [Call.entered?, haction, hid])
      rw [left_concat_register hhere haction, hnew]
      show some (Connection.mk c.drawn peer path 0) = some entry ↔ _
      rw [Option.some.injEq]
      constructor
      · rintro rfl
        exact ⟨rfl, .inr rfl⟩
      · rintro ⟨hid, hleft | hentry⟩
        · exact absurd (by rw [Call.entered?, haction, hid]) (h.ne_of_left hleft)
        · exact hentry
    | remove gone =>
      rw [haction] at habout
      obtain rfl : gone = id := Option.some.inj habout
      refine ⟨nofun, fun ⟨hid, hleft⟩ => absurd hleft (not_left_concat_remove hhere ?_)⟩
      rw [haction, hid]
    | recordEcho counted =>
      rw [haction] at habout
      obtain rfl : counted = id := Option.some.inj habout
      show Option.map _ _ = some entry ↔ _
      rw [Option.map_eq_some_iff]
      constructor
      · rintro ⟨earlier, hearlier, rfl⟩
        obtain ⟨hid, hleft⟩ := (hs.get?_iff _ counted earlier).mp hearlier
        exact ⟨hid, (left_concat_recordEcho hhere (by rw [haction, hid])).mpr ⟨_, rfl, hleft⟩⟩
      · rintro ⟨hid, hleft⟩
        obtain ⟨n, hn, hleft⟩ := (left_concat_recordEcho hhere (by rw [haction, hid])).mp hleft
        refine ⟨_, (hs.get?_iff _ counted { entry with framesEchoed := n }).mpr ⟨hid, hleft⟩, ?_⟩
        rw [← hn]
    | get asked =>
      rw [haction] at habout
      obtain rfl : asked = id := Option.some.inj habout
      rw [hs.get?_iff]
      refine and_congr_right fun hid => (left_concat_of_apart (.inr (.inr ?_))).symm
      rw [haction, hid]
    | _ =>
      rw [haction] at habout
      exact nomatch habout
  · next habout =>
    rw [hs.get?_iff]
    refine and_congr_right fun hid => (left_concat_of_apart (.inr (.inl ?_))).symm
    exact hid ▸ habout

theorem call (hs : Holds cs s) (h : IsHistory (cs ++ [c])) : Holds (cs ++ [c]) (s.call c).1 := by
  obtain ⟨hcs, hhandle, -⟩ := isHistory_concat_iff.mp h
  refine ⟨hs.toLaidOut.call hhandle, hs.distinct_call h, fun k id entry => ?_⟩
  -- no handle has changed its registry
  have hhere : ∀ d ∈ cs ++ [c],
      ((s.call c).1.storeOf d.handle == k) = (s.storeOf d.handle == k) := by
    intro d hd
    rw [hs.storeOf_call]
    rcases List.mem_append.mp hd with hd | hd
    · exact hcs.handle_lt hd
    · exact List.mem_singleton.mp hd ▸ hhandle
  rw [left_congr hhere, Registries.store_call (hs.lt _ hhandle)]
  rcases Decidable.em (s.storeOf c.handle = k) with rfl | hk
  · rw [if_pos rfl]
    exact hs.get?_effect_iff h id entry
  · rw [if_neg hk, hs.get?_iff]
    refine and_congr_right fun _ => (left_concat_of_apart (.inl ?_)).symm
    exact beq_eq_false_iff_ne.mpr hk

end Holds

/-- **After every history each registry holds what its calls have left.** -/
theorem IsHistory.holds (h : IsHistory cs) : Holds cs (Registries.start.calls cs) := by
  induction h with
  | nil => exact .start
  | concat c h hhandle hnew ih =>
    rw [Registries.calls_concat]
    exact ih.call (h.concat c hhandle hnew)

/-! ## The registries as maps -/

open Classical in
/-- **The registry of a handle keeps this connection**: it is what the calls have left
that were made through this handle, or through one with which it shares. -/
def Keeps (cs : List Call) (h : Nat) (entry : Connection) : Prop :=
  Left (fun c => decide (Shares cs c.handle h)) cs entry

/-- **This is the entry of a number**, if there is one. -/
def IsEntry (cs : List Call) (h : Nat) (id : ConnectionId) (found : Option Connection) : Prop :=
  ∀ entry, found = some entry ↔ entry.id = id ∧ Keeps cs h entry

/-- **Nothing tells two states apart**, but for the order of a listing. -/
structure Alike (s t : Registries) : Prop where
  /-- The handles are of the same registries. -/
  handles : s.handles = t.handles
  /-- The registries have the same connections. -/
  snapshot (h : Nat) : (s.registry h).snapshot.Perm (t.registry h).snapshot

/-- **The registries are maps**, from the numbers of the connections to what the calls
have left of them. -/
structure RefinesMaps (cs : List Call) (s : Registries) : Prop where
  /-- Handles that share are one. -/
  shared (g h : Nat) (hshares : Shares cs g h) (action : Registry.Action) (drawn : ConnectionId) :
    s.call ⟨g, action, drawn⟩ = s.call ⟨h, action, drawn⟩
  /-- What is done through a handle is not seen through one with which it does not share. -/
  apart (c : Call) (hc : c.handle < handleCount cs) (h : Nat) (hh : h < handleCount cs)
    (hshares : ¬ Shares cs c.handle h) : (s.call c).1.registry h = s.registry h
  /-- A new handle is given the next number. -/
  made (c : Call) (hc : c.makesHandle) : (s.call c).2 = .handle (handleCount cs)
  /-- A connection is entered under the number that was drawn. -/
  register (c : Call) (id : ConnectionId) (hc : c.entered? = some id) :
    (s.call c).2 = .registered id
  /-- To look a number up is to be given its entry. -/
  get (h : Nat) (hh : h < handleCount cs) (id drawn : ConnectionId) :
    ∃ found, s.call ⟨h, .get id, drawn⟩ = (s, .connection found) ∧ IsEntry cs h id found
  /-- To take a number out is to be given its entry, and what has no entry is not taken
  out of anything. -/
  remove (h : Nat) (hh : h < handleCount cs) (id drawn : ConnectionId) :
    ∃ found, (s.call ⟨h, .remove id, drawn⟩).2 = .connection found ∧ IsEntry cs h id found ∧
      (found = none → (s.call ⟨h, .remove id, drawn⟩).1 = s)
  /-- What has been taken out does not come back. -/
  removed (h : Nat) (id : ConnectionId)
    (hremoved : Somewhere cs fun _ c after => Shares cs c.handle h ∧ c.entered? = some id ∧
      ∃ d ∈ after, Shares cs d.handle h ∧ d.action = .remove id) :
    IsEntry cs h id none
  /-- An echo of a number without an entry is not counted anywhere. -/
  recordEcho (h : Nat) (hh : h < handleCount cs) (id drawn : ConnectionId)
    (hnone : IsEntry cs h id none) : s.call ⟨h, .recordEcho id, drawn⟩ = (s, .done)
  /-- A listing has every entry once. -/
  snapshot (h : Nat) (hh : h < handleCount cs) (drawn : ConnectionId) :
    ∃ all, s.call ⟨h, .snapshot, drawn⟩ = (s, .connections all) ∧ (all.map Connection.id).Nodup ∧
      (∀ entry, entry ∈ all ↔ Keeps cs h entry) ∧ (s.registry h).size = all.length ∧
      ((s.registry h).isEmpty ↔ all = [])
  /-- Two calls about different numbers can be made in either order. -/
  commute (c d : Call) (h : IsHistory (cs ++ [c] ++ [d])) (i j : ConnectionId)
    (hc : c.about? = some i) (hd : d.about? = some j) (hne : i ≠ j) :
    ((s.call c).1.call d).2 = (s.call d).2 ∧ IsHistory (cs ++ [d] ++ [c]) ∧
      Alike ((s.call c).1.call d).1 ((s.call d).1.call c).1

variable {s : Registries} {h : Nat}

/-- What has been taken out is not left, and never again. -/
theorem not_left_of_removed (hcs : IsHistory cs)
    (hremoved : Somewhere cs fun _ c after => c.entered? = some entry.id ∧
      ∃ d ∈ after, here d ∧ d.action = .remove entry.id) : ¬ Left here cs entry := by
  induction hcs generalizing entry with
  | nil => exact absurd hremoved (not_somewhere_nil _)
  | @concat cs c hcs hhandle hnew ih =>
    rw [somewhere_concat_iff] at hremoved
    obtain ⟨before, b, after, hsplit, hb, d, hd, hd_here, hd_remove⟩ | ⟨-, d, hd, -⟩ := hremoved
    · have hb_mem : b ∈ cs := hsplit ▸ List.mem_append_right before List.mem_cons_self
      rw [left_concat_iff]
      rintro (⟨hremove, n, -, hleft⟩ | hsince)
      · rcases List.mem_append.mp hd with hd | hd
        · exact @ih { entry with framesEchoed := n }
            ⟨before, b, after, hsplit, hb, d, hd, hd_here, hd_remove⟩ hleft
        · obtain rfl := List.mem_singleton.mp hd
          exact hremove hd_here hd_remove
      · exact hnew _ hsince.entered? b hb_mem hb
    · exact absurd hd List.not_mem_nil

namespace Registries

/-- A handle is as good as another to the same registry. -/
theorem step_congr {g : Nat} (heq : s.storeOf g = s.storeOf h) (action : Registry.Action) :
    s.step g action = s.step h action := by
  cases action <;> simp only [step, update, registry, heq]

/-- A change that changes nothing. -/
theorem update_eq_self {f : Registry → Registry} (hf : f (s.registry h) = s.registry h) :
    s.update h f = s := by
  obtain ⟨nextId, stores, handles⟩ := s
  refine congrArg (Registries.mk nextId · handles) (List.ext_getElem? fun k => ?_)
  rw [List.getElem?_modify]
  split
  · next hk =>
    subst hk
    rw [registry, List.getD_eq_getElem?_getD] at hf
    cases hget : stores[storeOf ⟨nextId, stores, handles⟩ h]? with
    | none => rfl
    | some r =>
      simp only [hget, Option.getD_some] at hf
      exact congrArg some hf
  · exact Option.map_id'

end Registries

namespace Holds

theorem get?_registry_iff (hs : Holds cs s) (hcs : IsHistory cs) (hh : h < handleCount cs)
    (id : ConnectionId) (entry : Connection) :
    (s.registry h).get? id = some entry ↔ entry.id = id ∧ Keeps cs h entry := by
  classical
  refine (hs.get?_iff (s.storeOf h) id entry).trans (and_congr_right fun _ => ?_)
  refine left_congr (fun c hc => ?_) entry
  rw [Bool.eq_iff_iff, beq_iff_eq, decide_eq_true_iff]
  exact hs.storeOf_eq_iff (hcs.handle_lt hc) hh

/-- What is found is the entry. -/
theorem isEntry (hs : Holds cs s) (hcs : IsHistory cs) (hh : h < handleCount cs)
    (id : ConnectionId) : IsEntry cs h id ((s.registry h).get? id) :=
  hs.get?_registry_iff hcs hh id

/-- The entries are what the calls have left. -/
theorem mem_entries_iff (hs : Holds cs s) (hcs : IsHistory cs) (hh : h < handleCount cs)
    (entry : Connection) : entry ∈ (s.registry h).entries ↔ Keeps cs h entry := by
  have hmem := (hs.distinct (s.storeOf h)).get?_eq_some_iff entry.id entry
  rw [and_iff_left rfl] at hmem
  rw [← (hs.get?_registry_iff hcs hh entry.id entry).trans (and_iff_right rfl)]
  exact hmem.symm

end Holds

/-! ## Calls in either order -/

theorem Call.makesHandle_of_about? {i : ConnectionId} (h : c.about? = some i) :
    c.makesHandle = false := by
  obtain ⟨handle, action, drawn⟩ := c
  cases action with
  | clone => nomatch h
  | create => nomatch h
  | _ => rfl

theorem Call.about?_of_entered? {id : ConnectionId} (h : c.entered? = some id) :
    c.about? = some id := by
  obtain ⟨handle, action, drawn⟩ := c
  cases action with
  | register peer path => exact h
  | _ => nomatch h

variable {d : Call} {i j : ConnectionId}

/-- Calls about different numbers are a history in either order. -/
theorem IsHistory.swap (h : IsHistory (cs ++ [c] ++ [d])) (hc : c.about? = some i)
    (hd : d.about? = some j) (hne : i ≠ j) : IsHistory (cs ++ [d] ++ [c]) := by
  obtain ⟨hcs, hd_handle, hd_new⟩ := isHistory_concat_iff.mp h
  obtain ⟨hcs, hc_handle, hc_new⟩ := isHistory_concat_iff.mp hcs
  rw [handleCount_concat, Call.makesHandle_of_about? hc] at hd_handle
  refine (hcs.concat d hd_handle fun id hid e he => ?_).concat c ?_ fun id hid e he => ?_
  · exact hd_new id hid e (List.mem_append_left _ he)
  · rw [handleCount_concat, Call.makesHandle_of_about? hd]
    exact hc_handle
  · rcases List.mem_append.mp he with he | he
    · exact hc_new id hid e he
    · obtain rfl := List.mem_singleton.mp he
      intro hid'
      have hi : i = id := Option.some.inj (hc.symm.trans (Call.about?_of_entered? hid))
      have hj : j = id := Option.some.inj (hd.symm.trans (Call.about?_of_entered? hid'))
      exact hne (hi.trans hj.symm)

/-- Revising two entries. -/
theorem Call.get?_effect_comm (hc : c.about? = some i) (hd : d.about? = some j) (hne : i ≠ j)
    (r : Registry) (id : ConnectionId) :
    (d.effect (c.effect r)).get? id = (c.effect (d.effect r)).get? id := by
  simp only [Call.get?_effect, hc, hd, Option.some.injEq]
  rcases Decidable.em (i = id) with rfl | hi
  · simp only [if_neg hne.symm, if_pos]
  · simp only [if_neg hi]

namespace Holds

theorem get?_call_comm (hs : Holds cs s) (h : IsHistory (cs ++ [c] ++ [d]))
    (hc : c.about? = some i) (hd : d.about? = some j) (hne : i ≠ j) (k : Nat)
    (id : ConnectionId) :
    (((s.call c).1.call d).1.store k).get? id = (((s.call d).1.call c).1.store k).get? id := by
  have hswap := h.swap hc hd hne
  have hsc := hs.call (isHistory_concat_iff.mp h).1
  have hsd := hs.call (isHistory_concat_iff.mp hswap).1
  have hc_handle := (isHistory_concat_iff.mp (isHistory_concat_iff.mp h).1).2.1
  have hd_handle := (isHistory_concat_iff.mp (isHistory_concat_iff.mp hswap).1).2.1
  rw [Registries.store_call (hsc.lt _ (isHistory_concat_iff.mp h).2.1),
    Registries.store_call (hsd.lt _ (isHistory_concat_iff.mp hswap).2.1),
    Registries.store_call (hs.lt _ hc_handle), Registries.store_call (hs.lt _ hd_handle),
    hs.storeOf_call hc_handle, hs.storeOf_call hd_handle]
  by_cases hck : s.storeOf c.handle = k
  all_goals by_cases hdk : s.storeOf d.handle = k
  · simp only [if_pos hck, if_pos hdk]
    exact Call.get?_effect_comm hc hd hne _ id
  · simp only [if_pos hck, if_neg hdk]
  · simp only [if_neg hck, if_pos hdk]
  · simp only [if_neg hck, if_neg hdk]

/-- A registry is known by its entries. -/
theorem perm_of_get?_eq {cs' : List Call} {t : Registries} (hs : Holds cs s) (ht : Holds cs' t)
    (k : Nat) (h : ∀ id, (s.store k).get? id = (t.store k).get? id) :
    (s.store k).entries.Perm (t.store k).entries := by
  have hnodup : ∀ r : Registry, r.Distinct → r.entries.Nodup := fun r hr => List.Nodup.of_map _ hr
  refine (List.perm_ext_iff_of_nodup (hnodup _ (hs.distinct k)) (hnodup _ (ht.distinct k))).mpr ?_
  intro entry
  have hs_mem := (hs.distinct k).get?_eq_some_iff entry.id entry
  have ht_mem := (ht.distinct k).get?_eq_some_iff entry.id entry
  rw [and_iff_left rfl] at hs_mem ht_mem
  rw [← hs_mem, h, ht_mem]

theorem alike (hs : Holds cs s) (h : IsHistory (cs ++ [c] ++ [d])) (hc : c.about? = some i)
    (hd : d.about? = some j) (hne : i ≠ j) :
    Alike ((s.call c).1.call d).1 ((s.call d).1.call c).1 := by
  have hhandles : ∀ t : Registries, ∀ {e : Call} {id : ConnectionId}, e.about? = some id →
      (t.call e).1.handles = t.handles := by
    rintro t ⟨handle, action, drawn⟩ id he
    cases action with
    | clone => nomatch he
    | create => nomatch he
    | _ => rfl
  have heq : ((s.call c).1.call d).1.handles = ((s.call d).1.call c).1.handles := by
    rw [hhandles _ hc, hhandles _ hd, hhandles _ hd, hhandles _ hc]
  refine ⟨heq, fun h' => ?_⟩
  have hswap := h.swap hc hd hne
  have hscd := (hs.call (isHistory_concat_iff.mp h).1).call h
  have hsdc := (hs.call (isHistory_concat_iff.mp hswap).1).call hswap
  have hstore : ((s.call d).1.call c).1.registry h'
      = ((s.call d).1.call c).1.store (((s.call c).1.call d).1.storeOf h') := by
    rw [Registries.storeOf, heq]
    rfl
  rw [hstore]
  exact hscd.perm_of_get?_eq hsdc _ (hs.get?_call_comm h hc hd hne _)

/-- What a call answers depends on its number only. -/
theorem answer_call (hs : Holds cs s) (h : IsHistory (cs ++ [c] ++ [d])) (hc : c.about? = some i)
    (hd : d.about? = some j) (hne : i ≠ j) : ((s.call c).1.call d).2 = (s.call d).2 := by
  have hd_handle := (isHistory_concat_iff.mp (isHistory_concat_iff.mp (h.swap hc hd hne)).1).2.1
  have hc_handle := (isHistory_concat_iff.mp (isHistory_concat_iff.mp h).1).2.1
  have hget : ((s.call c).1.registry d.handle).get? j = (s.registry d.handle).get? j := by
    show ((s.call c).1.store ((s.call c).1.storeOf d.handle)).get? j = _
    rw [hs.storeOf_call hd_handle, Registries.store_call (hs.lt _ hc_handle)]
    split
    · rw [Call.get?_effect, if_neg (by rwa [hc, Option.some.injEq])]
      rfl
    · rfl
  obtain ⟨handle, action, drawn⟩ := d
  cases action with
  | remove id =>
    obtain rfl : id = j := Option.some.inj hd
    exact congrArg Registry.Answer.connection hget
  | get id =>
    obtain rfl : id = j := Option.some.inj hd
    exact congrArg Registry.Answer.connection hget
  | register peer path => rfl
  | recordEcho id => rfl
  | _ => nomatch hd

end Holds

/-! ## The main result -/

/-- **After every history the registries are maps**, from the numbers of the connections
to what the calls have left of them. -/
theorem refinesMaps_calls (hcs : IsHistory cs) : RefinesMaps cs (Registries.start.calls cs) := by
  generalize hcalls : Registries.start.calls cs = s
  have hs : Holds cs s := hcalls ▸ hcs.holds
  constructor
  case shared =>
    intro g h hshares action drawn
    have heq : ({ s with nextId := drawn } : Registries).storeOf g
        = ({ s with nextId := drawn } : Registries).storeOf h := hs.storeOf_eq hshares
    rw [Registries.call, Registries.step_congr heq]
    rfl
  case apart =>
    intro c hc h hh hshares
    show (s.call c).1.store ((s.call c).1.storeOf h) = s.store (s.storeOf h)
    rw [hs.storeOf_call hh, Registries.store_call (hs.lt _ hc), if_neg]
    exact fun heq => hshares (hs.shares _ _ hc hh heq)
  case made =>
    intro c hc
    obtain ⟨handle, action, drawn⟩ := c
    rw [← hs.length]
    cases action with
    | clone => rfl
    | create => rfl
    | _ => nomatch hc
  case register =>
    intro c id hc
    obtain ⟨handle, action, drawn⟩ := c
    cases action with
    | register peer path =>
      obtain rfl := Option.some.inj hc
      rfl
    | _ => nomatch hc
  case get => exact fun h hh id drawn => ⟨_, rfl, hs.isEntry hcs hh id⟩
  case remove =>
    intro h hh id drawn
    refine ⟨_, rfl, hs.isEntry hcs hh id, fun hnone => ?_⟩
    exact Registries.update_eq_self (Registry.remove_of_get?_eq_none hnone)
  case removed =>
    rintro h id ⟨before, c, after, hsplit, -, hid, d, hd, hshares, hremove⟩
    refine fun entry => ⟨nofun, ?_⟩
    rintro ⟨rfl, hkeeps⟩
    classical
    exact absurd hkeeps (not_left_of_removed hcs
      ⟨before, c, after, hsplit, hid, d, hd, decide_eq_true hshares, hremove⟩)
  case recordEcho =>
    intro h hh id drawn hnone
    have hget : (s.registry h).get? id = none :=
      Option.eq_none_iff_forall_ne_some.mpr fun entry hentry =>
        nomatch (hnone entry).mpr ((hs.isEntry hcs hh id entry).mp hentry)
    exact congrArg (·, Registry.Answer.done)
      (Registries.update_eq_self (Registry.recordEcho_of_get?_eq_none hget))
  case snapshot =>
    intro h hh drawn
    exact ⟨_, rfl, hs.distinct _, hs.mem_entries_iff hcs hh, rfl, List.isEmpty_iff⟩
  case commute =>
    exact fun c d h i j hc hd hne =>
      ⟨hs.answer_call h hc hd hne, h.swap hc hd hne, hs.alike h hc hd hne⟩

/-- A copy and a registry apart: the connection is entered through the copy and counted
through the original, and it is not taken out through the other registry. -/
theorem refinesMaps_calls_copy :
    let peer : Net.SocketAddress := .v4 .loopback 50000
    let cs : List Call := [⟨0, .clone, 0⟩, ⟨0, .create, 0⟩, ⟨1, .register peer "/ws", 7⟩,
      ⟨0, .recordEcho 7, 0⟩, ⟨2, .remove 7, 0⟩]
    IsHistory cs ∧ RefinesMaps cs (Registries.start.calls cs) := by
  intro peer cs
  have hcs : IsHistory cs := by
    refine ((((IsHistory.nil.concat ⟨0, .clone, 0⟩ ?_ nofun).concat ⟨0, .create, 0⟩ ?_ nofun).concat
      ⟨1, .register peer "/ws", 7⟩ ?_ ?_).concat ⟨0, .recordEcho 7, 0⟩ ?_ nofun).concat
      ⟨2, .remove 7, 0⟩ ?_ nofun
    case refine_4 =>
      intro id _ d hd
      rcases List.mem_cons.mp hd with rfl | hd
      · nofun
      · obtain rfl := List.mem_singleton.mp hd
        nofun
    all_goals decide
  exact ⟨hcs, refinesMaps_calls hcs⟩

end EchoProbe.Echo
