import EchoProbe.Proofs.Echo.Moves

/-!
# The registry and the conversations

What the registry has to give for the number of a client is known
(`Server.Sound`). Here it is said what the registry *is*: since no number has
two entries, the entries are exactly those of the clients with which a
conversation is held, one for each (`tracked_steps`). So their number is the
number of these clients. No counter of an entry exceeds the number of steps
that the server has taken (`within_steps`).
-/

namespace EchoProbe.Echo

/-- Whether a conversation is held: it has begun, and the client has not been
taken out of the registry. -/
def Progress.isConversing : Progress → Bool
  | .served _ => true
  | _ => false

namespace Server

variable {s : Server}

/-- **Each move keeps one entry for each number.** A client is entered when it
has none. -/
theorem distinct_step (hsound : s.Sound) (h : s.registry.Distinct) (action : Action) :
    (s.step action).registry.Distinct := by
  have hmoves := moves_step s action
  generalize s.step action = s' at hmoves ⊢
  cases hmoves with
  | @upgrade id client hclient hanswered now =>
    have htracks := hsound.tracks id client hclient
    rw [hanswered] at htracks
    have hnew : s.registry.get? id = none := by
      generalize s.registry.get? id = entry at htracks ⊢
      cases htracks
      rfl
    exact h.register hnew client.peer client.path
  | converse =>
    unfold Server.converse
    dsimp only
    split
    · exact h.recordEcho _
    · exact h
  | remove => exact h.remove _
  | _ => exact h

theorem distinct_steps (hsound : s.Sound) (h : s.registry.Distinct) (actions : List Action) :
    (s.steps actions).registry.Distinct := by
  induction actions generalizing s with
  | nil => exact h
  | cons action actions ih => exact ih (hsound.step action) (distinct_step hsound h action)

/-! ### The bound of the counters -/

/-- **Each move counts one echo at most.** -/
theorem within_step {n : Nat} (h : s.registry.Within n) (action : Action) :
    (s.step action).registry.Within (n + 1) := by
  have hmore : s.registry.Within (n + 1) := h.mono (Nat.le_succ n)
  have hmoves := moves_step s action
  generalize s.step action = s' at hmoves ⊢
  cases hmoves with
  | upgrade => exact hmore.register _ _ _
  | converse =>
    unfold Server.converse
    dsimp only
    split
    · exact h.recordEcho _
    · exact hmore
  | remove => exact hmore.remove _
  | _ => exact hmore

/-- **A counter does not exceed the number of steps.** -/
theorem within_steps (settings : Settings.Server) (address : Net.SocketAddress)
    (actions : List Action) :
    ((listening settings address).steps actions).registry.Within actions.length := by
  induction actions using List.reverseRecOn with
  | nil => exact List.forall_mem_nil _
  | append_singleton actions action ih =>
    rw [steps_concat, List.length_append]
    exact within_step ih action

/-! ### The entries and the clients -/

/-- **The registry is exact.** -/
structure Tracked (s : Server) : Prop where
  /-- No number has two entries. -/
  distinct : s.registry.Distinct
  /-- There is an entry for each client with which a conversation is held and
  for nobody else. It tells who the client is and counts the echoes, with the
  exception of one that has been sent just now. -/
  mem_entries_iff : ∀ entry, entry ∈ s.registry.entries ↔
    ∃ client c, s.clients[entry.id]? = some client ∧ client.progress = .served c ∧
      entry.peer = client.peer ∧ entry.path = client.path ∧
      entry.framesEchoed + c.stage.uncounted = c.echoes
  /-- So this is how many such clients there are. -/
  active : s.activeConnections = s.clients.countP (·.progress.isConversing)

/-- The entry of a client with which a conversation is held. -/
theorem Sound.exists_entry (hsound : s.Sound) {id : ConnectionId} {client : Client}
    (hclient : s.clients[id]? = some client) {c : Conversation}
    (hserved : client.progress = .served c) :
    ∃ n, s.registry.get? id = some ⟨id, client.peer, client.path, n⟩ ∧
      n + c.stage.uncounted = c.echoes := by
  have htracks := hsound.tracks id client hclient
  rw [hserved] at htracks
  generalize s.registry.get? id = entry at htracks ⊢
  cases htracks with
  | served _ hcount => exact ⟨_, rfl, hcount⟩

/-- Nobody else has one. -/
theorem Sound.exists_client (hsound : s.Sound) {id : ConnectionId} {entry : Connection}
    (hentry : s.registry.get? id = some entry) :
    ∃ client c, s.clients[id]? = some client ∧ client.progress = .served c := by
  have hlt : id < s.clients.length := by
    by_contra hge
    exact absurd (hentry.symm.trans (hsound.fresh id (Nat.le_of_not_lt hge))) nofun
  have hclient := List.getElem?_eq_getElem hlt
  have htracks := hsound.tracks _ _ hclient
  rw [hentry] at htracks
  generalize s.clients[id] = client at hclient htracks
  obtain ⟨peer, path, progress⟩ := client
  dsimp only at htracks
  cases htracks with
  | served => exact ⟨_, _, hclient, rfl⟩

namespace Tracked

/-! ### Numbers of clients -/

/-- The numbers of the clients of a kind. -/
def numbers (kind : Client → Bool) (clients : List Client) : List ConnectionId :=
  (clients.zipIdx.filter fun client => kind client.1).map Prod.snd

variable {kind : Client → Bool} {clients : List Client}

theorem mem_numbers_iff {id : ConnectionId} :
    id ∈ numbers kind clients ↔ ∃ client, clients[id]? = some client ∧ kind client = true := by
  rw [numbers, List.mem_map]
  constructor
  · rintro ⟨⟨client, id⟩, hchosen, rfl⟩
    obtain ⟨hclient, hkind⟩ := List.mem_filter.mp hchosen
    exact ⟨client, List.mem_zipIdx_iff_getElem?.mp hclient, hkind⟩
  · rintro ⟨client, hclient, hkind⟩
    exact ⟨(client, id),
      List.mem_filter.mpr ⟨List.mem_zipIdx_iff_getElem?.mpr hclient, hkind⟩, rfl⟩

theorem nodup_numbers : (numbers kind clients).Nodup := by
  have hall : (clients.zipIdx.map Prod.snd).Nodup := by
    rw [List.zipIdx_map_snd]
    exact List.nodup_range'
  exact (List.filter_sublist.map Prod.snd).nodup hall

theorem length_numbers : (numbers kind clients).length = clients.countP kind := by
  calc (numbers kind clients).length
      = (clients.zipIdx.map Prod.fst).countP kind := by
        rw [numbers, List.length_map, List.countP_map, List.countP_eq_length_filter]
        rfl
    _ = clients.countP kind := by rw [List.zipIdx_map_fst]

/-! ### The entries -/

/-- **The entries are those of the clients with which a conversation is held.** -/
theorem of_sound (hsound : s.Sound) (hdistinct : s.registry.Distinct) : s.Tracked := by
  refine ⟨hdistinct, fun entry => ⟨fun hentry => ?_, ?_⟩, ?_⟩
  · have hget := (hdistinct.get?_eq_some_iff entry.id entry).mpr ⟨hentry, rfl⟩
    obtain ⟨client, c, hclient, hserved⟩ := hsound.exists_client hget
    obtain ⟨n, hfound, hcount⟩ := hsound.exists_entry hclient hserved
    rw [hget, Option.some.injEq] at hfound
    refine ⟨client, c, hclient, hserved, ?_⟩
    rw [hfound]
    exact ⟨rfl, rfl, hcount⟩
  · rintro ⟨client, c, hclient, hserved, hpeer, hpath, hcount⟩
    obtain ⟨n, hfound, hcounted⟩ := hsound.exists_entry hclient hserved
    have hentry : entry = ⟨entry.id, client.peer, client.path, n⟩ := by
      obtain ⟨id, peer, path, framesEchoed⟩ := entry
      rw [← hpeer, ← hpath, Nat.add_right_cancel (hcounted.trans hcount.symm)]
    rw [← hentry] at hfound
    exact ((hdistinct.get?_eq_some_iff entry.id entry).mp hfound).1
  · -- the numbers of the entries are those of the clients, each once
    have hids : ∀ id, id ∈ s.registry.entries.map Connection.id
        ↔ id ∈ numbers (·.progress.isConversing) s.clients := by
      intro id
      rw [List.mem_map, mem_numbers_iff]
      constructor
      · rintro ⟨entry, hentry, hid⟩
        have hget := (hdistinct.get?_eq_some_iff id entry).mpr ⟨hentry, hid⟩
        obtain ⟨client, c, hclient, hserved⟩ := hsound.exists_client hget
        exact ⟨client, hclient, by rw [hserved]; rfl⟩
      · rintro ⟨client, hclient, hconversing⟩
        cases hprogress : client.progress with
        | served c =>
          obtain ⟨n, hfound, -⟩ := hsound.exists_entry hclient hprogress
          exact ⟨_, (hdistinct.get?_eq_some_iff id _).mp hfound⟩
        | _ =>
          rw [hprogress] at hconversing
          exact absurd hconversing nofun
    calc s.registry.entries.length
        = (s.registry.entries.map Connection.id).length := (List.length_map _).symm
      _ = (numbers (·.progress.isConversing) s.clients).length :=
        ((List.perm_ext_iff_of_nodup hdistinct nodup_numbers).mpr hids).length_eq
      _ = s.clients.countP (·.progress.isConversing) := length_numbers

end Tracked

/-- **The registry is exact** after any steps. -/
theorem tracked_steps (settings : Settings.Server) (address : Net.SocketAddress)
    (actions : List Action) : ((listening settings address).steps actions).Tracked :=
  have hsound := Sound.listening settings address
  .of_sound (hsound.steps actions) (distinct_steps hsound Registry.distinct_empty actions)

end Server

end EchoProbe.Echo
