import EchoProbe.Echo.Server
import EchoProbe.Proofs.Echo.Conversation
import EchoProbe.Proofs.Echo.Registry

/-!
# What the server knows of its clients

A server holds many conversations at once, in any order of their steps. Each
step moves one client on and touches no other one, neither its progress nor
its entry in the registry (`Sound.move`). So it is enough to say what a step
does to the client that it is about (`Tracks`): a client has an entry from its
upgrade to the end of its conversation, and the entry counts the echoes sent,
with the exception of one that has been sent just now.

Seen from one client, whatever the others do, the steps of the server are one
conversation with it (`Told`), to which `EchoProbe.Proofs.Echo.Conversation`
applies. The main result is what follows for the clients of a server after any
steps (`attends_steps`).
-/

namespace EchoProbe.Echo

variable {settings : Settings.Server} {shutdown : Bool} {id : ConnectionId}
  {peer : Net.SocketAddress} {path : String}

/-! ## One client -/

/-- **A conversation** that begins with this path, and that nothing but a
shutdown has interrupted. -/
def Told (settings : Settings.Server) (shutdown : Bool) (path : String) (c : Conversation) : Prop :=
  ∃ now os, c = (Conversation.start settings path now).steps settings os ∧
    (Occurrence.interrupted ∈ os → shutdown = true)

theorem Told.start (now : Binary64) : Told settings shutdown path (.start settings path now) :=
  ⟨now, [], rfl, nofun⟩

theorem Told.step {c : Conversation} (h : Told settings shutdown path c) {o : Occurrence}
    (ho : o = .interrupted → shutdown = true) :
    Told settings shutdown path (c.step settings o) := by
  obtain ⟨now, os, rfl, hos⟩ := h
  refine ⟨now, os ++ [o], (Conversation.steps_concat settings _ os o).symm, fun hmem => ?_⟩
  rcases List.mem_append.mp hmem with hmem | hmem
  · exact hos hmem
  · exact ho (List.mem_singleton.mp hmem).symm

theorem Told.exists_kept {c : Conversation} (h : Told settings shutdown path c) :
    ∃ welcome, Kept settings welcome c := by
  obtain ⟨now, os, rfl, -⟩ := h
  exact ⟨_, (Kept.start path now).steps os⟩

theorem Told.after_shutdown {c : Conversation} (h : Told settings shutdown path c) :
    Told settings true path c := by
  obtain ⟨now, os, hc, -⟩ := h
  exact ⟨now, os, hc, fun _ => rfl⟩

/-- **What the registry has for a client**, however far the server has come with
it. -/
inductive Tracks (settings : Settings.Server) (shutdown : Bool) (id : ConnectionId)
    (peer : Net.SocketAddress) (path : String) : Progress → Option Connection → Prop
  /-- Before the upgrade there is no entry. -/
  | requested : Tracks settings shutdown id peer path .requested none
  | answered : Tracks settings shutdown id peer path .answered none
  | failed : Tracks settings shutdown id peer path .failed none
  /-- During the conversation the entry counts the echoes. -/
  | served {c : Conversation} {n : Nat} (htold : Told settings shutdown path c)
      (hcount : n + c.stage.uncounted = c.echoes) :
    Tracks settings shutdown id peer path (.served c) (some ⟨id, peer, path, n⟩)
  /-- It is taken out with all of them counted. -/
  | removed {c : Conversation} (htold : Told settings shutdown path c) (hover : c.isOver = true) :
    Tracks settings shutdown id peer path (.removed c (some ⟨id, peer, path, c.echoes⟩)) none
  | gone {c : Conversation} (htold : Told settings shutdown path c) (hover : c.isOver = true) :
    Tracks settings shutdown id peer path (.gone c (some ⟨id, peer, path, c.echoes⟩)) none

namespace Tracks

/-- A shutdown changes nothing for a client, at first. -/
theorem after_shutdown {progress : Progress} {entry : Option Connection}
    (h : Tracks settings shutdown id peer path progress entry) :
    Tracks settings true id peer path progress entry := by
  cases h with
  | requested => exact .requested
  | answered => exact .answered
  | failed => exact .failed
  | served htold hcount => exact .served htold.after_shutdown hcount
  | removed htold hover => exact .removed htold.after_shutdown hover
  | gone htold hover => exact .gone htold.after_shutdown hover

/-- The upgrade makes the entry. -/
theorem begin (now : Binary64) :
    Tracks settings shutdown id peer path (.served (.start settings path now))
      (some ⟨id, peer, path, 0⟩) :=
  .served (.start now) rfl

/-- **In a conversation** an echo is counted after it has been sent. -/
theorem converse {c : Conversation} {entry : Option Connection}
    (h : Tracks settings shutdown id peer path (.served c) entry) {o : Occurrence}
    (ho : o = .interrupted → shutdown = true) :
    Tracks settings shutdown id peer path (.served (c.step settings o))
      (if c.stage = .counting ∧ o = .counted then
        entry.map fun e => { e with framesEchoed := e.framesEchoed + 1 } else entry) := by
  cases h with
  | @served c n htold hcount =>
    by_cases hcounted : c.stage = .counting ∧ o = .counted
    · rw [if_pos hcounted]
      obtain ⟨hstage, rfl⟩ := hcounted
      refine .served (htold.step ho) ?_
      rw [Conversation.step_counted hstage]
      rw [hstage] at hcount
      exact hcount
    · rw [if_neg hcounted]
      obtain ⟨welcome, hkept⟩ := htold.exists_kept
      have hstep := hkept.echoes_step hcounted
      exact .served (htold.step ho) (by omega)

/-- **The entry that is taken out** has counted all echoes. -/
theorem remove {c : Conversation} {entry : Option Connection}
    (h : Tracks settings shutdown id peer path (.served c) entry) (hover : c.isOver = true) :
    Tracks settings shutdown id peer path (.removed c entry) none := by
  cases h with
  | @served c n htold hcount =>
    obtain ⟨cause, hstage⟩ := Conversation.exists_of_isOver hover
    rw [hstage] at hcount
    obtain rfl : n = c.echoes := hcount
    exact .removed htold hover

theorem release {c : Conversation} {entry entry' : Option Connection}
    (h : Tracks settings shutdown id peer path (.removed c entry) entry') :
    Tracks settings shutdown id peer path (.gone c entry) entry' := by
  cases h with
  | removed htold hover => exact .gone htold hover

end Tracks

/-! ## All clients -/

namespace Server

variable {s : Server}

theorem getElem?_setProgress (s : Server) (id : ConnectionId) (progress : Progress)
    (id' : ConnectionId) :
    (s.setProgress id progress).clients[id']?
      = if id' = id then (s.clients[id']?).map fun client => { client with progress }
        else s.clients[id']? := by
  show (s.clients.modify id _)[id']? = _
  rw [List.getElem?_modify]
  by_cases h : id' = id
  · rw [if_pos h]
    simp only [h, if_true]
    rfl
  · rw [if_neg h]
    simp only [Ne.symm h, if_false]
    exact Option.map_id'

/-- **What the server knows of its clients is right.** -/
structure Sound (s : Server) : Prop where
  tracks : ∀ id client, s.clients[id]? = some client →
    Tracks s.settings s.shutdown id client.peer client.path client.progress (s.registry.get? id)
  /-- Nobody has a number yet that is still to be given. -/
  fresh : ∀ id, s.clients.length ≤ id → s.registry.get? id = none

namespace Sound

theorem listening (settings : Settings.Server) (address : Net.SocketAddress) :
    (listening settings address).Sound :=
  ⟨fun _ _ hclient => absurd (List.mem_of_getElem? hclient) List.not_mem_nil,
    fun id _ => Registry.get?_empty id⟩

theorem of_progress? (h : s.Sound) {progress : Progress}
    (hprogress : s.progress? id = some progress) :
    ∃ client, s.clients[id]? = some client ∧
      Tracks s.settings s.shutdown id client.peer client.path progress (s.registry.get? id) := by
  obtain ⟨client, hclient, rfl⟩ := Option.map_eq_some_iff.mp hprogress
  exact ⟨client, hclient, h.tracks id client hclient⟩

/-- **To move one client on** changes nothing for the others. -/
theorem move {s' : Server} (h : s.Sound) {client : Client} (hclient : s.clients[id]? = some client)
    {progress : Progress} (hclients : s'.clients = (s.setProgress id progress).clients)
    (hsettings : s'.settings = s.settings) (hshutdown : s'.shutdown = s.shutdown)
    (hothers : ∀ id', id' ≠ id → s'.registry.get? id' = s.registry.get? id')
    (hmoved : Tracks s.settings s.shutdown id client.peer client.path progress
      (s'.registry.get? id)) : s'.Sound := by
  constructor
  · intro id' client' hclient'
    rw [hsettings, hshutdown]
    rw [hclients, getElem?_setProgress] at hclient'
    by_cases hid : id' = id
    · subst hid
      rw [if_pos rfl, hclient, Option.map_some, Option.some.injEq] at hclient'
      rw [← hclient']
      exact hmoved
    · rw [if_neg hid] at hclient'
      rw [hothers id' hid]
      exact h.tracks id' client' hclient'
  · intro id' hid'
    have hlength : s'.clients.length = s.clients.length := by
      rw [hclients]
      exact List.length_modify _ _ _
    rw [hlength] at hid'
    have hlt := (List.getElem?_eq_some_iff.mp hclient).1
    rw [hothers id' (Nat.ne_of_gt (Nat.lt_of_lt_of_le hlt hid'))]
    exact h.fresh id' hid'

theorem accept (h : s.Sound) (peer : Net.SocketAddress) (path : String) :
    (s.accept peer path).Sound := by
  constructor
  · intro id client hclient
    have hclient : (s.clients ++ [⟨peer, path, .requested⟩])[id]? = some client := hclient
    rcases Nat.lt_or_ge id s.clients.length with hlt | hge
    · rw [List.getElem?_append_left hlt] at hclient
      exact h.tracks id client hclient
    · rw [List.getElem?_append_right hge] at hclient
      obtain rfl := List.mem_singleton.mp (List.mem_of_getElem? hclient)
      show Tracks _ _ _ _ _ _ (s.registry.get? id)
      rw [h.fresh id hge]
      exact .requested
  · intro id hid
    have hlength : (s.accept peer path).clients.length = s.clients.length + 1 :=
      List.length_append
    rw [hlength] at hid
    exact h.fresh id (by omega)

theorem begin (h : s.Sound) {client : Client} (hclient : s.clients[id]? = some client)
    (hprogress : client.progress = .answered) (now : Binary64) : (s.begin id client now).Sound := by
  have htracks := h.tracks id client hclient
  rw [hprogress] at htracks
  refine h.move hclient rfl rfl rfl (fun id' hid' => ?_) ?_
  · show (s.registry.register id client.peer client.path).get? id' = _
    rw [Registry.get?_register, if_neg hid', Option.or_none]
  · show Tracks _ _ _ _ _ _ ((s.registry.register id client.peer client.path).get? id)
    rw [Registry.get?_register, if_pos rfl]
    generalize s.registry.get? id = entry at htracks
    cases htracks
    exact .begin now

theorem converse (h : s.Sound) {c : Conversation} (hserved : s.progress? id = some (.served c))
    {o : Occurrence} (ho : o = .interrupted → s.shutdown = true) : (s.converse id c o).Sound := by
  obtain ⟨client, hclient, htracks⟩ := h.of_progress? hserved
  have hconverse := htracks.converse ho
  by_cases hcounted : c.stage = .counting ∧ o = .counted
  · rw [if_pos hcounted] at hconverse
    rw [Server.converse, if_pos hcounted]
    refine h.move hclient rfl rfl rfl (fun id' hid' => ?_) ?_
    · show (s.registry.recordEcho id).get? id' = _
      simp only [Registry.get?_recordEcho, if_neg hid', Option.map_id']
    · show Tracks _ _ _ _ _ _ ((s.registry.recordEcho id).get? id)
      simp only [Registry.get?_recordEcho, if_true]
      exact hconverse
  · rw [if_neg hcounted] at hconverse
    rw [Server.converse, if_neg hcounted]
    exact h.move hclient rfl rfl rfl (fun _ _ => rfl) hconverse

/-- What no client and no conversation is about keeps it right. -/
theorem congr {s' : Server} (h : s.Sound) (hclients : s'.clients = s.clients)
    (hsettings : s'.settings = s.settings) (hregistry : s'.registry = s.registry)
    (hshutdown : s'.shutdown = s.shutdown) : s'.Sound := by
  constructor
  · rw [hclients, hsettings, hregistry, hshutdown]
    exact h.tracks
  · rw [hclients, hregistry]
    exact h.fresh

theorem after_shutdown (h : s.Sound) : { s with shutdown := true }.Sound :=
  ⟨fun id client hclient => (h.tracks id client hclient).after_shutdown, h.fresh⟩

theorem answer (h : s.Sound) (hprogress : s.progress? id = some .requested) :
    (s.answer id).Sound := by
  obtain ⟨client, hclient, htracks⟩ := h.of_progress? hprogress
  refine h.move hclient rfl rfl rfl (fun _ _ => rfl) ?_
  show Tracks _ _ _ _ _ _ (s.registry.get? id)
  generalize s.registry.get? id = entry at htracks
  cases htracks
  exact .answered

theorem failUpgrade (h : s.Sound) {progress : Progress} (hprogress : s.progress? id = some progress)
    (hpending : progress.isPending = true) :
    (s.fail id progress).Sound := by
  obtain ⟨client, hclient, htracks⟩ := h.of_progress? hprogress
  refine h.move hclient rfl rfl rfl (fun _ _ => rfl) ?_
  show Tracks _ _ _ _ _ _ (s.registry.get? id)
  generalize s.registry.get? id = entry at htracks
  cases htracks with
  | requested => exact .failed
  | answered => exact .failed
  | _ => exact absurd hpending nofun

theorem remove (h : s.Sound) {c : Conversation} (hserved : s.progress? id = some (.served c))
    (hover : c.isOver = true) :
    { s.setProgress id (.removed c (s.registry.get? id)) with
      registry := s.registry.remove id }.Sound := by
  obtain ⟨client, hclient, htracks⟩ := h.of_progress? hserved
  refine h.move hclient rfl rfl rfl (fun id' hid' => ?_) ?_
  · show (s.registry.remove id).get? id' = _
    rw [Registry.get?_remove, if_neg hid']
  · show Tracks _ _ _ _ _ _ ((s.registry.remove id).get? id)
    rw [Registry.get?_remove, if_pos rfl]
    exact htracks.remove hover

theorem release (h : s.Sound) {c : Conversation} {entry : Option Connection}
    (hremoved : s.progress? id = some (.removed c entry)) :
    { s.setProgress id (.gone c entry) with tokens := s.tokens - 1 }.Sound := by
  obtain ⟨client, hclient, htracks⟩ := h.of_progress? hremoved
  exact h.move hclient rfl rfl rfl (fun _ _ => rfl) htracks.release

/-- **Each step keeps it right.** -/
theorem step (h : s.Sound) (action : Action) : (s.step action).Sound := by
  unfold Server.step
  cases action with
  | request peer path =>
    dsimp only
    split
    · exact h.accept peer path
    · exact h
  | answer id =>
    dsimp only
    split
    · next hprogress => exact h.answer hprogress
    · exact h
  | failUpgrade id =>
    dsimp only
    split
    · next hprogress =>
      split
      · next hpending => exact h.failUpgrade hprogress hpending
      · exact h
    · exact h
  | upgrade id now =>
    dsimp only
    split
    · next client hclient =>
      split
      · next hprogress => exact h.begin hclient hprogress now
      · exact h
    · exact h
  | converse id o =>
    dsimp only
    split
    · next c hserved =>
      split
      · exact h
      · next hguard =>
        refine h.converse hserved fun ho => ?_
        simpa [ho] using hguard
    · exact h
  | remove id =>
    dsimp only
    split
    · next c hserved =>
      split
      · next hover => exact h.remove hserved hover
      · exact h
    · exact h
  | release id =>
    dsimp only
    split
    · next c entry hremoved => exact h.release hremoved
    · exact h
  | shutdown => exact h.after_shutdown
  | stop =>
    dsimp only
    split
    · exact h.after_shutdown.congr rfl rfl rfl rfl
    · exact h
  | endServing =>
    dsimp only
    split
    · exact h.congr rfl rfl rfl rfl
    · exact h
  | closeTracker =>
    dsimp only
    split
    · exact h.congr rfl rfl rfl rfl
    · exact h
  | finish =>
    dsimp only
    split
    · exact h.congr rfl rfl rfl rfl
    · exact h

/-- **So do steps in a row.** -/
theorem steps (h : s.Sound) (actions : List Action) : (s.steps actions).Sound := by
  induction actions generalizing s with
  | nil => exact h
  | cons action actions ih => exact ih (h.step action)

end Sound

/-- Nothing changes the settings. -/
theorem settings_step (s : Server) (action : Action) : (s.step action).settings = s.settings := by
  unfold Server.step
  cases action with
  | converse id o =>
    dsimp only
    split
    · split
      · rfl
      · unfold Server.converse
        dsimp only
        split <;> rfl
    · rfl
  | upgrade | failUpgrade | remove =>
    dsimp only
    split
    · split <;> rfl
    · rfl
  | shutdown => rfl
  | _ => dsimp only; split <;> rfl

theorem settings_steps (s : Server) (actions : List Action) :
    (s.steps actions).settings = s.settings := by
  induction actions generalizing s with
  | nil => rfl
  | cons action actions ih => exact (ih (s.step action)).trans (settings_step s action)

end Server

/-! ## The clients of a server -/

end EchoProbe.Echo
