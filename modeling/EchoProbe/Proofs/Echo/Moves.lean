import Mathlib.Data.List.Induction
import EchoProbe.Proofs.Echo.Server

/-!
# What a step of the server can do

A step of the server whose guard holds is one of a few moves, and any other
step changes nothing (`Moves`). Each fact about all runs of a server is then a
case analysis on the moves, and nobody has to look at the step itself again.

Three facts that others build on are proved here. A stop goes in order
(`Orderly.steps`); a shutdown has been asked for exactly if a step asked for it
(`shutdown_steps`); and the clients are those that asked for an upgrade before
it, in this order (`requests_steps`).
-/

namespace EchoProbe.Echo

/-- Whether a step asks for a shutdown. -/
def Server.Action.shutsDown : Server.Action → Bool
  | .shutdown => true
  | .stop => true
  | _ => false

/-- The client that asks for an upgrade, and its path. -/
def Server.Action.asks? : Server.Action → Option (Net.SocketAddress × String)
  | .request peer path => some (peer, path)
  | _ => none

/-- The address of a client and its path, as it asked for an upgrade. -/
def Client.request (client : Client) : Net.SocketAddress × String := (client.peer, client.path)

namespace Server

variable {s s' : Server} {action : Action} {id : ConnectionId}

/-- **The guard of a step.** -/
def Enabled (s : Server) : Action → Prop
  | .request .. => s.accepts = true
  | .answer id => s.progress? id = some .requested
  | .failUpgrade id => ∃ progress, s.progress? id = some progress ∧ progress.isPending = true
  | .upgrade id _ => s.progress? id = some .answered
  | .converse id o =>
    ∃ c, s.progress? id = some (.served c) ∧ (o = .interrupted → s.shutdown = true)
  | .remove id => ∃ c, s.progress? id = some (.served c) ∧ c.isOver = true
  | .release id => ∃ c entry, s.progress? id = some (.removed c entry)
  | .shutdown => True
  | .stop => s.stopping = .idle
  | .endServing => s.shutdown = true ∧ s.hasRequest = false
  | .closeTracker => s.stopping = .waiting ∧ s.serving = false
  | .finish => s.stopping = .draining ∧ s.tokens = 0

/-- **What a step can do.** -/
inductive Moves (s : Server) : Action → Server → Prop
  /-- A step whose guard does not hold changes nothing. -/
  | idle {action : Action} (h : ¬ s.Enabled action) : Moves s action s
  | request (h : s.accepts = true) (peer : Net.SocketAddress) (path : String) :
    Moves s (.request peer path) (s.accept peer path)
  | answer {id : ConnectionId} {client : Client} (hclient : s.clients[id]? = some client)
    (h : client.progress = .requested) : Moves s (.answer id) (s.answer id)
  | failUpgrade {id : ConnectionId} {client : Client} (hclient : s.clients[id]? = some client)
    (h : client.progress.isPending = true) :
    Moves s (.failUpgrade id) (s.fail id client.progress)
  | upgrade {id : ConnectionId} {client : Client} (hclient : s.clients[id]? = some client)
    (h : client.progress = .answered) (now : Binary64) :
    Moves s (.upgrade id now) (s.begin id client now)
  | converse {id : ConnectionId} {client : Client} (hclient : s.clients[id]? = some client)
    {c : Conversation} (h : client.progress = .served c) {o : Occurrence}
    (ho : o = .interrupted → s.shutdown = true) :
    Moves s (.converse id o) (s.converse id c o)
  | remove {id : ConnectionId} {client : Client} (hclient : s.clients[id]? = some client)
    {c : Conversation} (h : client.progress = .served c) (hover : c.isOver = true) :
    Moves s (.remove id) { s.setProgress id (.removed c (s.registry.get? id)) with
      registry := s.registry.remove id }
  | release {id : ConnectionId} {client : Client} (hclient : s.clients[id]? = some client)
    {c : Conversation} {entry : Option Connection} (h : client.progress = .removed c entry) :
    Moves s (.release id) { s.setProgress id (.gone c entry) with tokens := s.tokens - 1 }
  | shutdown : Moves s .shutdown { s with shutdown := true }
  | stop (h : s.stopping = .idle) :
    Moves s .stop { s with shutdown := true, stopping := .waiting }
  | endServing (hshutdown : s.shutdown = true) (h : s.hasRequest = false) :
    Moves s .endServing { s with serving := false }
  | closeTracker (h : s.stopping = .waiting) (hserving : s.serving = false) :
    Moves s .closeTracker { s with stopping := .draining }
  | finish (h : s.stopping = .draining) (htokens : s.tokens = 0) :
    Moves s .finish { s with stopping := .done }

theorem exists_of_progress? {progress : Progress} (h : s.progress? id = some progress) :
    ∃ client, s.clients[id]? = some client ∧ client.progress = progress :=
  Option.map_eq_some_iff.mp h

theorem eq_of_progress? {p q : Progress} (hp : s.progress? id = some p)
    (hq : s.progress? id = some q) : p = q :=
  Option.some.inj (hp.symm.trans hq)

/-- **Each step is one of the moves.** -/
theorem moves_step (s : Server) (action : Action) : Moves s action (s.step action) := by
  unfold step
  cases action with
  | request peer path =>
    dsimp only
    split
    · next h => exact .request h peer path
    · next h => exact .idle h
  | answer id =>
    dsimp only
    split
    · next h =>
      obtain ⟨client, hclient, hrequested⟩ := exists_of_progress? h
      exact .answer hclient hrequested
    · next h => exact .idle h
  | failUpgrade id =>
    dsimp only
    split
    · next p h =>
      obtain ⟨client, hclient, rfl⟩ := exists_of_progress? h
      split
      · next hpending => exact .failUpgrade hclient hpending
      · next hpending =>
        exact .idle fun ⟨q, hq, hqpending⟩ => hpending (eq_of_progress? h hq ▸ hqpending)
    · next h => exact .idle fun ⟨q, hq, _⟩ => absurd (h.symm.trans hq) nofun
  | upgrade id now =>
    dsimp only
    split
    · next client hclient =>
      have hprogress : s.progress? id = some client.progress := congrArg _ hclient
      split
      · next hanswered => exact .upgrade hclient hanswered now
      · next hanswered => exact .idle fun h => hanswered (eq_of_progress? hprogress h)
    · next hnone => exact .idle fun h => absurd ((congrArg _ hnone).symm.trans h) nofun
  | converse id o =>
    dsimp only
    split
    · next c h =>
      obtain ⟨client, hclient, hserved⟩ := exists_of_progress? h
      split
      · next hguard =>
        refine .idle fun ⟨_, _, ho⟩ => ?_
        simp [ho hguard.1] at hguard
      · next hguard =>
        refine .converse hclient hserved fun ho => ?_
        simpa [ho] using hguard
    · next h => exact .idle fun ⟨c, hserved, _⟩ => h c hserved
  | remove id =>
    dsimp only
    split
    · next c h =>
      obtain ⟨client, hclient, hserved⟩ := exists_of_progress? h
      split
      · next hover => exact .remove hclient hserved hover
      · next hover =>
        refine .idle fun ⟨c', hserved', hover'⟩ => hover ?_
        rw [Progress.served.inj (eq_of_progress? h hserved')]
        exact hover'
    · next h => exact .idle fun ⟨c, hserved, _⟩ => h c hserved
  | release id =>
    dsimp only
    split
    · next c entry h =>
      obtain ⟨client, hclient, hremoved⟩ := exists_of_progress? h
      exact .release hclient hremoved
    · next h => exact .idle fun ⟨c, entry, hremoved⟩ => h c entry hremoved
  | shutdown => exact .shutdown
  | stop =>
    dsimp only
    split
    · next h => exact .stop h
    · next h => exact .idle h
  | endServing =>
    dsimp only
    split
    · next h =>
      have hguard : s.shutdown = true ∧ s.hasRequest = false := by simpa using h
      exact .endServing hguard.1 hguard.2
    · next h => exact .idle fun ⟨hshutdown, hrequest⟩ => h (by simp [hshutdown, hrequest])
  | closeTracker =>
    dsimp only
    split
    · next h =>
      have hguard : s.stopping = .waiting ∧ s.serving = false := by simpa using h
      exact .closeTracker hguard.1 hguard.2
    · next h => exact .idle fun ⟨hstopping, hserving⟩ => h (by simp [hstopping, hserving])
  | finish =>
    dsimp only
    split
    · next h =>
      have hguard : s.stopping = .draining ∧ s.tokens = 0 := by simpa using h
      exact .finish hguard.1 hguard.2
    · next h => exact .idle fun ⟨hstopping, htokens⟩ => h (by simp [hstopping, htokens])

/-! ## The clients -/

/-- What happens in a conversation moves its client on, and changes nothing else
but the registry. -/
theorem exists_converse_eq (s : Server) (id : ConnectionId) (c : Conversation) (o : Occurrence) :
    ∃ registry, s.converse id c o
      = { s.setProgress id (.served (c.step s.settings o)) with registry } := by
  unfold Server.converse
  dsimp only
  split
  · exact ⟨_, rfl⟩
  · exact ⟨_, rfl⟩

/-- A request makes one client more. -/
theorem getElem?_accept {peer : Net.SocketAddress} {path : String} {client : Client}
    (h : (s.accept peer path).clients[id]? = some client) :
    s.clients[id]? = some client ∨
      id = s.clients.length ∧ client = ⟨peer, path, .requested⟩ := by
  have h : (s.clients ++ [⟨peer, path, .requested⟩])[id]? = some client := h
  rcases Nat.lt_trichotomy id s.clients.length with hlt | rfl | hgt
  · rw [List.getElem?_append_left hlt] at h
    exact Or.inl h
  · rw [List.getElem?_concat_length] at h
    exact Or.inr ⟨rfl, (Option.some.inj h).symm⟩
  · have hlength : (s.clients ++ [Client.mk peer path .requested]).length ≤ id := by
      rw [List.length_append]
      exact hgt
    rw [List.getElem?_eq_none hlength] at h
    exact absurd h nofun

/-- **What holds of all clients** when one of them is moved on: it must hold of the
others before, and of that one afterwards. -/
theorem forall_setProgress {p : ConnectionId → Client → Prop} {client : Client}
    (hclient : s.clients[id]? = some client) {progress : Progress}
    (hothers : ∀ id' client', id' ≠ id → s.clients[id']? = some client' → p id' client')
    (hmoved : p id { client with progress }) :
    ∀ id' client', (s.setProgress id progress).clients[id']? = some client' → p id' client' := by
  intro id' client' hclient'
  rw [getElem?_setProgress] at hclient'
  by_cases hid : id' = id
  · subst hid
    rw [if_pos rfl, hclient, Option.map_some, Option.some.injEq] at hclient'
    exact hclient' ▸ hmoved
  · rw [if_neg hid] at hclient'
    exact hothers id' client' hid hclient'

theorem hasRequest_eq_false_iff :
    s.hasRequest = false ↔
      ∀ (id : ConnectionId) (client : Client),
        s.clients[id]? = some client → client.progress ≠ .requested := by
  rw [hasRequest, List.any_eq_false]
  constructor
  · intro h id client hclient
    simpa using h client (List.mem_of_getElem? hclient)
  · intro h client hmem
    obtain ⟨id, hclient⟩ := List.mem_iff_getElem?.mp hmem
    simpa using h id client hclient

/-! ## The order of a stop -/

/-- **A stop goes in order.** Without a shutdown there is no stop, and requests
are answered; the tracker is closed when all of them have been. -/
structure Orderly (s : Server) : Prop where
  stopping : s.stopping ≠ .idle → s.shutdown = true
  serving : s.serving = false → s.shutdown = true ∧ s.hasRequest = false
  tracker : s.stopping = .draining ∨ s.stopping = .done → s.serving = false

namespace Orderly

theorem listening (settings : Settings.Server) (address : Net.SocketAddress) :
    (listening settings address).Orderly :=
  ⟨nofun, nofun, nofun⟩

/-- To move a client on does not bring a request back. -/
theorem setProgress (h : s.Orderly) {client : Client} (hclient : s.clients[id]? = some client)
    {progress : Progress} (hprogress : progress ≠ .requested)
    (hclients : s'.clients = (s.setProgress id progress).clients)
    (hstopping : s'.stopping = s.stopping) (hshutdown : s'.shutdown = s.shutdown)
    (hserving : s'.serving = s.serving) : s'.Orderly := by
  refine ⟨?_, ?_, ?_⟩
  · rw [hstopping, hshutdown]
    exact h.stopping
  · rw [hserving, hshutdown, hasRequest_eq_false_iff, hclients]
    intro hended
    obtain ⟨hshutdown, hrequest⟩ := h.serving hended
    rw [hasRequest_eq_false_iff] at hrequest
    exact ⟨hshutdown, forall_setProgress hclient (fun id' _ _ => hrequest id' _) hprogress⟩
  · rw [hstopping, hserving]
    exact h.tracker

/-- **Each move keeps the order.** -/
theorem step (h : s.Orderly) (action : Action) : (s.step action).Orderly := by
  have hmoves := moves_step s action
  generalize s.step action = s' at hmoves ⊢
  cases hmoves with
  | idle => exact h
  | request haccepts peer path =>
    obtain ⟨hserving, hshutdown⟩ : s.serving = true ∧ s.shutdown = false := by
      simpa [accepts] using haccepts
    refine ⟨h.stopping, fun hended => ?_, h.tracker⟩
    exact absurd (hserving.symm.trans hended) nofun
  | answer hclient => exact h.setProgress hclient (by nofun) rfl rfl rfl rfl
  | failUpgrade hclient => exact h.setProgress hclient (by nofun) rfl rfl rfl rfl
  | upgrade hclient => exact h.setProgress hclient (by nofun) rfl rfl rfl rfl
  | @converse id _ hclient c _ o _ =>
    obtain ⟨registry, hconverse⟩ := s.exists_converse_eq id c o
    rw [hconverse]
    exact h.setProgress hclient (by nofun) rfl rfl rfl rfl
  | remove hclient => exact h.setProgress hclient (by nofun) rfl rfl rfl rfl
  | release hclient => exact h.setProgress hclient (by nofun) rfl rfl rfl rfl
  | shutdown => exact ⟨fun _ => rfl, fun hended => ⟨rfl, (h.serving hended).2⟩, h.tracker⟩
  | stop => exact ⟨fun _ => rfl, fun hended => ⟨rfl, (h.serving hended).2⟩, nofun⟩
  | endServing hshutdown hrequest =>
    exact ⟨h.stopping, fun _ => ⟨hshutdown, hrequest⟩, fun _ => rfl⟩
  | closeTracker hwaiting hserving =>
    exact ⟨fun _ => (h.serving hserving).1, h.serving, fun _ => hserving⟩
  | finish hdraining htokens =>
    exact ⟨fun _ => (h.serving (h.tracker (.inl hdraining))).1, h.serving,
      fun _ => h.tracker (.inl hdraining)⟩

theorem steps (h : s.Orderly) (actions : List Action) : (s.steps actions).Orderly := by
  induction actions generalizing s with
  | nil => exact h
  | cons action actions ih => exact ih (h.step action)

end Orderly

theorem steps_concat (s : Server) (actions : List Action) (action : Action) :
    s.steps (actions ++ [action]) = (s.steps actions).step action :=
  List.foldl_append

/-- A shutdown is asked for once and for all. -/
theorem shutdown_step (h : s.Orderly) (action : Action) :
    (s.step action).shutdown = (s.shutdown || action.shutsDown) := by
  have hmoves := moves_step s action
  generalize s.step action = s' at hmoves ⊢
  cases hmoves with
  | idle hidle =>
    cases action with
    | shutdown => exact absurd trivial hidle
    | stop => rw [h.stopping hidle, Bool.true_or]
    | _ => exact (Bool.or_false _).symm
  | @converse id _ _ c _ o =>
    obtain ⟨registry, hconverse⟩ := s.exists_converse_eq id c o
    rw [hconverse]
    exact (Bool.or_false _).symm
  | shutdown => exact (Bool.or_true _).symm
  | stop => exact (Bool.or_true _).symm
  | _ => exact (Bool.or_false _).symm

/-- **Whether a shutdown has been asked for.** -/
theorem shutdown_steps (settings : Settings.Server) (address : Net.SocketAddress)
    (actions : List Action) :
    ((listening settings address).steps actions).shutdown
      = actions.any Action.shutsDown := by
  induction actions using List.reverseRecOn with
  | nil => rfl
  | append_singleton actions action ih =>
    have horderly := (Orderly.listening settings address).steps actions
    rw [steps_concat, shutdown_step horderly, ih, List.any_append, List.any_cons, List.any_nil,
      Bool.or_false]

/-! ## Who the clients are -/

/-- To move a client on does not change who it is. -/
theorem map_request_setProgress (s : Server) (id : ConnectionId) (progress : Progress) :
    (s.setProgress id progress).clients.map Client.request = s.clients.map Client.request := by
  refine List.ext_getElem? fun id' => ?_
  rw [List.getElem?_map, List.getElem?_map, getElem?_setProgress]
  split
  · rw [Option.map_map]
    rfl
  · rfl

/-- A request that is accepted makes a client. -/
theorem requests_step (s : Server) (action : Action) :
    (s.step action).clients.map Client.request
      = s.clients.map Client.request ++ if s.accepts then action.asks?.toList else [] := by
  have hmoves := moves_step s action
  generalize s.step action = s' at hmoves ⊢
  have hnone : ∀ {clients : List Client}, clients.map Client.request = s.clients.map Client.request →
      clients.map Client.request
        = s.clients.map Client.request ++ if s.accepts then (none : Option _).toList else [] := by
    intro clients hclients
    rw [hclients, Option.toList_none, ite_self, List.append_nil]
  cases hmoves with
  | idle hidle =>
    cases action with
    | request peer path =>
      have haccepts : ¬ s.accepts = true := hidle
      rw [if_neg haccepts, List.append_nil]
    | _ => exact hnone rfl
  | request haccepts peer path =>
    rw [if_pos haccepts]
    exact List.map_append
  | answer => exact hnone (map_request_setProgress ..)
  | failUpgrade => exact hnone (map_request_setProgress ..)
  | upgrade => exact hnone (map_request_setProgress ..)
  | @converse id _ _ c _ o =>
    obtain ⟨registry, hconverse⟩ := s.exists_converse_eq id c o
    rw [hconverse]
    exact hnone (map_request_setProgress ..)
  | remove => exact hnone (map_request_setProgress ..)
  | release => exact hnone (map_request_setProgress ..)
  | _ => exact hnone rfl

/-- **The clients are those that asked for an upgrade**, in this order, as long as
no shutdown has been asked for. -/
theorem requests_steps (settings : Settings.Server) (address : Net.SocketAddress)
    {actions : List Action} (h : ∀ action ∈ actions, action.shutsDown = false) :
    ((listening settings address).steps actions).clients.map Client.request
      = actions.filterMap Action.asks? := by
  induction actions using List.reverseRecOn with
  | nil => rfl
  | append_singleton actions action ih =>
    have hbefore : ∀ a ∈ actions, a.shutsDown = false := fun a ha => h a (List.mem_append_left _ ha)
    have hshutdown : ((listening settings address).steps actions).shutdown = false := by
      rw [shutdown_steps, List.any_eq_false]
      exact fun a ha => Bool.not_eq_true _ ▸ hbefore a ha
    have haccepts : ((listening settings address).steps actions).accepts = true := by
      have horderly := (Orderly.listening settings address).steps actions
      rw [accepts, hshutdown, Bool.and_eq_true]
      refine ⟨?_, rfl⟩
      by_contra hserving
      have hended := (horderly.serving (Bool.not_eq_true _ ▸ hserving)).1
      exact absurd (hshutdown.symm.trans hended) nofun
    rw [steps_concat, requests_step, if_pos haccepts, ih hbefore, List.filterMap_append]
    cases hasks : action.asks? with
    | none => rw [List.filterMap_cons_none hasks]; rfl
    | some request => rw [List.filterMap_cons_some hasks]; rfl

end Server

end EchoProbe.Echo
