import EchoProbe.Proofs.Echo.Tracking

/-!
# Conversations do not disturb each other

A server holds its conversations in any order of their steps. What happens in
one of them is what the steps of the server that are about its client say,
and nothing else (`heard`): the conversation is the one that these alone tell,
whatever is done with the others (`Server.recounts_steps`). The induction is on the
steps, at the end, and a move of the server either is about the client or leaves
it as it is.

Before a shutdown, all that is sent in a conversation is determined by its path,
by the messages that are read, and by the settings, but for the times that are
told: it is the `course`, of which at most the last message is missing, while it
is on its way or when it could not be sent. The main result puts this together
with the registry (`isolated_steps`).
-/

namespace EchoProbe.Echo

/-! ## What is sent, with the times left open -/

/-- **The reply to a message**, at any time. -/
def reply (settings : Settings.Server) : Message → List (Binary64 → Message)
  | .text content => [echoMessage settings (.decode content)]
  | .binary content => [echoMessage settings (.decodeBytes content)]
  | .ping data => [fun _ => .pong data]
  | .pong _ => []
  | .close _ => []

/-- **All that is due to a client** that asked for a path and has sent some messages:
the welcome, and the replies in order. -/
def course (settings : Settings.Server) (path : String) (inbound : List Message) :
    List (Binary64 → Message) :=
  welcomeMessage settings path :: inbound.flatMap (reply settings)

/-- Messages are those that are due, each at some time. -/
def Timed (sent : List Message) (due : List (Binary64 → Message)) : Prop :=
  List.Forall₂ (fun message at_ => ∃ now, message = at_ now) sent due

variable {settings : Settings.Server} {path : String} {c : Conversation}

theorem Replies.timed {m : Message} {replies : List Message} (h : Replies settings m replies) :
    Timed replies (reply settings m) := by
  cases h with
  | text now => exact .cons ⟨now, rfl⟩ .nil
  | binary now => exact .cons ⟨now, rfl⟩ .nil
  | ping => exact .cons ⟨.ofBits 0, rfl⟩ .nil
  | pong => exact .nil
  | close => exact .nil

theorem timed_replies {read : List Message} {replies : List (List Message)}
    (h : List.Forall₂ (Replies settings) read replies) :
    Timed replies.flatten (read.flatMap (reply settings)) := by
  induction h with
  | nil => exact .nil
  | cons hreply _ ih =>
    rw [List.flatten_cons, List.flatMap_cons]
    exact List.rel_append hreply.timed ih

/-- Where all is sent at some times, so is all but the last. -/
theorem Timed.dropLast {sent : List Message} {due : List (Binary64 → Message)}
    (h : Timed sent due) : Timed sent.dropLast due.dropLast := by
  rw [List.dropLast_eq_take, List.dropLast_eq_take, h.length_eq]
  exact List.forall₂_take _ h

/-- **At most the last message is missing**, if the goodbye has not been said. -/
theorem Fulfils.eq_or_dropLast {welcome : Message} {due sent read : List Message} {stage : Stage}
    (h : Fulfils welcome due stage sent) (hstage : stage ≠ .over .shutdown) :
    sent = welcome :: due ∨
      ((Conversation.mk stage sent read).outgoing?.isSome = true ∨ stage = .over .unsendable) ∧
        sent = (welcome :: due).dropLast := by
  cases h with
  | greeting hdue => exact .inr ⟨.inl rfl, by rw [hdue]; rfl⟩
  | ungreeted hdue => exact .inr ⟨.inr rfl, by rw [hdue]; rfl⟩
  | echoing hdue => exact .inr ⟨.inl rfl, by rw [hdue, ← List.cons_append, List.dropLast_concat]⟩
  | answering hdue => exact .inr ⟨.inl rfl, by rw [hdue, ← List.cons_append, List.dropLast_concat]⟩
  | unsendable hsent =>
    rcases hsent with ⟨message, hdue⟩ | hdue
    · exact .inr ⟨.inr rfl, by rw [hdue, ← List.cons_append, List.dropLast_concat]⟩
    · exact .inl (by rw [hdue])
  | shutdown => exact absurd rfl hstage
  | _ => exact .inl rfl

/-! ## What happens in a conversation -/

/-- A conversation that is not held any more is over. -/
theorem Tracks.served_or_isOver {shutdown : Bool} {id : ConnectionId} {peer : Net.SocketAddress}
    {progress : Progress} {entry : Option Connection}
    (h : Tracks settings shutdown id peer path progress entry)
    (hc : progress.conversation? = some c) : progress = .served c ∨ c.isOver = true := by
  cases h with
  | served => exact .inl (congrArg Progress.served (Option.some.inj hc))
  | removed _ hover => exact .inr (Option.some.inj hc ▸ hover)
  | gone _ hover => exact .inr (Option.some.inj hc ▸ hover)
  | _ => exact absurd hc nofun

namespace Server

/-- What a step of the server tells the conversation with a client: nothing,
unless it is about this conversation. Only a shutdown can interrupt it. -/
def Action.heard? (id : ConnectionId) (shutdown : Bool) : Action → Option Occurrence
  | .converse id' o =>
    if id' = id ∧ (o = .interrupted → shutdown = true) then some o else none
  | _ => none

/-- **What the steps of the server tell the conversation with a client**, from a
point on at which a shutdown has been asked for or not. -/
def heard (id : ConnectionId) : Bool → List Action → List Occurrence
  | _, [] => []
  | shutdown, action :: actions =>
    (action.heard? id shutdown).toList ++ heard id (shutdown || action.shutsDown) actions

variable {actions : List Action} {action : Action} {id : ConnectionId} {shutdown : Bool}

theorem heard_concat (id : ConnectionId) (shutdown : Bool) (actions : List Action)
    (action : Action) :
    heard id shutdown (actions ++ [action])
      = heard id shutdown actions
        ++ (action.heard? id (shutdown || actions.any Action.shutsDown)).toList := by
  induction actions generalizing shutdown with
  | nil =>
    rw [List.any_nil, Bool.or_false]
    exact List.append_nil _
  | cons first actions ih =>
    rw [List.cons_append, heard, heard, ih, List.any_cons, Bool.or_assoc, List.append_assoc]

/-- Nothing is interrupted without a shutdown. -/
theorem interrupted_not_mem_heard (h : ∀ action ∈ actions, action.shutsDown = false) :
    Occurrence.interrupted ∉ heard id false actions := by
  induction actions with
  | nil => exact List.not_mem_nil
  | cons action actions ih =>
    obtain ⟨haction, hactions⟩ := List.forall_mem_cons.mp h
    rw [heard, haction, List.mem_append, Option.mem_toList]
    refine not_or.mpr ⟨fun hheard => ?_, ih hactions⟩
    cases action with
    | converse id' o =>
      obtain ⟨⟨-, hguard⟩, ho⟩ := Option.ite_none_right_eq_some.mp hheard
      exact absurd (hguard (Option.some.inj ho)) nofun
    | _ => exact absurd hheard nofun

/-- **A conversation is recounted** by the steps of the server: one of them has
begun it, and what these tell it behind that is all that has happened in it. -/
def Recounted (settings : Settings.Server) (actions : List Action) (id : ConnectionId)
    (path : String) (c : Conversation) : Prop :=
  ∃ before now after, actions = before ++ .upgrade id now :: after ∧
    c = (Conversation.start settings path now).steps settings
      (heard id (before.any Action.shutsDown) after)

/-- A conversation that hears of something that cannot happen in it is over. -/
theorem Sound.isOver_of_not_enabled {s : Server} (h : s.Sound) {client : Client}
    (hclient : s.clients[id]? = some client) (hc : client.progress.conversation? = some c)
    {o : Occurrence} (hheard : action.heard? id s.shutdown = some o) (hidle : ¬ s.Enabled action) :
    c.isOver = true := by
  cases action with
  | converse id' o' =>
    obtain ⟨⟨rfl, hguard⟩, -⟩ := Option.ite_none_right_eq_some.mp hheard
    rcases (h.tracks id' client hclient).served_or_isOver hc with hserved | hover
    · have hprogress : s.progress? id' = some (.served c) := by
        rw [← hserved]
        exact congrArg _ hclient
      exact absurd ⟨c, hprogress, hguard⟩ hidle
    · exact hover
  | _ => exact absurd hheard nofun

namespace Recounted

/-- A step begins it. -/
theorem start (actions : List Action) (id : ConnectionId) (path : String) (now : Binary64) :
    Recounted settings (actions ++ [.upgrade id now]) id path (.start settings path now) :=
  ⟨actions, now, [], rfl, rfl⟩

/-- One step more tells it what it hears. -/
theorem concat (h : Recounted settings actions id path c) (action : Action) :
    Recounted settings (actions ++ [action]) id path
      (c.steps settings (action.heard? id (actions.any Action.shutsDown)).toList) := by
  obtain ⟨before, now, after, rfl, rfl⟩ := h
  refine ⟨before, now, after ++ [action], by rw [List.append_assoc, List.cons_append], ?_⟩
  have hany : (before ++ Action.upgrade id now :: after).any Action.shutsDown
      = (before.any Action.shutsDown || after.any Action.shutsDown) := by
    rw [List.any_append, List.any_cons]
    rfl
  rw [heard_concat, Conversation.steps_append, hany]

/-- A step that it does not hear leaves it as it is. -/
theorem unheard (h : Recounted settings actions id path c)
    (hnone : action.heard? id (actions.any Action.shutsDown) = none) :
    Recounted settings (actions ++ [action]) id path c := by
  have hconcat := h.concat action
  rw [hnone] at hconcat
  exact hconcat

end Recounted

/-- **All conversations are recounted.** -/
def Recounts (settings : Settings.Server) (actions : List Action) (clients : List Client) : Prop :=
  ∀ id client, clients[id]? = some client → ∀ c, client.progress.conversation? = some c →
    Recounted settings actions id client.path c

/-- **One step** of the server recounts one conversation further, and leaves the
others as they are. -/
theorem Recounts.step {s : Server} (hsound : s.Sound)
    (hshutdown : s.shutdown = actions.any Action.shutsDown)
    (h : Recounts s.settings actions s.clients) (action : Action) :
    Recounts s.settings (actions ++ [action]) (s.step action).clients := by
  have hmoves := moves_step s action
  generalize s.step action = s' at hmoves ⊢
  have hunheard : (∀ id shutdown, action.heard? id shutdown = none) →
      Recounts s.settings (actions ++ [action]) s.clients :=
    fun hnone id client hclient c hc => (h id client hclient c hc).unheard (hnone id _)
  have hmoved : (∀ id shutdown, action.heard? id shutdown = none) →
      ∀ {id client progress}, s.clients[id]? = some client →
        (∀ c, progress.conversation? = some c →
          Recounted s.settings (actions ++ [action]) id client.path c) →
        Recounts s.settings (actions ++ [action]) (s.setProgress id progress).clients :=
    fun hnone _ _ _ hclient hc =>
      forall_setProgress hclient (fun id' client' _ => hunheard hnone id' client') hc
  cases hmoves with
  | idle hidle =>
    intro id client hclient c hc
    cases hheard : action.heard? id (actions.any Action.shutsDown) with
    | none => exact (h id client hclient c hc).unheard hheard
    | some o =>
      -- what cannot happen to a conversation finds it over
      rw [← hshutdown] at hheard
      have hover := hsound.isOver_of_not_enabled hclient hc hheard hidle
      obtain ⟨cause, hstage⟩ := Conversation.exists_of_isOver hover
      have hconcat := (h id client hclient c hc).concat action
      rw [Conversation.steps_of_over hstage] at hconcat
      exact hconcat
  | request haccepts peer path =>
    intro id client hclient c hc
    rcases getElem?_accept hclient with hold | ⟨-, rfl⟩
    · exact hunheard (fun _ _ => rfl) id client hold c hc
    · exact absurd hc nofun
  | answer hclient => exact hmoved (fun _ _ => rfl) hclient nofun
  | failUpgrade hclient => exact hmoved (fun _ _ => rfl) hclient nofun
  | @upgrade id client hclient hanswered now =>
    refine hmoved (fun _ _ => rfl) hclient ?_
    rintro _ ⟨⟩
    exact Recounted.start actions id client.path now
  | @converse id client hclient c hserved o ho =>
    obtain ⟨registry, hconverse⟩ := s.exists_converse_eq id c o
    rw [hconverse]
    refine forall_setProgress hclient (fun id' client' hid hclient' c' hc' => ?_) ?_
    · exact (h id' client' hclient' c' hc').unheard (if_neg fun hheard => hid hheard.1.symm)
    · rintro _ ⟨⟩
      have hconcat := (h id client hclient c (hserved ▸ rfl)).concat (.converse id o)
      have hheard : (Action.converse id o).heard? id (actions.any Action.shutsDown) = some o :=
        if_pos ⟨rfl, hshutdown ▸ ho⟩
      rw [hheard] at hconcat
      exact hconcat
  | @remove id client hclient c hserved =>
    refine hmoved (fun _ _ => rfl) hclient ?_
    rintro _ ⟨⟩
    exact hunheard (fun _ _ => rfl) id client hclient c (hserved ▸ rfl)
  | @release id client hclient c entry hremoved =>
    refine hmoved (fun _ _ => rfl) hclient ?_
    rintro _ ⟨⟩
    exact hunheard (fun _ _ => rfl) id client hclient c (hremoved ▸ rfl)
  | _ => exact hunheard fun _ _ => rfl

/-- **All that has happened in a conversation** is what the steps of the server
about it tell. -/
theorem recounts_steps (settings : Settings.Server) (address : Net.SocketAddress)
    (actions : List Action) :
    Recounts settings actions ((listening settings address).steps actions).clients := by
  induction actions using List.reverseRecOn with
  | nil => exact fun _ _ hclient => absurd (List.mem_of_getElem? hclient) List.not_mem_nil
  | append_singleton actions action ih =>
    have hsound := (Sound.listening settings address).steps actions
    have hsettings : ((listening settings address).steps actions).settings = settings :=
      settings_steps _ actions
    have hstep := Recounts.step hsound (shutdown_steps settings address actions)
      (hsettings.symm ▸ ih) action
    rw [hsettings] at hstep
    rw [steps_concat]
    exact hstep

end Server

/-! ## Before a shutdown -/

/-- Whether the server leaves, or has left. -/
def Stage.leaves : Stage → Bool
  | .leaving => true
  | .over .shutdown => true
  | _ => false

namespace Conversation

/-- Only an interruption makes the server leave. -/
theorem leaves_step (h : c.stage.leaves = false) {o : Occurrence} (ho : o ≠ .interrupted) :
    (c.step settings o).stage.leaves = false := by
  obtain ⟨stage, sent, read⟩ := c
  cases stage with
  | waiting =>
    cases o with
    | arrived arrival now =>
      cases arrival with
      | message m => cases m <;> rfl
      | _ => rfl
    | interrupted => exact absurd rfl ho
    | _ => rfl
  | leaving => exact absurd h nofun
  | _ => cases o <;> exact h

theorem leaves_steps (h : c.stage.leaves = false) {os : List Occurrence}
    (hos : Occurrence.interrupted ∉ os) : (c.steps settings os).stage.leaves = false := by
  induction os generalizing c with
  | nil => exact h
  | cons o os ih =>
    obtain ⟨ho, hos⟩ := not_or.mp (List.mem_cons.not.mp hos)
    exact ih (leaves_step h (Ne.symm ho)) hos

/-- **What is sent without an interruption** is what is due, but for the times and
for at most one message. -/
theorem timed_sent_steps (settings : Settings.Server) (path : String) (now : Binary64)
    {os : List Occurrence} (hos : Occurrence.interrupted ∉ os)
    (hc : c = (start settings path now).steps settings os) :
    Timed c.sent (course settings path c.read) ∨
      (c.outgoing?.isSome = true ∨ c.stage = .over .unsendable) ∧
        Timed c.sent (course settings path c.read).dropLast := by
  obtain ⟨⟨replies, hreplies, hfulfils⟩, -⟩ := (Kept.start path now).steps os
  have hleaves : ((start settings path now).steps settings os).stage.leaves = false :=
    leaves_steps rfl hos
  rw [← hc] at hreplies hfulfils hleaves
  have hdue : Timed (welcomeMessage settings path now :: replies.flatten)
      (course settings path c.read) := .cons ⟨now, rfl⟩ (timed_replies hreplies)
  have hstage : c.stage ≠ .over .shutdown := by
    intro hshutdown
    rw [hshutdown] at hleaves
    exact absurd hleaves nofun
  rcases hfulfils.eq_or_dropLast hstage with hsent | ⟨hcause, hsent⟩
  · exact .inl (hsent ▸ hdue)
  · exact .inr ⟨hcause, hsent ▸ hdue.dropLast⟩

end Conversation

/-- **A conversation is isolated** from the others. -/
structure Isolated (settings : Settings.Server) (actions : List Server.Action) (id : ConnectionId)
    (client : Client) (c : Conversation) : Prop where
  /-- It is held with the client that has asked for an upgrade under its number. -/
  asked : (actions.filterMap Server.Action.asks?)[id]? = some client.request
  /-- What happens in it is what the steps about it tell, from its beginning on. -/
  own : ∃ before now after, actions = before ++ .upgrade id now :: after ∧
    c = (Conversation.start settings client.path now).steps settings (Server.heard id false after)
  /-- What is sent in it is determined by the settings, by its path, and by the
  messages read in it, but for the times. At most the last message is missing:
  it is on its way, or could not be sent. -/
  sent : Timed c.sent (course settings client.path c.read) ∨
    (c.outgoing?.isSome = true ∨ c.stage = .over .unsendable) ∧
      Timed c.sent (course settings client.path c.read).dropLast

/-- **Connections are isolated from each other, and exactly tracked**: whatever the
clients do, in any order, the registry is exact; and each conversation is
isolated as long as no shutdown has been asked for. -/
theorem isolated_steps (settings : Settings.Server) (address : Net.SocketAddress)
    (actions : List Server.Action) :
    ((Server.listening settings address).steps actions).Tracked ∧
    ((∀ action ∈ actions, action.shutsDown = false) → ∀ id client c,
      ((Server.listening settings address).steps actions).clients[id]? = some client →
      client.progress.conversation? = some c → Isolated settings actions id client c) := by
  refine ⟨Server.tracked_steps settings address actions, fun h id client c hclient hc => ?_⟩
  obtain ⟨before, now, after, hactions, hown⟩ :=
    Server.recounts_steps settings address actions id client hclient c hc
  have hbefore : before.any Server.Action.shutsDown = false := by
    rw [List.any_eq_false]
    intro action haction
    rw [h action (hactions ▸ List.mem_append_left _ haction)]
    exact Bool.false_ne_true
  rw [hbefore] at hown
  have hafter : ∀ action ∈ after, action.shutsDown = false := fun action haction =>
    h action (hactions ▸ List.mem_append_right _ (List.mem_cons_of_mem _ haction))
  refine ⟨?_, ⟨before, now, after, hactions, hown⟩, ?_⟩
  · rw [← Server.requests_steps settings address h, List.getElem?_map, hclient]
    rfl
  · exact Conversation.timed_sent_steps settings client.path now
      (Server.interrupted_not_mem_heard hafter) hown

/-- Two clients at a time. The one gets an echo; the other one is gone before its
ping is answered. -/
def crossing : List Server.Action :=
  [.request (.v4 .loopback 50000) "/left", .request (.v4 .loopback 50001) "/right",
    .answer 1, .answer 0, .upgrade 1 (.ofBits 0), .upgrade 0 (.ofBits 0),
    .converse 1 .delivered, .converse 0 .delivered,
    .converse 0 (.arrived (.message (.text "hello")) (.ofBits 0)),
    .converse 1 (.arrived (.message (.ping [7])) (.ofBits 0)),
    .converse 0 .delivered, .converse 1 .undelivered, .remove 1]

/-- Nothing of this disturbs the one, whose echo has not been counted yet. -/
theorem isolated_steps_crossing :
    (∀ action ∈ crossing, action.shutsDown = false) ∧ ∃ client c,
      ((Server.listening {} (.v4 .loopback 3001)).steps crossing).clients[0]? = some client ∧
      client.progress = .served c ∧ c.stage = .counting ∧
      ((Server.listening {} (.v4 .loopback 3001)).steps crossing).activeConnections = 1 ∧
      Isolated {} crossing 0 client c :=
  ⟨by decide, _, _, rfl, rfl, rfl, rfl,
    (isolated_steps {} (.v4 .loopback 3001) crossing).2 (by decide) 0 _ _ rfl rfl⟩

end EchoProbe.Echo
