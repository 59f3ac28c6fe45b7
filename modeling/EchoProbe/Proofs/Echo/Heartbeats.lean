import Mathlib.Data.List.Induction
import EchoProbe.Proofs.Message
import EchoProbe.Proofs.Echo.Server

/-!
# Heartbeats are not echoed

What happens to a conversation from outside is told by *turns*: something arrives,
the server shuts down, or from now on its messages do not go out any more, since
they cannot be sent or since nobody takes them (`Turn`). What does not go out any
more never will again. Every conversation is told by turns, up to an echo that has
not been counted yet (`Comes.steps`, `Comes.exists_along`).

Beside a talk that has heartbeats there is the one in which they are left out. As
long as messages go out, both wait for the next turn, and a heartbeat has been
answered at most; afterwards nothing is sent in either of them, though the one may
be over because a pong could not be sent, and the other still wait (`Follows`). The
induction is on the turns. So the echoes are the same, and what the registry counts
are the echoes (`Server.Sound.framesEchoed?`).
-/

namespace EchoProbe.Echo

variable {settings : Settings.Server} {c : Conversation}

/-! ## What the other end does -/

/-- **How the messages fare** that the server sends. -/
inductive Outlet where
  /-- They go out. -/
  | goes
  /-- They cannot be sent. -/
  | fails
  /-- They are on their way for ever. -/
  | stalls
deriving DecidableEq, Repr

/-- What becomes of a message on its way. An echo that has gone out is counted. -/
def Outlet.happens : Outlet → List Occurrence
  | .goes => [.delivered, .counted]
  | .fails => [.undelivered]
  | .stalls => []

/-- **What happens to a conversation** from outside, one thing after the other. -/
inductive Turn where
  /-- Something arrives. -/
  | arrives (arrival : Arrival) (now : Binary64)
  /-- From now on the messages do not go out any more. -/
  | blocks (outlet : Outlet)
  /-- The server shuts down. -/
  | interrupts
deriving DecidableEq, Repr

/-- What happens, made plain. -/
def Turn.plain? : Turn → Option Turn
  | .arrives arrival now => arrival.plain?.map (.arrives · now)
  | turn => some turn

/-- **A conversation with the other end.** -/
structure Talk where
  /-- How the messages fare. -/
  outlet : Outlet
  /-- The conversation. -/
  conversation : Conversation
deriving DecidableEq, Repr

namespace Talk

/-- What these occurrences do, and what then becomes of the message on its way. -/
def happen (settings : Settings.Server) (t : Talk) (os : List Occurrence) : Talk :=
  { t with conversation := t.conversation.steps settings (os ++ t.outlet.happens) }

/-- The welcome. -/
def start (settings : Settings.Server) (path : String) (now : Binary64) (outlet : Outlet) : Talk :=
  happen settings ⟨outlet, .start settings path now⟩ []

/-- **One turn.** What does not go out any more never will again. -/
def take (settings : Settings.Server) (t : Talk) : Turn → Talk
  | .arrives arrival now => t.happen settings [.arrived arrival now]
  | .blocks outlet => if t.outlet = .goes then { t with outlet } else t
  | .interrupts => t.happen settings [.interrupted]

/-- **Turns in a row.** -/
def along (settings : Settings.Server) (t : Talk) (turns : List Turn) : Talk :=
  turns.foldl (take settings) t

end Talk

/-- **The echoes that have been sent**, in order: the data messages behind the welcome. -/
def Conversation.echoed (c : Conversation) : List Message :=
  c.sent.tail.filter (·.payload?.isSome)

theorem Conversation.length_echoed (c : Conversation) : c.echoed.length = c.echoes :=
  List.countP_eq_length_filter.symm

/-! ## Every conversation is such a talk -/

namespace Talk

theorem along_concat (settings : Settings.Server) (t : Talk) (turns : List Turn) (turn : Turn) :
    t.along settings (turns ++ [turn]) = (t.along settings turns).take settings turn :=
  List.foldl_append

end Talk

/-- **How far a conversation has come** with the other end, if its messages have gone out
so far. -/
inductive Comes (settings : Settings.Server) (path : String) (now : Binary64) :
    Conversation → Prop
  /-- The welcome is on its way. -/
  | greeting : Comes settings path now (.start settings path now)
  /-- Nothing is on its way. -/
  | settled {turns : List Turn} {t : Talk}
      (ht : (Talk.start settings path now .goes).along settings turns = t)
      (hgoes : t.outlet = .goes)
      (hstage : t.conversation.stage = .waiting ∨ ∃ cause, t.conversation.stage = .over cause) :
    Comes settings path now t.conversation
  /-- The reply is on its way to what happened last. -/
  | replying {turns : List Turn} {t : Talk} {turn : Turn} {o : Occurrence} {m : Message}
      (ht : (Talk.start settings path now .goes).along settings turns = t)
      (hgoes : t.outlet = .goes)
      (hturn : ∀ t : Talk, t.take settings turn = t.happen settings [o])
      (hout : (t.conversation.step settings o).outgoing? = some m) :
    Comes settings path now (t.conversation.step settings o)
  /-- An echo has gone out. -/
  | counting {turns : List Turn} {t : Talk} {turn : Turn} {o : Occurrence}
      (ht : (Talk.start settings path now .goes).along settings turns = t)
      (hgoes : t.outlet = .goes)
      (hturn : ∀ t : Talk, t.take settings turn = t.happen settings [o])
      (hstage : (t.conversation.steps settings [o, .delivered]).stage = .counting) :
    Comes settings path now (t.conversation.steps settings [o, .delivered])
  /-- A message could not be sent. -/
  | failed {turns : List Turn} {outlet : Outlet} {t : Talk} {cause : Cause}
      (ht : (Talk.start settings path now outlet).along settings turns = t)
      (hover : t.conversation.stage = .over cause) :
    Comes settings path now t.conversation

namespace Comes

variable {path : String} {now : Binary64}

/-- **What has happened can be told by turns**, up to the counting of an echo. -/
theorem exists_along (h : Comes settings path now c) :
    ∃ outlet turns, ((Talk.start settings path now outlet).along settings turns).conversation
      = c.step settings .counted := by
  cases h with
  | greeting => exact ⟨.stalls, [], rfl⟩
  | @settled turns t ht _ hstage =>
    refine ⟨.goes, turns, ?_⟩
    rw [ht]
    obtain ⟨outlet, stage, sent, read⟩ := t
    obtain rfl | ⟨cause, rfl⟩ := hstage
    · rfl
    · rfl
  | @replying turns t turn o m ht hgoes hturn hout =>
    refine ⟨.goes, turns ++ [.blocks .stalls] ++ [turn], ?_⟩
    rw [Talk.along_concat, Talk.along_concat, ht, hturn, Talk.take, if_pos hgoes]
    show t.conversation.step settings o = (t.conversation.step settings o).step settings .counted
    generalize t.conversation.step settings o = c at hout
    obtain ⟨stage, sent, read⟩ := c
    cases stage with
    | counting => nomatch hout
    | _ => rfl
  | @counting turns t turn o ht hgoes hturn hstage =>
    refine ⟨.goes, turns ++ [turn], ?_⟩
    rw [Talk.along_concat, ht, hturn, Talk.happen, hgoes]
    rfl
  | @failed turns outlet t cause ht hover =>
    refine ⟨outlet, turns, ?_⟩
    rw [ht]
    obtain ⟨outlet, stage, sent, read⟩ := t
    cases hover
    rfl

/-- One turn more after which nothing is on its way. -/
theorem settled_concat {turns : List Turn} {t : Talk} {turn : Turn} {o : Occurrence}
    (ht : (Talk.start settings path now .goes).along settings turns = t) (hgoes : t.outlet = .goes)
    (hturn : ∀ t : Talk, t.take settings turn = t.happen settings [o])
    (hc : t.conversation.steps settings [o, .delivered, .counted] = c)
    (hstage : c.stage = .waiting ∨ ∃ cause, c.stage = .over cause) :
    Comes settings path now c := by
  have ht' : (Talk.start settings path now .goes).along settings (turns ++ [turn])
      = ⟨.goes, c⟩ := by
    rw [Talk.along_concat, ht, hturn, Talk.happen, hgoes, ← hc]
    rfl
  exact .settled ht' rfl hstage

/-- One turn more after which the reply cannot be sent. -/
theorem failed_concat {turns : List Turn} {t : Talk} {turn : Turn} {o : Occurrence} {cause : Cause}
    (ht : (Talk.start settings path now .goes).along settings turns = t) (hgoes : t.outlet = .goes)
    (hturn : ∀ t : Talk, t.take settings turn = t.happen settings [o])
    (hc : t.conversation.steps settings [o, .undelivered] = c) (hover : c.stage = .over cause) :
    Comes settings path now c := by
  have ht' : (Talk.start settings path now .goes).along settings
      (turns ++ [.blocks .fails] ++ [turn]) = ⟨.fails, c⟩ := by
    rw [Talk.along_concat, Talk.along_concat, ht, hturn, Talk.take, if_pos hgoes, ← hc]
    rfl
  exact .failed ht' hover

/-- Something happens when nothing is on its way. -/
theorem step_settled {turns : List Turn} {t : Talk}
    (ht : (Talk.start settings path now .goes).along settings turns = t) (hgoes : t.outlet = .goes)
    (hwaiting : t.conversation.stage = .waiting) (o : Occurrence) :
    Comes settings path now (t.conversation.step settings o) := by
  have hsettled : Comes settings path now t.conversation := .settled ht hgoes (.inl hwaiting)
  obtain ⟨outlet, stage, sent, read⟩ := t
  cases hwaiting
  cases o with
  | arrived arrival time =>
    have hturn : ∀ t : Talk, t.take settings (.arrives arrival time)
        = t.happen settings [.arrived arrival time] := fun _ => rfl
    cases arrival with
    | message m =>
      cases m with
      | text content => exact .replying ht hgoes hturn rfl
      | binary content => exact .replying ht hgoes hturn rfl
      | ping data => exact .replying ht hgoes hturn rfl
      | pong data => exact settled_concat ht hgoes hturn rfl (.inl rfl)
      | close frame => exact settled_concat ht hgoes hturn rfl (.inr ⟨_, rfl⟩)
    | ended => exact settled_concat ht hgoes hturn rfl (.inr ⟨_, rfl⟩)
    | failed error => exact settled_concat ht hgoes hturn rfl (.inr ⟨_, rfl⟩)
  | interrupted =>
    have hturn : ∀ t : Talk, t.take settings .interrupts = t.happen settings [.interrupted] :=
      fun _ => rfl
    exact .replying ht hgoes hturn rfl
  | _ => exact hsettled

/-- What becomes of a message on its way. -/
theorem step_replying {turns : List Turn} {t : Talk} {turn : Turn} {o : Occurrence} {m : Message}
    (ht : (Talk.start settings path now .goes).along settings turns = t) (hgoes : t.outlet = .goes)
    (hturn : ∀ t : Talk, t.take settings turn = t.happen settings [o])
    (hout : (t.conversation.step settings o).outgoing? = some m) (o' : Occurrence) :
    Comes settings path now ((t.conversation.step settings o).step settings o') := by
  have hreplying := Comes.replying ht hgoes hturn hout
  have hdelivered : ∀ c', t.conversation.steps settings [o, .delivered, .counted] = c' →
      c'.stage = .waiting ∨ (∃ cause, c'.stage = .over cause) → Comes settings path now c' :=
    fun _ => settled_concat ht hgoes hturn
  have hundelivered : ∀ c' cause, t.conversation.steps settings [o, .undelivered] = c' →
      c'.stage = .over cause → Comes settings path now c' :=
    fun _ _ => failed_concat ht hgoes hturn
  have hcounting : (t.conversation.steps settings [o, .delivered]).stage = .counting →
      Comes settings path now (t.conversation.steps settings [o, .delivered]) :=
    .counting ht hgoes hturn
  simp only [Conversation.steps, List.foldl_cons, List.foldl_nil]
    at hdelivered hundelivered hcounting
  generalize t.conversation.step settings o = c at *
  obtain ⟨stage, sent, read⟩ := c
  cases stage with
  | greeting welcome =>
    cases o' with
    | delivered => exact hdelivered _ rfl (.inl rfl)
    | undelivered => exact hundelivered _ _ rfl rfl
    | _ => exact hreplying
  | echoing echo =>
    cases o' with
    | delivered => exact hcounting rfl
    | undelivered => exact hundelivered _ _ rfl rfl
    | _ => exact hreplying
  | answering pong =>
    cases o' with
    | delivered => exact hdelivered _ rfl (.inl rfl)
    | undelivered => exact hundelivered _ _ rfl rfl
    | _ => exact hreplying
  | leaving =>
    cases o' with
    | delivered => exact hdelivered _ rfl (.inr ⟨_, rfl⟩)
    | undelivered => exact hundelivered _ _ rfl rfl
    | _ => exact hreplying
  | _ => nomatch hout

/-- **One occurrence.** -/
theorem step (h : Comes settings path now c) (o : Occurrence) :
    Comes settings path now (c.step settings o) := by
  cases h with
  | greeting =>
    cases o with
    | delivered =>
      have ht : (Talk.start settings path now .goes).along settings [] = _ := rfl
      exact .settled ht rfl (.inl rfl)
    | undelivered =>
      have ht : (Talk.start settings path now .fails).along settings [] = _ := rfl
      exact .failed ht rfl
    | _ => exact .greeting
  | settled ht hgoes hstage =>
    rcases hstage with hwaiting | ⟨cause, hover⟩
    · exact step_settled ht hgoes hwaiting o
    · rw [show Conversation.step settings _ o = _ from Conversation.steps_of_over hover [o]]
      exact .settled ht hgoes (.inr ⟨cause, hover⟩)
  | replying ht hgoes hturn hout => exact step_replying ht hgoes hturn hout o
  | @counting turns t turn o' ht hgoes hturn hstage =>
    have hcounted : ∀ c', t.conversation.steps settings [o', .delivered, .counted] = c' →
        c'.stage = .waiting ∨ (∃ cause, c'.stage = .over cause) → Comes settings path now c' :=
      fun _ => settled_concat ht hgoes hturn
    have hcounting := Comes.counting ht hgoes hturn hstage
    simp only [Conversation.steps, List.foldl_cons, List.foldl_nil] at hcounted hcounting hstage ⊢
    generalize (t.conversation.step settings o').step settings .delivered = c at *
    obtain ⟨stage, sent, read⟩ := c
    cases hstage
    cases o with
    | counted => exact hcounted _ rfl (.inl rfl)
    | _ => exact hcounting
  | failed ht hover =>
    rw [show Conversation.step settings _ o = _ from Conversation.steps_of_over hover [o]]
    exact .failed ht hover

/-- **Occurrences in a row.** -/
theorem steps (settings : Settings.Server) (path : String) (now : Binary64)
    (os : List Occurrence) :
    Comes settings path now ((Conversation.start settings path now).steps settings os) := by
  induction os using List.reverseRecOn with
  | nil => exact .greeting
  | append_singleton os o ih =>
    rw [Conversation.steps_concat]
    exact ih.step o

end Comes

/-! ## One talk beside the other -/

/-- Nothing is sent, and nothing is to be counted, unless a message goes out. -/
theorem Conversation.sent_step_of_ne {o : Occurrence} (ho : o ≠ .delivered) :
    (c.step settings o).sent = c.sent ∧
      (c.stage.uncounted = 0 → (c.step settings o).stage.uncounted = 0) := by
  obtain ⟨stage, sent, read⟩ := c
  cases o with
  | delivered => exact absurd rfl ho
  | arrived arrival now =>
    cases stage with
    | waiting =>
      cases arrival with
      | message m => cases m <;> exact ⟨rfl, fun _ => rfl⟩
      | _ => exact ⟨rfl, fun _ => rfl⟩
    | _ => exact ⟨rfl, id⟩
  | counted => cases stage <;> exact ⟨rfl, fun _ => rfl⟩
  | undelivered => cases stage <;> exact ⟨rfl, id⟩
  | interrupted => cases stage <;> exact ⟨rfl, id⟩

theorem Conversation.sent_steps_of_ne {os : List Occurrence} (hos : ∀ o ∈ os, o ≠ .delivered) :
    (c.steps settings os).sent = c.sent ∧
      (c.stage.uncounted = 0 → (c.steps settings os).stage.uncounted = 0) := by
  induction os generalizing c with
  | nil => exact ⟨rfl, id⟩
  | cons o os ih =>
    rw [List.forall_mem_cons] at hos
    obtain ⟨hsent, huncounted⟩ := Conversation.sent_step_of_ne (c := c) hos.1
    obtain ⟨hsents, huncounteds⟩ := ih (c := c.step settings o) hos.2
    exact ⟨hsents.trans hsent, fun h => huncounteds (huncounted h)⟩

/-- **A talk without heartbeats** beside one that has them. As long as messages go out, the
conversations are at the same point; afterwards they need not be, but nothing is sent any
more. -/
structure Follows (t' t : Talk) : Prop where
  outlet : t'.outlet = t.outlet
  /-- The same echoes have been sent. -/
  echoed : t'.conversation.echoed = t.conversation.echoed
  /-- All of them have been counted. -/
  uncounted' : t'.conversation.stage.uncounted = 0
  uncounted : t.conversation.stage.uncounted = 0
  stage (hgoes : t.outlet = .goes) : t'.conversation.stage = t.conversation.stage ∧
    ((∃ cause, t.conversation.stage = .over cause) ∨ t.conversation.stage = .waiting ∧
      t'.conversation.sent ≠ [] ∧ t.conversation.sent ≠ [])

namespace Follows

variable {t t' : Talk}

theorem start (settings : Settings.Server) (path : String) (now : Binary64) (outlet : Outlet) :
    Follows (.start settings path now outlet) (.start settings path now outlet) := by
  cases outlet with
  | goes => exact ⟨rfl, rfl, rfl, rfl, fun _ => ⟨rfl, .inr ⟨rfl, nofun, nofun⟩⟩⟩
  | fails => exact ⟨rfl, rfl, rfl, rfl, nofun⟩
  | stalls => exact ⟨rfl, rfl, rfl, rfl, nofun⟩

/-- **When nothing goes out** nothing is sent. -/
theorem take_of_ne (settings : Settings.Server) (hne : t.outlet ≠ .goes) (turn : Turn) :
    (t.take settings turn).outlet = t.outlet ∧
      (t.take settings turn).conversation.echoed = t.conversation.echoed ∧
      (t.conversation.stage.uncounted = 0 →
        (t.take settings turn).conversation.stage.uncounted = 0) := by
  have hhappen : ∀ o : Occurrence, o ≠ .delivered →
      (t.happen settings [o]).conversation.echoed = t.conversation.echoed ∧
        (t.conversation.stage.uncounted = 0 →
          (t.happen settings [o]).conversation.stage.uncounted = 0) := by
    intro o ho
    have hos : ∀ o' ∈ [o] ++ t.outlet.happens, o' ≠ .delivered := by
      intro o' ho'
      rcases List.mem_append.mp ho' with ho' | ho'
      · exact List.mem_singleton.mp ho' ▸ ho
      · cases houtlet : t.outlet with
        | goes => exact absurd houtlet hne
        | fails =>
          rw [houtlet] at ho'
          obtain rfl := List.mem_singleton.mp ho'
          nofun
        | stalls =>
          rw [houtlet] at ho'
          exact absurd ho' List.not_mem_nil
    obtain ⟨hsent, huncounted⟩ := Conversation.sent_steps_of_ne hos
    exact ⟨congrArg (List.filter _ <| List.tail ·) hsent, huncounted⟩
  cases turn with
  | arrives arrival now => exact ⟨rfl, hhappen _ nofun⟩
  | blocks outlet =>
    rw [Talk.take, if_neg hne]
    exact ⟨rfl, rfl, id⟩
  | interrupts => exact ⟨rfl, hhappen _ nofun⟩

/-- So whatever happens then, the echoes stay the same. -/
theorem of_ne (h : Follows t' t) (hne : t.outlet ≠ .goes) (turn' turn : Turn) :
    Follows (t'.take settings turn') (t.take settings turn) := by
  obtain ⟨houtlet, hechoed, huncounted⟩ := take_of_ne settings hne turn
  obtain ⟨houtlet', hechoed', huncounted'⟩ := take_of_ne settings (h.outlet ▸ hne) turn'
  exact ⟨houtlet'.trans (h.outlet.trans houtlet.symm),
    hechoed'.trans (h.echoed.trans hechoed.symm), huncounted' h.uncounted', huncounted h.uncounted,
    fun hgoes => absurd (houtlet.symm.trans hgoes) hne⟩

/-- A conversation that is over stays so. -/
theorem happen_of_over {cause : Cause} (h : t.conversation.stage = .over cause)
    (os : List Occurrence) : t.happen settings os = t := by
  rw [Talk.happen, Conversation.steps_of_over h]

/-- One more message, for which both were waiting. -/
theorem echoed_append {sent sent' : List Message} (hsent : sent ≠ []) (hsent' : sent' ≠ [])
    {stage stage' : Stage} {read read' : List Message}
    (hechoed : (Conversation.mk stage' sent' read').echoed
      = (Conversation.mk stage sent read).echoed)
    (next : Stage) (m : Message) (after after' : List Message) :
    (Conversation.mk next (sent' ++ [m]) after').echoed
      = (Conversation.mk next (sent ++ [m]) after).echoed := by
  show (sent' ++ [m]).tail.filter _ = (sent ++ [m]).tail.filter _
  rw [List.tail_append_of_ne_nil hsent, List.tail_append_of_ne_nil hsent', List.filter_append,
    List.filter_append]
  exact congrArg (· ++ _) hechoed

/-- **A heartbeat** is answered, and nothing more. -/
theorem heartbeat (h : Follows t' t) {arrival : Arrival} (hheartbeat : arrival.isHeartbeat = true)
    (now : Binary64) : Follows t' (t.take settings (.arrives arrival now)) := by
  by_cases hgoes : t.outlet = .goes
  · obtain ⟨hsame, ⟨cause, hover⟩ | ⟨hwaiting, hsent', hsent⟩⟩ := h.stage hgoes
    · rw [Talk.take, happen_of_over hover]
      exact h
    · obtain ⟨houtlet, hechoed, huncounted', -, -⟩ := h
      obtain ⟨outlet, stage, sent, read⟩ := t
      cases hgoes
      cases hwaiting
      cases arrival with
      | message m =>
        cases m with
        | ping data =>
          refine ⟨houtlet, hechoed.trans ?_, huncounted', rfl,
            fun _ => ⟨hsame, .inr ⟨rfl, hsent', List.append_ne_nil_of_left_ne_nil hsent _⟩⟩⟩
          -- a pong is no echo
          show _ = (sent ++ [Message.pong data]).tail.filter _
          rw [List.tail_append_of_ne_nil hsent, List.filter_append]
          exact (List.append_nil _).symm
        | pong data =>
          exact ⟨houtlet, hechoed, huncounted', rfl, fun _ => ⟨hsame, .inr ⟨rfl, hsent', hsent⟩⟩⟩
        | _ => nomatch hheartbeat
      | _ => nomatch hheartbeat
  · obtain ⟨houtlet, hechoed, huncounted⟩ := take_of_ne settings hgoes (.arrives arrival now)
    exact ⟨h.outlet.trans houtlet.symm, h.echoed.trans hechoed.symm, h.uncounted',
      huncounted h.uncounted, fun hgoes' => absurd (houtlet.symm.trans hgoes') hgoes⟩

/-- **What is no heartbeat** does the same in both. -/
theorem arrives (h : Follows t' t) {arrival : Arrival} (hplain : arrival.isHeartbeat = false)
    (now : Binary64) :
    Follows (t'.take settings (.arrives arrival.asText now))
      (t.take settings (.arrives arrival now)) := by
  by_cases hgoes : t.outlet = .goes
  · obtain ⟨hsame, ⟨cause, hover⟩ | ⟨hwaiting, hsent', hsent⟩⟩ := h.stage hgoes
    · rw [Talk.take, Talk.take, happen_of_over hover, happen_of_over (hsame.trans hover)]
      exact h
    · obtain ⟨houtlet, hechoed, -, -, -⟩ := h
      obtain ⟨outlet, stage, sent, read⟩ := t
      obtain ⟨outlet', stage', sent', read'⟩ := t'
      cases hgoes
      cases houtlet
      cases hwaiting
      cases hsame
      have hecho : ∀ m after after',
          Follows ⟨.goes, ⟨.waiting, sent' ++ [m], after'⟩⟩
            ⟨.goes, ⟨.waiting, sent ++ [m], after⟩⟩ :=
        fun m after after' => ⟨rfl, echoed_append hsent hsent' hechoed .waiting m after after', rfl,
          rfl, fun _ => ⟨rfl, .inr ⟨rfl, List.append_ne_nil_of_left_ne_nil hsent' _,
            List.append_ne_nil_of_left_ne_nil hsent _⟩⟩⟩
      have hover : ∀ cause after after',
          Follows ⟨.goes, ⟨.over cause, sent', after'⟩⟩ ⟨.goes, ⟨.over cause, sent, after⟩⟩ :=
        fun cause _ _ => ⟨rfl, hechoed, rfl, rfl, fun _ => ⟨rfl, .inl ⟨cause, rfl⟩⟩⟩
      cases arrival with
      | message m =>
        cases m with
        | text content => exact hecho _ _ _
        | binary content => exact hecho _ _ _
        | close frame => exact hover _ _ _
        | _ => nomatch hplain
      | ended => exact hover _ _ _
      | failed error => exact hover _ _ _
  · exact h.of_ne hgoes _ _

/-- **A shutdown** ends both with the same goodbye. -/
theorem interrupts (h : Follows t' t) :
    Follows (t'.take settings .interrupts) (t.take settings .interrupts) := by
  by_cases hgoes : t.outlet = .goes
  · obtain ⟨hsame, ⟨cause, hover⟩ | ⟨hwaiting, hsent', hsent⟩⟩ := h.stage hgoes
    · rw [Talk.take, Talk.take, happen_of_over hover, happen_of_over (hsame.trans hover)]
      exact h
    · obtain ⟨houtlet, hechoed, -, -, -⟩ := h
      obtain ⟨outlet, stage, sent, read⟩ := t
      obtain ⟨outlet', stage', sent', read'⟩ := t'
      cases hgoes
      cases houtlet
      cases hwaiting
      cases hsame
      exact ⟨rfl, echoed_append hsent hsent' hechoed (.over .shutdown) goodbye read read', rfl, rfl,
        fun _ => ⟨rfl, .inl ⟨_, rfl⟩⟩⟩
  · exact h.of_ne hgoes _ _

/-- **From now on** nothing goes out for either of them. -/
theorem blocks (h : Follows t' t) (outlet : Outlet) :
    Follows (t'.take settings (.blocks outlet)) (t.take settings (.blocks outlet)) := by
  by_cases hgoes : t.outlet = .goes
  · rw [Talk.take, Talk.take, if_pos hgoes, if_pos (h.outlet.trans hgoes)]
    exact ⟨rfl, h.echoed, h.uncounted', h.uncounted, fun _ => h.stage hgoes⟩
  · exact h.of_ne hgoes _ _

/-- **Every other turn** does the same in both. -/
theorem take (h : Follows t' t) {turn turn' : Turn} (hplain : turn.plain? = some turn') :
    Follows (t'.take settings turn') (t.take settings turn) := by
  cases turn with
  | arrives arrival now =>
    cases hheartbeat : arrival.isHeartbeat with
    | true =>
      rw [Turn.plain?, Arrival.plain?_of_isHeartbeat hheartbeat] at hplain
      nomatch hplain
    | false =>
      rw [Turn.plain?, Arrival.plain?_of_not_isHeartbeat hheartbeat] at hplain
      obtain rfl := Option.some.inj hplain
      exact h.arrives hheartbeat now
  | blocks outlet =>
    obtain rfl := Option.some.inj hplain
    exact h.blocks outlet
  | interrupts =>
    obtain rfl := Option.some.inj hplain
    exact h.interrupts

/-- **Turns in a row**, beside the same turns made plain. -/
theorem along (h : Follows t' t) (turns : List Turn) :
    Follows (t'.along settings (turns.filterMap Turn.plain?)) (t.along settings turns) := by
  induction turns generalizing t t' with
  | nil => exact h
  | cons turn turns ih =>
    cases hplain : turn.plain? with
    | none =>
      rw [List.filterMap_cons_none hplain]
      cases turn with
      | arrives arrival now =>
        cases hheartbeat : arrival.isHeartbeat with
        | true => exact ih (h.heartbeat hheartbeat now)
        | false =>
          rw [Turn.plain?, Arrival.plain?_of_not_isHeartbeat hheartbeat] at hplain
          nomatch hplain
      | _ => nomatch hplain
    | some turn' =>
      rw [List.filterMap_cons_some hplain]
      exact ih (h.take hplain)

end Follows

/-! ## The clients of a server -/

namespace Server

variable {s : Server} {id : ConnectionId}

/-- The conversation with a client, once there is one. -/
def conversation? (s : Server) (id : ConnectionId) : Option Conversation :=
  (s.progress? id).bind Progress.conversation?

/-- **How many echoes the registry has counted** for a client, or had counted when the client
was taken out. -/
def framesEchoed? (s : Server) (id : ConnectionId) : Option Nat :=
  match s.progress? id with
  | some (.served _) => (s.registry.get? id).map Connection.framesEchoed
  | some (.removed _ entry) => entry.map Connection.framesEchoed
  | some (.gone _ entry) => entry.map Connection.framesEchoed
  | _ => none

/-- It has counted those that have been sent, unless one has been sent just now. -/
theorem Sound.framesEchoed? (h : s.Sound) (hc : s.conversation? id = some c)
    (huncounted : c.stage.uncounted = 0) : s.framesEchoed? id = some c.echoes := by
  obtain ⟨progress, hprogress, hconversation⟩ := Option.bind_eq_some_iff.mp hc
  obtain ⟨client, hclient, htracks⟩ := h.of_progress? hprogress
  rw [Server.framesEchoed?, hprogress]
  generalize s.registry.get? id = entry at htracks
  cases htracks with
  | served _ hcount =>
    obtain rfl := Option.some.inj hconversation
    rw [huncounted] at hcount
    exact congrArg some hcount
  | removed =>
    obtain rfl := Option.some.inj hconversation
    rfl
  | gone =>
    obtain rfl := Option.some.inj hconversation
    rfl
  | _ => nomatch hconversation

/-- It began as every conversation does. -/
theorem Sound.exists_comes (h : s.Sound) (hc : s.conversation? id = some c) :
    ∃ path now, Comes s.settings path now c := by
  obtain ⟨progress, hprogress, hconversation⟩ := Option.bind_eq_some_iff.mp hc
  obtain ⟨client, hclient, htracks⟩ := h.of_progress? hprogress
  have htold : ∀ {c}, Told s.settings s.shutdown client.path c →
      ∃ path now, Comes s.settings path now c := by
    rintro c ⟨now, os, rfl, -⟩
    exact ⟨client.path, now, Comes.steps s.settings client.path now os⟩
  generalize s.registry.get? id = entry at htracks
  cases htracks with
  | served h' => exact Option.some.inj hconversation ▸ htold h'
  | removed h' => exact Option.some.inj hconversation ▸ htold h'
  | gone h' => exact Option.some.inj hconversation ▸ htold h'
  | _ => nomatch hconversation

end Server

end EchoProbe.Echo
