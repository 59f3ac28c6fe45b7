import Mathlib.Data.List.Induction
import EchoProbe.Proofs.Telling
import EchoProbe.Session.Rendezvous

/-!
# A channel releases at most once

A channel is told by its events in order. What becomes of its waits can be read
off the replies alone: a wait begins, and it completes at once or when it looks
again, or it is given up. `Ledger` keeps this account, with one entry for each
wait in the order in which they began; a wait of another rendezvous is none of
them.

The sender is used up by its first event, and the receiver by the first wait.
So there are three places where a channel can be (`Stands`): nobody has waited;
the first wait is pending; or the first wait is over. In the first two, what was
sent is still there for the first wait, and in the last two, every other wait has
been cancelled. The induction is on the events, at the end, and the main result
reads the promises of a rendezvous off these places (`releasesOnce_steps`).
-/

namespace EchoProbe.Session.Channel

/-! ## The account of the waits -/

/-- **What has become of a wait.** -/
inductive Fate where
  /-- It has not returned. -/
  | pending
  /-- It has returned this. -/
  | completed (handoff : Handoff)
  /-- It was given up before it returned. -/
  | abandoned
deriving DecidableEq, Repr

/-- Only a pending wait can still come to something. -/
def Fate.settle (outcome : Fate) : Fate → Fate
  | .pending => outcome
  | fate => fate

/-- **A channel and what has become of its waits**, the first first. -/
structure Ledger where
  /-- The channel. -/
  channel : Channel
  /-- The fates of the waits. -/
  waits : List Fate
deriving DecidableEq, Repr

namespace Ledger

/-- A channel that nobody has used. -/
def start : Ledger := ⟨pair, []⟩

/-- What an event makes of the waits, given what it tells those who take part. -/
def settled (waits : List Fate) (event : Event) (reply : Reply) : List Fate :=
  match event with
  | .wait => waits ++ [reply.completed.elim .pending .completed]
  | .abandon => waits.map (Fate.settle .abandoned)
  | .poll => waits.map (Fate.settle (reply.completed.elim .pending .completed))
  | .send | .drop | .immediate => waits

/-- One event. -/
def step (l : Ledger) (event : Event) : Ledger :=
  ⟨(l.channel.step event).1, settled l.waits event (l.channel.step event).2⟩

/-- **Events in a row.** -/
def steps (l : Ledger) (events : List Event) : Ledger := events.foldl step l

theorem steps_concat (l : Ledger) (events : List Event) (event : Event) :
    l.steps (events ++ [event]) = (l.steps events).step event :=
  List.foldl_append

end Ledger

/-! ## What the sender has done -/

/-- **The sender has sent successfully** before the first wait, or while it was
pending. -/
def SentInTime (events : List Event) : Prop :=
  Somewhere events fun before event _ => event = .send ∧
    ((Ledger.start.steps before).channel.step event).2.effect = some true ∧
    ((Ledger.start.steps before).waits[0]? = none ∨
      (Ledger.start.steps before).waits[0]? = some .pending)

/-- **The sender was dropped unsent.** -/
def DroppedUnsent (events : List Event) : Prop :=
  Somewhere events fun before event _ => event = .drop ∧ .send ∉ before

variable {events : List Event} {event : Event} {sender : Sender} {fate fate' : Fate}

theorem SentInTime.send_mem (h : SentInTime events) : .send ∈ events := by
  obtain ⟨before, event, after, rfl, rfl, -⟩ := h
  exact List.mem_append_right _ List.mem_cons_self

theorem DroppedUnsent.drop_mem (h : DroppedUnsent events) : .drop ∈ events := by
  obtain ⟨before, event, after, rfl, rfl, -⟩ := h
  exact List.mem_append_right _ List.mem_cons_self

/-- **What has become of the sender** by these events. Its first event uses it up. -/
inductive Uses (events : List Event) : Sender → Prop
  | ready (hsend : .send ∉ events) (hdrop : .drop ∉ events) : Uses events .ready
  | sent (hsend : .send ∈ events) (hdrop : ¬ DroppedUnsent events) : Uses events .sent
  | dropped (hdrop : DroppedUnsent events) (hsend : ¬ SentInTime events) : Uses events .dropped

namespace Uses

/-- An event leaves a sender as it is that has been used, and every other one if the event
is none of its own. -/
theorem other (h : Uses events sender)
    (hsender : (Ledger.start.steps events).channel.sender = sender)
    (hevent : sender = .ready → event ≠ .send ∧ event ≠ .drop) :
    Uses (events ++ [event]) sender := by
  cases h with
  | ready hsend hdrop =>
    obtain ⟨hnotSend, hnotDrop⟩ := hevent rfl
    constructor
    · rw [List.mem_append, List.mem_singleton]
      exact not_or.mpr ⟨hsend, Ne.symm hnotSend⟩
    · rw [List.mem_append, List.mem_singleton]
      exact not_or.mpr ⟨hdrop, Ne.symm hnotDrop⟩
  | sent hsend hdrop =>
    refine .sent (List.mem_append_left _ hsend) ?_
    rw [DroppedUnsent, somewhere_concat_iff]
    rintro (h | ⟨-, h⟩)
    · exact hdrop h
    · exact h hsend
  | dropped hdrop hsend =>
    constructor
    · rw [DroppedUnsent, somewhere_concat_iff]
      exact .inl hdrop
    · rw [SentInTime, somewhere_concat_iff]
      rintro (h | ⟨rfl, heffect, -⟩)
      · exact hsend h
      · -- a sender that was dropped has nothing to say
        simp only [step, Channel.send, hsender] at heffect
        cases heffect

theorem send (h : Uses events sender)
    (hsender : (Ledger.start.steps events).channel.sender = sender) :
    Uses (events ++ [.send]) (sender.use .sent) := by
  cases sender with
  | ready =>
    cases h with
    | ready hsend hdrop =>
      refine .sent (List.mem_append_right _ (List.mem_singleton_self _)) ?_
      rw [DroppedUnsent, somewhere_concat_iff]
      rintro (h | ⟨⟨⟩, -⟩)
      exact hdrop (DroppedUnsent.drop_mem h)
  | sent => exact h.other hsender nofun
  | dropped => exact h.other hsender nofun

theorem drop (h : Uses events sender)
    (hsender : (Ledger.start.steps events).channel.sender = sender) :
    Uses (events ++ [.drop]) (sender.use .dropped) := by
  cases sender with
  | ready =>
    cases h with
    | ready hsend hdrop =>
      constructor
      · rw [DroppedUnsent, somewhere_concat_iff]
        exact .inr ⟨rfl, hsend⟩
      · rw [SentInTime, somewhere_concat_iff]
        rintro (h | ⟨⟨⟩, -⟩)
        exact hsend (SentInTime.send_mem h)
  | sent => exact h.other hsender nofun
  | dropped => exact h.other hsender nofun

end Uses

/-! ## Where a channel can be -/

/-- **How the first wait has ended**, given what has become of the sender. -/
inductive Settled (events : List Event) : Sender → Fate → Prop
  | proceeded (h : SentInTime events) : Settled events .sent (.completed .proceed)
  | cancelled : Settled events .dropped (.completed .cancelled)
  | abandoned (sender : Sender) : Settled events sender .abandoned

/-- All waits but the first are cancelled. -/
def cancelledWaits (n : Nat) : List Fate := List.replicate n (.completed .cancelled)

/-- **Where a channel can be** after these events. -/
inductive Stands (events : List Event) : Ledger → Prop
  /-- Nobody has waited. -/
  | idle {sender : Sender} (huses : Uses events sender) (hcount : events.count Event.wait = 0)
      (hsent : sender = .sent → SentInTime events) : Stands events ⟨⟨sender, .idle⟩, []⟩
  /-- The first wait is pending. -/
  | waiting {sender : Sender} {n : Nat} (huses : Uses events sender)
      (hcount : events.count Event.wait = n + 1) (hsent : sender = .sent → SentInTime events) :
    Stands events ⟨⟨sender, .waiting⟩, .pending :: cancelledWaits n⟩
  /-- The first wait is over. -/
  | gone {sender : Sender} {fate : Fate} {n : Nat} (huses : Uses events sender)
      (hcount : events.count Event.wait = n + 1) (hsettled : Settled events sender fate) :
    Stands events ⟨⟨sender, .gone⟩, fate :: cancelledWaits n⟩

theorem count_wait_concat_wait (events : List Event) :
    (events ++ [Event.wait]).count Event.wait = events.count Event.wait + 1 :=
  List.count_append

theorem count_wait_concat_of_ne (h : event ≠ .wait) :
    (events ++ [event]).count Event.wait = events.count Event.wait := by
  rw [List.count_append, List.count_singleton, if_neg (by simpa using h)]
  rfl

theorem SentInTime.concat (h : SentInTime events) (event : Event) :
    SentInTime (events ++ [event]) := by
  rw [SentInTime, somewhere_concat_iff]
  exact .inl h

/-- What is sent before the first wait is over is sent in time. -/
theorem sentInTime_send {receiver : Receiver} {waits : List Fate}
    (hl : Ledger.start.steps events = ⟨⟨sender, receiver⟩, waits⟩) (hreceiver : receiver ≠ .gone)
    (hwaits : waits[0]? = none ∨ waits[0]? = some .pending)
    (hsent : sender = .sent → SentInTime events) (h : sender.use .sent = .sent) :
    SentInTime (events ++ [.send]) := by
  cases sender with
  | ready =>
    rw [SentInTime, somewhere_concat_iff, hl]
    refine .inr ⟨rfl, congrArg some ?_, hwaits⟩
    exact bne_iff_ne.mpr hreceiver
  | sent => exact (hsent rfl).concat _
  | dropped => cases h

theorem sentInTime_drop (hsent : sender = .sent → SentInTime events)
    (h : sender.use .dropped = .sent) : SentInTime (events ++ [.drop]) := by
  cases sender with
  | sent => exact (hsent rfl).concat _
  | _ => cases h

/-- What is over stays as it is. -/
theorem Settled.concat (h : Settled events sender fate) (event : Event) :
    Settled (events ++ [event]) sender fate := by
  cases h with
  | proceeded h => exact .proceeded (h.concat event)
  | cancelled => exact .cancelled
  | abandoned sender => exact .abandoned sender

/-- The sender plays no part in it any more. -/
theorem Settled.use (h : Settled events sender fate) (outcome : Sender) :
    Settled events (sender.use outcome) fate := by
  cases h with
  | proceeded h => exact .proceeded h
  | cancelled => exact .cancelled
  | abandoned sender => exact .abandoned _

theorem Settled.settle_eq (h : Settled events sender fate) (outcome : Fate) :
    Fate.settle outcome fate = fate := by
  cases h <;> rfl

/-- Of all waits only the first can be pending. -/
theorem map_settle_cons (outcome fate : Fate) (n : Nat) :
    (fate :: cancelledWaits n).map (Fate.settle outcome)
      = Fate.settle outcome fate :: cancelledWaits n :=
  congrArg (Fate.settle outcome fate :: ·) List.map_replicate

/-- One wait more is cancelled. -/
theorem cons_cancelledWaits_concat (fate : Fate) (n : Nat) :
    fate :: cancelledWaits n ++ [.completed .cancelled] = fate :: cancelledWaits (n + 1) :=
  congrArg (fate :: ·) List.replicate_succ'.symm

/-! ## One event after the other -/

/-- **Before the first wait.** -/
theorem stands_of_idle (huses : Uses events sender) (hcount : events.count Event.wait = 0)
    (hsent : sender = .sent → SentInTime events)
    (hl : Ledger.start.steps events = ⟨⟨sender, .idle⟩, []⟩) (event : Event) :
    Stands (events ++ [event]) (Ledger.step ⟨⟨sender, .idle⟩, []⟩ event) := by
  have hsender : (Ledger.start.steps events).channel.sender = sender := by rw [hl]
  have hsame : event ≠ .wait → (events ++ [event]).count Event.wait = 0 :=
    fun hne => (count_wait_concat_of_ne hne).trans hcount
  have hstays : event ≠ .send ∧ event ≠ .drop → event ≠ .wait →
      Stands (events ++ [event]) ⟨⟨sender, .idle⟩, []⟩ := fun hother hne =>
    .idle (huses.other hsender fun _ => hother) (hsame hne) fun h => (hsent h).concat event
  cases event with
  | send =>
    exact .idle (huses.send hsender) (hsame nofun) (sentInTime_send hl nofun (.inl rfl) hsent)
  | drop => exact .idle (huses.drop hsender) (hsame nofun) (sentInTime_drop hsent)
  | wait =>
    have hfirst : (events ++ [Event.wait]).count Event.wait = 0 + 1 := by
      rw [count_wait_concat_wait, hcount]
    have huses := huses.other hsender fun _ => (⟨nofun, nofun⟩ : _ ∧ Event.wait ≠ .drop)
    cases sender with
    | ready => exact .waiting huses hfirst nofun
    | sent => exact .gone huses hfirst (.proceeded ((hsent rfl).concat _))
    | dropped => exact .gone huses hfirst .cancelled
  | poll => exact hstays ⟨nofun, nofun⟩ nofun
  | abandon => exact hstays ⟨nofun, nofun⟩ nofun
  | immediate => exact hstays ⟨nofun, nofun⟩ nofun

/-- **While the first wait is pending.** -/
theorem stands_of_waiting {n : Nat} (huses : Uses events sender)
    (hcount : events.count Event.wait = n + 1) (hsent : sender = .sent → SentInTime events)
    (hl : Ledger.start.steps events = ⟨⟨sender, .waiting⟩, .pending :: cancelledWaits n⟩)
    (event : Event) :
    Stands (events ++ [event])
      (Ledger.step ⟨⟨sender, .waiting⟩, .pending :: cancelledWaits n⟩ event) := by
  have hsender : (Ledger.start.steps events).channel.sender = sender := by rw [hl]
  have hsame : event ≠ .wait → (events ++ [event]).count Event.wait = n + 1 :=
    fun hne => (count_wait_concat_of_ne hne).trans hcount
  have hother : event ≠ .send ∧ event ≠ .drop → Uses (events ++ [event]) sender :=
    fun h => huses.other hsender fun _ => h
  unfold Ledger.step Ledger.settled
  cases event with
  | send =>
    exact .waiting (huses.send hsender) (hsame nofun) (sentInTime_send hl nofun (.inr rfl) hsent)
  | drop => exact .waiting (huses.drop hsender) (hsame nofun) (sentInTime_drop hsent)
  | wait =>
    dsimp only
    show Stands _ ⟨_, .pending :: cancelledWaits n ++ [.completed .cancelled]⟩
    rw [cons_cancelledWaits_concat]
    exact .waiting (hother ⟨nofun, nofun⟩) (by rw [count_wait_concat_wait, hcount])
      fun h => (hsent h).concat _
  | poll =>
    dsimp only
    rw [map_settle_cons]
    have huses := hother ⟨nofun, nofun⟩
    cases sender with
    | ready => exact .waiting huses (hsame nofun) nofun
    | sent => exact .gone huses (hsame nofun) (.proceeded ((hsent rfl).concat _))
    | dropped => exact .gone huses (hsame nofun) .cancelled
  | abandon =>
    dsimp only
    rw [map_settle_cons]
    exact .gone (hother ⟨nofun, nofun⟩) (hsame nofun) (.abandoned sender)
  | immediate =>
    exact .waiting (hother ⟨nofun, nofun⟩) (hsame nofun) fun h => (hsent h).concat _

/-- **After the first wait.** -/
theorem stands_of_gone {n : Nat} (huses : Uses events sender)
    (hcount : events.count Event.wait = n + 1) (hsettled : Settled events sender fate)
    (hl : Ledger.start.steps events = ⟨⟨sender, .gone⟩, fate :: cancelledWaits n⟩)
    (event : Event) :
    Stands (events ++ [event]) (Ledger.step ⟨⟨sender, .gone⟩, fate :: cancelledWaits n⟩ event) := by
  have hsender : (Ledger.start.steps events).channel.sender = sender := by rw [hl]
  have hsame : event ≠ .wait → (events ++ [event]).count Event.wait = n + 1 :=
    fun hne => (count_wait_concat_of_ne hne).trans hcount
  have hother : event ≠ .send ∧ event ≠ .drop → Uses (events ++ [event]) sender :=
    fun h => huses.other hsender fun _ => h
  have hsettled := hsettled.concat event
  unfold Ledger.step Ledger.settled
  cases event with
  | send => exact .gone (huses.send hsender) (hsame nofun) (hsettled.use _)
  | drop => exact .gone (huses.drop hsender) (hsame nofun) (hsettled.use _)
  | wait =>
    dsimp only
    show Stands _ ⟨_, fate :: cancelledWaits n ++ [.completed .cancelled]⟩
    rw [cons_cancelledWaits_concat]
    exact .gone (hother ⟨nofun, nofun⟩) (by rw [count_wait_concat_wait, hcount]) hsettled
  | poll =>
    dsimp only
    rw [map_settle_cons, hsettled.settle_eq]
    exact .gone (hother ⟨nofun, nofun⟩) (hsame nofun) hsettled
  | abandon =>
    dsimp only
    rw [map_settle_cons, hsettled.settle_eq]
    exact .gone (hother ⟨nofun, nofun⟩) (hsame nofun) hsettled
  | immediate => exact .gone (hother ⟨nofun, nofun⟩) (hsame nofun) hsettled

/-- **A channel is always at one of these places.** -/
theorem stands_steps (events : List Event) : Stands events (Ledger.start.steps events) := by
  induction events using List.reverseRecOn with
  | nil => exact .idle (.ready List.not_mem_nil List.not_mem_nil) rfl nofun
  | append_singleton events event ih =>
    rw [Ledger.steps_concat]
    generalize hl : Ledger.start.steps events = l at ih ⊢
    cases ih with
    | idle huses hcount hsent => exact stands_of_idle huses hcount hsent hl event
    | waiting huses hcount hsent => exact stands_of_waiting huses hcount hsent hl event
    | gone huses hcount hsettled => exact stands_of_gone huses hcount hsettled hl event

/-! ## What a rendezvous promises -/

/-- **A channel releases at most once**, after these events. -/
structure ReleasesOnce (events : List Event) (l : Ledger) : Prop where
  /-- There is one wait for each that has begun. -/
  length_waits : l.waits.length = events.count Event.wait
  /-- At most one wait proceeds. -/
  once : l.waits.count (.completed .proceed) ≤ 1
  /-- A wait that has returned proceeds if it is the first one and the sender has sent
  in time, and only then. -/
  proceed_iff : ∀ n handoff, l.waits[n]? = some (.completed handoff) →
    (handoff = .proceed ↔ n = 0 ∧ SentInTime events)
  /-- The first wait, if it has returned, is cancelled if the sender was dropped
  unsent, and only then. -/
  cancelled_iff : ∀ handoff, l.waits[0]? = some (.completed handoff) →
    (handoff = .cancelled ↔ DroppedUnsent events)
  /-- A pending wait that looks returns if the sender has been used, and only then: it proceeds
  if the sender has sent, and is cancelled if the sender was dropped unsent. -/
  poll_iff : .pending ∈ l.waits → ∀ handoff,
    ((l.channel.step .poll).2.completed = some handoff ↔
      (handoff = .proceed ∧ SentInTime events) ∨ (handoff = .cancelled ∧ DroppedUnsent events))
  /-- All later waits are cancelled, whatever has become of the first. -/
  later : ∀ n fate, 0 < n → l.waits[n]? = some fate → fate = .completed .cancelled
  /-- While no wait is pending, a sender that sends succeeds if nobody has used it and
  nobody has waited, and only then. -/
  send_iff : .pending ∉ l.waits → ((l.channel.step .send).2.effect = some true ↔
    .send ∉ events ∧ .drop ∉ events ∧ .wait ∉ events)

/-- Before the first wait there is nothing to promise but the success of a send. -/
theorem releasesOnce_of_idle (huses : Uses events sender) (hcount : events.count Event.wait = 0) :
    ReleasesOnce events ⟨⟨sender, .idle⟩, []⟩ where
  length_waits := hcount.symm
  once := Nat.zero_le 1
  proceed_iff := nofun
  cancelled_iff := nofun
  poll_iff := nofun
  later := nofun
  send_iff := fun _ => by
    have hwait : .wait ∉ events := List.count_eq_zero.mp hcount
    cases huses with
    | ready hsend hdrop => exact iff_of_true rfl ⟨hsend, hdrop, hwait⟩
    | sent hsend _ => exact iff_of_false nofun fun h => h.1 hsend
    | dropped hdrop _ => exact iff_of_false nofun fun h => h.2.1 hdrop.drop_mem

/-- The waits behind the first one are cancelled. -/
theorem eq_cancelled_of_getElem? {n i : Nat} (hi : 0 < i)
    (h : (fate :: cancelledWaits n)[i]? = some fate') : fate' = .completed .cancelled := by
  obtain ⟨i, rfl⟩ := Nat.exists_eq_succ_of_ne_zero (Nat.ne_of_gt hi)
  rw [List.getElem?_cons_succ] at h
  exact List.eq_of_mem_replicate (List.mem_of_getElem? h)

/-- Only the first wait can be pending. -/
theorem eq_pending_of_mem {n : Nat} (h : .pending ∈ fate :: cancelledWaits n) :
    fate = .pending := by
  rcases List.mem_cons.mp h with h | h
  · exact h.symm
  · exact absurd (List.eq_of_mem_replicate h) nofun

theorem count_proceed_le (fate : Fate) (n : Nat) :
    (fate :: cancelledWaits n).count (.completed .proceed) ≤ 1 := by
  have hnone : (cancelledWaits n).count (.completed .proceed) = 0 :=
    List.count_eq_zero.mpr fun hmem => absurd (List.eq_of_mem_replicate hmem) nofun
  rw [List.count_cons, hnone]
  split
  · exact Nat.le_refl 1
  · exact Nat.zero_le 1

/-- **After the first wait** only what has become of it is left to say. -/
theorem releasesOnce_of_first {receiver : Receiver} {n : Nat}
    (hcount : events.count Event.wait = n + 1)
    (hfirst : ∀ handoff, fate = .completed handoff →
      (handoff = .proceed ↔ SentInTime events) ∧ (handoff = .cancelled ↔ DroppedUnsent events))
    (hpoll : fate = .pending → ∀ handoff,
      ((poll ⟨sender, receiver⟩).2.completed = some handoff ↔
        (handoff = .proceed ∧ SentInTime events) ∨ (handoff = .cancelled ∧ DroppedUnsent events)))
    (hsend : fate ≠ .pending → receiver = .gone) :
    ReleasesOnce events ⟨⟨sender, receiver⟩, fate :: cancelledWaits n⟩ where
  length_waits := by rw [hcount, List.length_cons, cancelledWaits, List.length_replicate]
  once := count_proceed_le fate n
  proceed_iff := by
    rintro (_ | i) handoff h
    · rw [(hfirst handoff (Option.some.inj h)).1, and_iff_right rfl]
    · obtain rfl := Fate.completed.inj (eq_cancelled_of_getElem? (Nat.succ_pos i) h)
      exact iff_of_false nofun fun h => absurd h.1 nofun
  cancelled_iff := fun handoff h => (hfirst handoff (Option.some.inj h)).2
  poll_iff := fun h => hpoll (eq_pending_of_mem h)
  later := fun _ _ hi => eq_cancelled_of_getElem? hi
  send_iff := fun hpending => by
    have hgone : receiver = .gone := hsend fun h => hpending (h ▸ List.mem_cons_self)
    have hwait : .wait ∈ events := List.count_pos_iff.mp (hcount ▸ Nat.succ_pos n)
    subst hgone
    refine iff_of_false ?_ fun h => h.2.2 hwait
    cases sender <;> nofun

/-- **A pending wait that looks** finds what has become of the sender. -/
theorem completed_poll_iff (huses : Uses events sender) (hsent : sender = .sent → SentInTime events)
    (handoff : Handoff) :
    (poll ⟨sender, .waiting⟩).2.completed = some handoff ↔
      (handoff = .proceed ∧ SentInTime events) ∨ (handoff = .cancelled ∧ DroppedUnsent events) := by
  cases huses with
  | ready hsend hdrop =>
    refine iff_of_false nofun ?_
    rintro (⟨-, h⟩ | ⟨-, h⟩)
    · exact hsend h.send_mem
    · exact hdrop h.drop_mem
  | sent _ hdrop =>
    constructor
    · rintro ⟨⟩
      exact .inl ⟨rfl, hsent rfl⟩
    · rintro (⟨rfl, -⟩ | ⟨-, h⟩)
      · rfl
      · exact absurd h hdrop
  | dropped hdrop hsend =>
    constructor
    · rintro ⟨⟩
      exact .inr ⟨rfl, hdrop⟩
    · rintro (⟨-, h⟩ | ⟨rfl, -⟩)
      · exact absurd h hsend
      · rfl

/-- **Every channel does**, whatever happens at it and in whatever order. -/
theorem releasesOnce_steps (events : List Event) :
    ReleasesOnce events (Ledger.start.steps events) := by
  have hstands := stands_steps events
  generalize Ledger.start.steps events = l at hstands
  cases hstands with
  | idle huses hcount _ => exact releasesOnce_of_idle huses hcount
  | waiting huses hcount hsent =>
    exact releasesOnce_of_first hcount nofun (fun _ => completed_poll_iff huses hsent)
      fun h => absurd rfl h
  | gone huses hcount hsettled =>
    refine releasesOnce_of_first hcount ?_ ?_ fun _ => rfl
    · rintro handoff rfl
      cases hsettled with
      | proceeded hsent =>
        cases huses with
        | sent _ hdrop => exact ⟨iff_of_true rfl hsent, iff_of_false nofun hdrop⟩
      | cancelled =>
        cases huses with
        | dropped hdrop hsent => exact ⟨iff_of_false nofun hsent, iff_of_true rfl hdrop⟩
    · rintro rfl
      cases hsettled

/-- A release that reaches a pending wait, with a wait of another rendezvous in
between, and a second wait that comes too late. -/
example : (Ledger.start.steps [.wait, .immediate, .send, .poll, .wait]).waits
    = [.completed .proceed, .completed .cancelled] := by decide

/-- A release that reaches a wait which is given up before it looks is lost. -/
example : (Ledger.start.steps [.wait, .send, .abandon, .wait]).waits
    = [.abandoned, .completed .cancelled] := by decide

end EchoProbe.Session.Channel
