import EchoProbe.Proofs.Probe.Passage

/-!
# The probe keeps in step

A run sends one frame at a time and waits for its echo before it sends the
next. So at every point the frames sent are the first ones of the script, and
they are never more than the data messages received; nothing is sent without a
welcome, and nothing after what ends the run; and the check of an exchange is
decided by its own frame and by the data message of its own turn, whatever else
arrives before, after or in between.

The main result says so of the run along any link after any number of its
events (`inStep_passage`). What arrives while no wait is under way stays in
the inbox; a close that is waiting there is met by the next wait.
-/

namespace EchoProbe.Probe

/-- **What keeps a run in step** along a link, at some point of it. -/
structure InStep (plan : Plan) (link : Link) (p : Passage) : Prop where
  /-- The frames sent are the first ones of the script, each once and in
  order. -/
  sent_prefix : p.run.sent <+: plan.wires
  /-- They are never more than the data messages received. -/
  length_sent_le : p.run.sent.length ≤ p.run.received.length
  /-- Nothing is sent unless the first data message is a welcome. -/
  welcomed : p.run.sent ≠ [] → ∃ text, p.run.received.head? = some text ∧
    ∃ message path timestamp, Envelope.parse text = .ok (.welcome message path timestamp)
  /-- The data messages are received as they arrive, and none is left out. -/
  received_prefix : p.run.received <+: link.payloads
  /-- Nothing is sent any more after what ends the run. -/
  silent : ∀ moment event, p.upcoming plan link = some (moment, event) → Ends p.run.phase event →
    ∀ n, (Passage.follow plan link n p).run.sent = p.run.sent
  /-- Nothing is sent from the moment of the cancellation on. -/
  uncancelled : ∀ moment cancelAt, p.upcoming plan link = some (moment, .sent) →
    link.cancelAt = some cancelAt → moment < cancelAt
  /-- The data message of its turn decides the check of an exchange, together
  with the frame that was sent; without it the check is open. -/
  decided : ∀ index frame, plan.script.frames[index]? = some frame →
    ∃ check, p.run.report.exchanges[index]? = some ⟨frame, check⟩ ∧
      (∀ answer, p.run.received[index + 1]? = some answer →
        index < p.run.sent.length ∧ check = verifyEcho (plan.wire index) answer) ∧
      (p.run.received[index + 1]? = none → check.isUnverified = true)

/-- **The probe keeps in step** with the other end, at every point of every
run, whatever arrives and whenever the run is cancelled. -/
theorem inStep_passage (plan : Plan) (link : Link) (n : Nat) :
    InStep plan link (link.passage plan n) := by
  obtain ⟨answers, reason, hexchanges, hlog⟩ := (link.course_passage plan n).exists_account
  refine ⟨hlog.sent_prefix, hlog.length_sent_le, fun hsent => ?_, ?_, ?_, ?_, ?_⟩
  · obtain ⟨text, hhead, hwelcome⟩ := hlog.exists_welcome hsent
    refine ⟨text, hhead, (isVerified_verifyWelcome_iff text).mp ?_⟩
    rw [hwelcome]
    rfl
  · exact ⟨_, link.received_append_payloads plan n⟩
  · intro moment event hupcoming hends m
    exact Passage.sent_follow_of_ends hupcoming hends m
  · intro moment cancelAt hupcoming hcancelAt
    exact Passage.lt_cancelAt_of_upcoming hupcoming (by rintro ⟨⟩) hcancelAt
  · intro index frame hframe
    rw [hexchanges, Plan.getElem?_exchanges, hframe]
    refine ⟨_, rfl, fun answer hanswer => ?_, fun hnone => ?_⟩
    · rw [← hlog.getElem?_answers] at hanswer
      rw [hanswer, Plan.wire_of_getElem? hframe]
      obtain ⟨hlt, -⟩ := List.getElem?_eq_some_iff.mp hanswer
      have hsent := hlog.length_sent
      exact ⟨by omega, rfl⟩
    · rw [← hlog.getElem?_answers] at hnone
      rw [hnone]
      rfl

end EchoProbe.Probe
