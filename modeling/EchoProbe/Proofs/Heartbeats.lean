import EchoProbe.Proofs.Echo.Heartbeats
import EchoProbe.Proofs.Probe.Heartbeats

/-!
# Heartbeats and bytes make no difference

Neither the probe nor the server makes a difference between what arrives and the same
made plain, without heartbeats and with text in the place of bytes
(`heartbeats_make_no_difference`).
-/

namespace EchoProbe

open Echo Probe

/-- **What arrives may as well be plain**: the probe comes to the same result, and has sent
the same; and the server sends the same echoes, and has counted as many, if the same happens
to a conversation but for what arrives. Every conversation is one of those, as soon as the
echo that has gone out last has been counted. -/
theorem heartbeats_make_no_difference :
    (∀ settings script link,
      conduct settings script link.plain = conduct settings script link ∧
      ∀ target, (link.plain.run ⟨target, script, settings⟩).run
        = (link.run ⟨target, script, settings⟩).run) ∧
    (∀ settings path now outlet turns,
      ((Talk.start settings path now outlet).along settings
          (turns.filterMap Turn.plain?)).conversation.echoed
        = ((Talk.start settings path now outlet).along settings turns).conversation.echoed ∧
      ∀ address address' actions actions' id id',
        ((Server.listening settings address).steps actions).conversation? id
          = some ((Talk.start settings path now outlet).along settings turns).conversation →
        ((Server.listening settings address').steps actions').conversation? id'
          = some ((Talk.start settings path now outlet).along settings
            (turns.filterMap Turn.plain?)).conversation →
        ((Server.listening settings address').steps actions').framesEchoed? id'
          = ((Server.listening settings address).steps actions).framesEchoed? id) ∧
    ∀ settings address actions id c,
      ((Server.listening settings address).steps actions).conversation? id = some c →
      ∃ path now outlet turns,
        ((Talk.start settings path now outlet).along settings turns).conversation
          = c.step settings .counted := by
  refine ⟨fun settings script link => ⟨conduct_plain settings script link, fun target => ?_⟩,
    fun settings path now outlet turns => ?_, fun settings address actions id c hc => ?_⟩
  · exact (trails_run ⟨target, script, settings⟩ link).run
  · have h : Follows ((Talk.start settings path now outlet).along settings
        (turns.filterMap Turn.plain?))
      ((Talk.start settings path now outlet).along settings turns) :=
      (Follows.start settings path now outlet).along turns
    refine ⟨h.echoed, fun address address' actions actions' id id' hc hc' => ?_⟩
    have hsound := (Server.Sound.listening settings address).steps actions
    have hsound' := (Server.Sound.listening settings address').steps actions'
    rw [hsound.framesEchoed? hc h.uncounted, hsound'.framesEchoed? hc' h.uncounted',
      ← Conversation.length_echoed, ← Conversation.length_echoed, h.echoed]
  · have hsound := (Server.Sound.listening settings address).steps actions
    obtain ⟨path, now, hcomes⟩ := hsound.exists_comes hc
    rw [Server.settings_steps] at hcomes
    obtain ⟨outlet, turns, h⟩ := hcomes.exists_along
    exact ⟨path, now, outlet, turns, h⟩

/-- A client that sends a ping and some bytes, … -/
def heartbeatActions : List Server.Action :=
  [.request (.v4 .loopback 50000) "/ws", .answer 0, .upgrade 0 (.ofBits 0), .converse 0 .delivered,
    .converse 0 (.arrived (.message (.ping [1])) (.ofBits 0)), .converse 0 .delivered,
    .converse 0 (.arrived (.message (.binary [104, 105])) (.ofBits 0)), .converse 0 .delivered,
    .converse 0 .counted]

/-- … and one that sends the same as text. -/
def plainActions : List Server.Action :=
  [.request (.v4 .loopback 50000) "/ws", .answer 0, .upgrade 0 (.ofBits 0), .converse 0 .delivered,
    .converse 0 (.arrived (.message (.text "hi")) (.ofBits 0)), .converse 0 .delivered,
    .converse 0 .counted]

/-- The same echo is sent to both of them, and counted. -/
theorem heartbeats_make_no_difference_ping :
    let s := (Server.listening {} (.v4 .loopback 3001)).steps heartbeatActions
    let s' := (Server.listening {} (.v4 .loopback 3001)).steps plainActions
    s'.framesEchoed? 0 = s.framesEchoed? 0 ∧ s.framesEchoed? 0 = some 1 ∧
      ∀ c, s.conversation? 0 = some c → ∃ path now outlet turns,
        ((Talk.start {} path now outlet).along {} turns).conversation = c.step {} .counted := by
  intro s s'
  obtain ⟨-, hecho, htold⟩ := heartbeats_make_no_difference
  let turns : List Turn :=
    [.arrives (.message (.ping [1])) (.ofBits 0),
      .arrives (.message (.binary [104, 105])) (.ofBits 0)]
  have hplain : turns.filterMap Turn.plain? = [.arrives (.message (.text "hi")) (.ofBits 0)] := by
    decide +kernel
  refine ⟨?_, by decide +kernel, fun c hc => htold {} _ heartbeatActions 0 c hc⟩
  refine (hecho {} "/ws" (.ofBits 0) .goes turns).2 _ _ heartbeatActions plainActions 0 0 ?_ ?_
  · rfl
  · rw [hplain]
    rfl

end EchoProbe
