import EchoProbe.Proofs.Session.Course

/-!
# Sessions that are shut down

A shutdown that is asked for while the server settles, while the operator is waited for
or while the probe runs cancels the session: its report says so, nothing is waited for any
more, and the server is stopped (`run_of_intercepts`). For the probe this is what a
cancellation does to a run (`EchoProbe.Proofs.Probe.Cancellation`); its moments count from
the beginning of the probe, those of the session from the beginning of the session.
-/

namespace EchoProbe.Session

open Probe (Moment Link Plan)

variable {settings : Settings} {w : Surroundings} {server : Echo.Server} {t : Moment}

/-- **A shutdown at a moment intercepts a session**: it is asked for before the server has
settled or when it has, before the operator answers or when they do, or when the probe, left
alone, still has a step to complete. -/
inductive Intercepts (settings : Settings) (w : Surroundings) (t : Moment) : Prop
  | settling (h : t ≤ w.settled settings) : Intercepts settings w t
  | meeting (h : ∀ delay handoff, w.answer = some (delay, handoff) →
      t ≤ w.settled settings + delay.nanoseconds) : Intercepts settings w t
  | probing {delay : Duration} {url : Net.Url} (hanswer : w.answer = some (delay, .proceed))
      (hurl : Net.Url.parse settings.probe.proxyUrl = .ok url)
      (h : w.link.Catches ⟨url.toText, .ofSettings settings.probe w.now, settings.probe⟩
        (t - (w.settled settings + delay.nanoseconds))) : Intercepts settings w t

theorem isBy_iff_of_at (hshutdown : w.shutdown = .at t) (moment : Moment) :
    w.shutdown.isBy moment = true ↔ t ≤ moment := by
  rw [hshutdown]
  exact decide_eq_true_iff

/-- A probe that the shutdown catches is cancelled. -/
theorem probing_of_catches (hvalid : settings.Valid) (hshutdown : w.shutdown = .at t)
    {moment : Moment} {url : Net.Url} (hurl : Net.Url.parse settings.probe.proxyUrl = .ok url)
    (h : w.link.Catches ⟨url.toText, .ofSettings settings.probe w.now, settings.probe⟩
      (t - moment)) :
    Phase.probing settings w moment = .cancelled [.settle, .meet .proceed, .probe] := by
  obtain ⟨url', hurl', hscheme, -⟩ := hvalid.target
  obtain rfl := Except.ok.inj (hurl.symm.trans hurl')
  have hlink : w.linkFrom moment = w.link.cancelling (some (t - moment)) := by
    rw [Surroundings.linkFrom, hshutdown]
    rfl
  have hprobe : w.probeFrom settings moment = some (.error .cancelled) := by
    rw [Surroundings.probeFrom, hlink]
    exact (Probe.cancels hurl hscheme _ w.link _).caught h
  rw [probing_eq, Surroundings.endingFrom, hprobe]
  rfl

/-- **A session that is intercepted comes to its end** in one of three places. -/
theorem between_of_intercepts (hvalid : settings.Valid) (hshutdown : w.shutdown = .at t)
    (h : Intercepts settings w t) :
    ∃ actions ∈ [[], [.settle], [.settle, .meet .proceed, .probe]],
      Phase.between settings w = .cancelled actions := by
  by_cases hsettled : t ≤ w.settled settings
  · exact ⟨[], by simp, if_pos ((isBy_iff_of_at hshutdown _).mpr hsettled)⟩
  · have hlate : w.shutdown.isBy (w.settled settings) = false :=
      Bool.eq_false_iff.mpr (mt (isBy_iff_of_at hshutdown _).mp hsettled)
    rw [between_of_not_isBy hlate, Phase.meeting]
    cases hanswer : w.answer with
    | none =>
      rw [hshutdown]
      exact ⟨[.settle], by simp, rfl⟩
    | some answer =>
      obtain ⟨delay, handoff⟩ := answer
      by_cases hby : t ≤ w.settled settings + delay.nanoseconds
      · exact ⟨[.settle], by simp, if_pos ((isBy_iff_of_at hshutdown _).mpr hby)⟩
      · refine ⟨[.settle, .meet .proceed, .probe], by simp,
          (if_neg (mt (isBy_iff_of_at hshutdown _).mp hby)).trans ?_⟩
        cases h with
        | settling h => exact absurd h hsettled
        | meeting h => exact absurd (h delay handoff hanswer) hby
        | probing hanswer' hurl h =>
          obtain ⟨rfl, rfl⟩ := Prod.mk.inj (Option.some.inj (hanswer.symm.trans hanswer'))
          exact probing_of_catches hvalid hshutdown hurl h

/-- **A session that is intercepted** reports that it was cancelled, waits for nothing any
more and stops the server. -/
theorem run_of_intercepts (hvalid : settings.validate = .ok ())
    (hdelay : w.bindDelay.nanoseconds ≤ settings.session.startupTimeout.nanoseconds)
    (hstart : Echo.Server.start settings.server w.bound = .ok server)
    (hshutdown : w.shutdown = .at t) (h : Intercepts settings w t) :
    ∃ actions ∈ [[], [.settle], [.settle, .meet .proceed, .probe]],
      run settings w = ⟨.start :: actions ++ [.report ⟨server.url, .cancelled⟩, .stop],
        some (w.returned ⟨server.url, .cancelled⟩)⟩ := by
  obtain ⟨actions, hactions, hbetween⟩ :=
    between_of_intercepts (settings.validate_eq_ok_iff.mp hvalid) hshutdown h
  refine ⟨actions, hactions, ?_⟩
  rw [run_of_start hvalid hdelay hstart, serve, hbetween]
  show conclude settings w (.start :: actions) ⟨server.url, .cancelled⟩ = _
  rw [conclude, Report.probe?, Option.isSome_none, Bool.and_false, if_neg Bool.false_ne_true,
    close_eq, List.append_assoc]
  rfl

/-- **Cancellation wins.** A probe that is cancelled at a moment has no report, unless its last
step is done before, and does nothing from that moment on. A session that is shut down before
its probe is done is cancelled, and stops its server. -/
theorem cancellation_wins :
    (∀ (settings : Settings.Probe) (script : Script) (link : Link) (t : Moment) (url : Net.Url),
      Net.Url.parse settings.proxyUrl = .ok url → url.isWebSocket = true →
        Probe.Cancels ⟨url.toText, script, settings⟩ link t) ∧
    ∀ (settings : Settings) (w : Surroundings) (t : Moment) (server : Echo.Server),
      settings.validate = .ok () →
      w.bindDelay.nanoseconds ≤ settings.session.startupTimeout.nanoseconds →
      Echo.Server.start settings.server w.bound = .ok server → w.shutdown = .at t →
      Intercepts settings w t →
        ∃ actions ∈ [[], [.settle], [.settle, .meet .proceed, .probe]],
          run settings w = ⟨.start :: actions ++ [.report ⟨server.url, .cancelled⟩, .stop],
            some (w.returned ⟨server.url, .cancelled⟩)⟩ := by
  refine ⟨fun settings script link t url hurl hscheme => ?_, fun settings w t server => ?_⟩
  · exact Probe.cancels hurl hscheme script link t
  · exact run_of_intercepts

/-- A peer that does not answer the upgrade, and is gone after an hour. -/
def deafLink : Link where
  opening := .silent
  inbox := [⟨3600000000000, .ended⟩]
  sendings := []
  cancelAt := none
  ordered := List.pairwise_singleton _ _

/-- A session that probes a deaf peer, and is shut down after two seconds. -/
def deafSession : Surroundings where
  bindDelay := .zero
  bound := .bound (.v4 .loopback 3001)
  shutdown := .at 2000000000
  answer := some (.zero, .proceed)
  now := .ofBits 0
  link := deafLink
  stopped := .ok ()

/-- The probe is cancelled while it connects, by itself and in a session. -/
theorem cancellation_wins_connecting :
    Probe.conduct { proxyUrl := "ws://[::1]:8080/ws" } .minimal
        (deafLink.cancelling (some 1000000000)) = some (.error .cancelled) ∧
      ∃ actions ∈ [[], [.settle], [.settle, .meet .proceed, .probe]],
        run { probe := { proxyUrl := "ws://[::1]:8080/ws" } } deafSession
          = ⟨.start :: actions ++ [.report ⟨"ws://127.0.0.1:3001", .cancelled⟩, .stop],
            some (.ok ⟨"ws://127.0.0.1:3001", .cancelled⟩)⟩ := by
  have hparse : (Net.Url.parse "ws://[::1]:8080/ws").toOption.any
      (fun url => url.isWebSocket && url.host.isSome) = true := by
    decide +kernel
  obtain ⟨url, hurl, hscheme, hhost⟩ : ∃ url, Net.Url.parse "ws://[::1]:8080/ws" = .ok url ∧
      url.isWebSocket = true ∧ url.host.isNone = false := by
    cases hurl : Net.Url.parse "ws://[::1]:8080/ws" with
    | error fault => rw [hurl] at hparse; cases hparse
    | ok url =>
      rw [hurl] at hparse
      obtain ⟨hscheme, hhost⟩ := (Bool.and_eq_true _ _).mp hparse
      exact ⟨url, rfl, hscheme, by rw [← Option.not_isSome, hhost]; rfl⟩
  have hcatches : ∀ plan : Plan, plan.settings.connectTimeoutMs = 5000 →
      deafLink.Catches plan 1000000000 := by
    intro plan hlimit
    refine .step (n := 0) rfl ?_
    show 1000000000 ≤ 0 + plan.settings.connectTimeoutMs.toNat * 1000000
    rw [hlimit]
    decide
  let settings : Settings := { probe := { proxyUrl := "ws://[::1]:8080/ws" } }
  have hvalid : settings.validate = .ok () :=
    settings.validate_eq_ok_iff.mpr
      ⟨by decide +kernel, by decide, ⟨url, hurl, hscheme, hhost⟩, by decide⟩
  obtain ⟨hprobe, hsession⟩ := cancellation_wins
  refine ⟨(hprobe _ .minimal deafLink _ url hurl hscheme).caught (hcatches _ rfl), ?_⟩
  -- the probe begins one second after the session
  have hbegin : 2000000000 - (deafSession.settled settings + Duration.zero.nanoseconds)
      = 1000000000 := by
    decide +kernel
  have hserver : (Echo.Server.listening settings.server (.v4 .loopback 3001)).url
      = "ws://127.0.0.1:3001" := by
    decide +kernel
  have hintercepts : Intercepts settings deafSession 2000000000 := by
    refine .probing rfl hurl ?_
    rw [hbegin]
    exact hcatches _ rfl
  obtain ⟨actions, hactions, hrun⟩ :=
    hsession settings deafSession _ _ hvalid (by decide) rfl rfl hintercepts
  rw [hserver] at hrun
  exact ⟨actions, hactions, hrun⟩

end EchoProbe.Session
