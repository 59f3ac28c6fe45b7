import EchoProbe.Proofs.Session.Course

/-!
# The lifecycle of a session

A session fails before there is a server, or it stops the server, once and last, in
whatever way it comes to an end (`lifecycle_run`). The second case is read off the
courses of `EchoProbe.Proofs.Session.Course`: what happens before the report contains
neither the stop nor the linger nor a report (`Between.forall_mem`), and behind it there
is only the one that follows.
-/

namespace EchoProbe.Session

open Probe (Moment Link)

variable {settings : Settings} {w : Surroundings} {server : Echo.Server} {course : Course}

/-- **A session stays** for ever: nobody answers it or asks it to shut down, its
probe hangs, or it lingers. -/
inductive Stays (settings : Settings) (w : Surroundings) : Prop
  | unanswered (h : w.shutdown.moment? = none) (hanswer : w.answer = none) : Stays settings w
  | hanging {moment : Moment} (h : w.Releases settings moment)
      (hprobe : w.probeFrom settings moment = none) : Stays settings w
  | lingering {moment : Moment} {report : EchoProbe.Report} (h : w.Releases settings moment)
      (hprobe : w.probeFrom settings moment = some (.ok report))
      (hlinger : settings.session.linger = true) (hshutdown : w.shutdown = .never) :
    Stays settings w

/-- **What a session does** whose server has started. -/
structure Served (settings : Settings) (w : Surroundings) (server : Echo.Server)
    (course : Course) : Prop where
  /-- The server starts first. -/
  started : course.actions.head? = some .start
  /-- If the session returns, it has stopped the server once, and last. -/
  stopped : course.result.isSome = true →
    course.actions.count .stop = 1 ∧ course.actions.getLast? = some .stop
  /-- If it does not return, the server is up. -/
  unstopped : course.result = none → .stop ∉ course.actions
  /-- The probe runs only after the server has settled and the operator has let it, and
  once. -/
  probed : .probe ∈ course.actions → (∃ moment, w.Releases settings moment) ∧
    ∃ after, course.actions = [.start, .settle, .meet .proceed, .probe] ++ after ∧ .probe ∉ after
  /-- There is one report, which is what is returned unless the stop fails. -/
  reported : course.result.isSome = true → ∃ report, course.reports = [report] ∧
    report.serverUrl = server.url ∧
    course.result = some (match w.stopped with
      | .ok () => .ok report
      | .error error => .error (.echo error))
  /-- A report of the probe is the one with which the probe ended. -/
  completed : ∀ report, ⟨server.url, .completed report⟩ ∈ course.reports →
    ∃ moment, w.Releases settings moment ∧ w.probeFrom settings moment = some (.ok report)
  /-- There is never more than one report. -/
  once : course.reports.length ≤ 1
  /-- A session lingers only if that is asked for, with a report of the probe, once, and
  only between the report and the stop. -/
  lingered : .linger ∈ course.actions → settings.session.linger = true ∧
    ∃ before report after, report.probe?.isSome = true ∧
      course.actions = before ++ [.report report, .linger] ++ after ∧ .linger ∉ before ∧
      after = if course.result.isSome then [.stop] else []
  /-- It does not return exactly if it stays. -/
  unreturned_iff : course.result = none ↔ Stays settings w
  /-- No probe of these settings, whatever its script and its link, refuses the address. -/
  accepted : ∀ script link error,
    Probe.conduct settings.probe script link = some (.error error) → error = .cancelled

/-- **The lifecycle of a session.** -/
inductive Lifecycle (settings : Settings) (w : Surroundings) : Course → Prop
  /-- The settings are refused. -/
  | refused {error : Error} (h : settings.validate = .error error) :
    Lifecycle settings w ⟨[], some (.error (.config error))⟩
  /-- The server takes too long to start. -/
  | late (hvalid : settings.validate = .ok ())
      (h : settings.session.startupTimeout.nanoseconds < w.bindDelay.nanoseconds) :
    Lifecycle settings w ⟨[], some (.error (.startupTimeout settings.session.startupTimeout))⟩
  /-- The server cannot start, since its address cannot be bound, … -/
  | unbound {error : SystemError} (hvalid : settings.validate = .ok ())
      (hdelay : w.bindDelay.nanoseconds ≤ settings.session.startupTimeout.nanoseconds)
      (h : w.bound = .refused error) :
    Lifecycle settings w ⟨[], some (.error (.echo (.bind settings.server.bindAddress error)))⟩
  /-- … or since it is not told what the address has become. -/
  | untold {error : SystemError} (hvalid : settings.validate = .ok ())
      (hdelay : w.bindDelay.nanoseconds ≤ settings.session.startupTimeout.nanoseconds)
      (h : w.bound = .untold error) :
    Lifecycle settings w ⟨[], some (.error (.echo (.io error)))⟩
  /-- The server has started. -/
  | served {server : Echo.Server} {course : Course} (hvalid : settings.validate = .ok ())
      (hdelay : w.bindDelay.nanoseconds ≤ settings.session.startupTimeout.nanoseconds)
      (hstart : Echo.Server.start settings.server w.bound = .ok server)
      (h : Served settings w server course) : Lifecycle settings w course

/-! ## Before the report -/

namespace Between

variable {phase : Phase}

/-- **What a session can do** before it reports. -/
theorem forall_mem (h : Between settings w phase) :
    ∀ action ∈ phase.actions,
      action = .settle ∨ action = .meet .proceed ∨ action = .meet .cancelled ∨ action = .probe := by
  cases h <;> simp [Phase.cancelled]

/-- The probe runs where the operator has let it, if it is not among what follows. -/
theorem probe_mem_append (h : Between settings w phase) {tail : List Action}
    (htail : .probe ∉ tail) (hmem : .probe ∈ .start :: phase.actions ++ tail) :
    (∃ moment, w.Releases settings moment) ∧
      ∃ after,
        .start :: phase.actions ++ tail = [.start, .settle, .meet .proceed, .probe] ++ after ∧
          .probe ∉ after := by
  cases h with
  | reported h _ => exact ⟨⟨_, h⟩, tail, rfl, htail⟩
  | caught h _ => exact ⟨⟨_, h⟩, tail, rfl, htail⟩
  | hanging h _ => exact ⟨⟨_, h⟩, tail, rfl, htail⟩
  | _ => exact absurd hmem (by simpa [Phase.cancelled] using htail)

/-- No stop is among it, … -/
theorem count_stop_append (h : Between settings w phase) (tail : List Action) :
    (.start :: phase.actions ++ tail).count .stop = tail.count .stop := by
  have hnot : .stop ∉ phase.actions := fun hmem => by simpa using h.forall_mem _ hmem
  rw [List.count_append, List.count_eq_zero_of_not_mem (by simpa using hnot), Nat.zero_add]

/-- … no linger, … -/
theorem linger_not_mem (h : Between settings w phase) : .linger ∉ .start :: phase.actions := by
  have hnot : .linger ∉ phase.actions := fun hmem => by simpa using h.forall_mem _ hmem
  simpa using hnot

/-- … and no report. -/
theorem reports_append (h : Between settings w phase) (tail : List Action)
    (result : Option (Except SessionError Report)) :
    Course.reports ⟨.start :: phase.actions ++ tail, result⟩ = Course.reports ⟨tail, result⟩ := by
  cases h <;> rfl

/-- A report of the probe is the one that it ended with. -/
theorem exists_releases {report : EchoProbe.Report} (h : Between settings w phase)
    (hending : phase.ending = some (.ok (.completed report))) :
    ∃ moment, w.Releases settings moment ∧ w.probeFrom settings moment = some (.ok report) := by
  cases h with
  | reported h hprobe =>
    cases hending
    exact ⟨_, h, hprobe⟩
  | _ => cases hending

end Between

/-! ## Once the server has started -/

namespace Serves

theorem started (h : Serves settings w server course) : course.actions.head? = some .start := by
  cases h <;> rfl

theorem stopped (h : Serves settings w server course) (hresult : course.result.isSome = true) :
    course.actions.count .stop = 1 ∧ course.actions.getLast? = some .stop := by
  cases h with
  | closed h _ => exact ⟨h.count_stop_append _, List.getLast?_append.trans rfl⟩
  | lingered h _ _ => exact ⟨h.count_stop_append _, List.getLast?_append.trans rfl⟩
  | _ => cases hresult

theorem unstopped (h : Serves settings w server course) (hresult : course.result = none) :
    .stop ∉ course.actions := by
  rw [← List.count_eq_zero]
  cases h with
  | waiting h => exact h.count_stop_append _
  | lingering h _ _ => exact h.count_stop_append _
  | _ => cases hresult

theorem reported (h : Serves settings w server course) (hresult : course.result.isSome = true) :
    ∃ report, course.reports = [report] ∧ report.serverUrl = server.url ∧
      course.result = some (w.returned report) := by
  cases h with
  | closed h _ => exact ⟨_, h.reports_append _ _, rfl, rfl⟩
  | lingered h _ _ => exact ⟨_, h.reports_append _ _, rfl, rfl⟩
  | _ => cases hresult

theorem once (h : Serves settings w server course) : course.reports.length ≤ 1 := by
  cases h with
  | waiting h =>
    rw [h.reports_append]
    exact Nat.zero_le _
  | closed h _ => exact Nat.le_of_eq (congrArg List.length (h.reports_append _ _))
  | lingered h _ _ => exact Nat.le_of_eq (congrArg List.length (h.reports_append _ _))
  | lingering h _ _ => exact Nat.le_of_eq (congrArg List.length (h.reports_append _ _))

theorem completed (h : Serves settings w server course) {report : EchoProbe.Report}
    (hmem : ⟨server.url, .completed report⟩ ∈ course.reports) :
    ∃ moment, w.Releases settings moment ∧ w.probeFrom settings moment = some (.ok report) := by
  cases h with
  | waiting h =>
    rw [h.reports_append] at hmem
    cases hmem
  | closed h _ =>
    rw [h.reports_append] at hmem
    cases List.mem_singleton.mp hmem
    exact h.exists_releases rfl
  | lingered h _ _ =>
    rw [h.reports_append] at hmem
    cases List.mem_singleton.mp hmem
    exact h.exists_releases rfl
  | lingering h _ _ =>
    rw [h.reports_append] at hmem
    cases List.mem_singleton.mp hmem
    exact h.exists_releases rfl

theorem probed (h : Serves settings w server course) (hmem : .probe ∈ course.actions) :
    (∃ moment, w.Releases settings moment) ∧
      ∃ after, course.actions = [.start, .settle, .meet .proceed, .probe] ++ after ∧
        .probe ∉ after := by
  cases h with
  | waiting h => exact h.probe_mem_append (by simp) hmem
  | closed h _ => exact h.probe_mem_append (by simp) hmem
  | lingered h _ _ => exact h.probe_mem_append (by simp) hmem
  | lingering h _ _ => exact h.probe_mem_append (by simp) hmem

theorem lingered_mem (h : Serves settings w server course) (hmem : .linger ∈ course.actions) :
    settings.session.linger = true ∧
      ∃ before report after, report.probe?.isSome = true ∧
        course.actions = before ++ [.report report, .linger] ++ after ∧ .linger ∉ before ∧
        after = if course.result.isSome then [.stop] else [] := by
  cases h with
  | waiting h =>
    rw [List.append_nil] at hmem
    exact absurd hmem h.linger_not_mem
  | closed h _ =>
    refine absurd ((List.mem_append.mp hmem).resolve_left h.linger_not_mem) ?_
    simp
  | @lingered _ report h hlinger _ =>
    refine ⟨hlinger, _, ⟨server.url, .completed report⟩, [.stop], rfl, ?_, h.linger_not_mem, rfl⟩
    rw [List.append_assoc]
    rfl
  | @lingering _ report h hlinger _ =>
    exact ⟨hlinger, _, ⟨server.url, .completed report⟩, [], rfl, (List.append_nil _).symm,
      h.linger_not_mem, rfl⟩

/-- A session that does not return stays. -/
theorem stays (h : Serves settings w server course) (hresult : course.result = none) :
    Stays settings w := by
  cases h with
  | waiting h =>
    cases h with
    | unanswered h hanswer => exact .unanswered h hanswer
    | hanging h hprobe => exact .hanging h hprobe
  | lingering h hlinger hshutdown =>
    obtain ⟨moment, hreleases, hprobe⟩ := h.exists_releases rfl
    exact .lingering hreleases hprobe hlinger hshutdown
  | _ => cases hresult

end Serves

/-- A session that stays does not return. -/
theorem result_serve_of_stays (h : Stays settings w) (server : Echo.Server) :
    (serve settings w server).result = none := by
  cases h with
  | unanswered h hanswer =>
    have hby : w.shutdown.isBy (w.settled settings) = false := by
      rw [Shutdown.isBy, h]
    rw [serve, between_of_not_isBy hby, Phase.meeting, hanswer, h]
    rfl
  | hanging h hprobe =>
    rw [serve, between_of_releases h, probing_eq, Surroundings.endingFrom, hprobe]
  | lingering h hprobe hlinger hshutdown =>
    rw [serve, between_of_releases h, probing_eq, Surroundings.endingFrom, hprobe]
    dsimp only
    rw [conclude, hlinger, hshutdown]
    rfl

/-- **What a session does** whose server has started. -/
theorem served_serve (hvalid : settings.Valid) (w : Surroundings) (server : Echo.Server) :
    Served settings w server (serve settings w server) := by
  have h := serves_serve hvalid w server
  exact ⟨h.started, h.stopped, h.unstopped, h.probed, h.reported, fun _ => h.completed, h.once,
    h.lingered_mem, ⟨h.stays, fun h => result_serve_of_stays h server⟩,
    fun _ _ _ => eq_cancelled_of_conduct hvalid⟩

/-- **Every session lives like that**, whatever it meets with. -/
theorem lifecycle_run (settings : Settings) (w : Surroundings) :
    Lifecycle settings w (run settings w) := by
  unfold run
  cases hvalid : settings.validate with
  | error error => exact .refused hvalid
  | ok _ =>
    dsimp only
    split
    · next hdelay => exact .late hvalid hdelay
    · next hdelay =>
      have hdelay := Nat.not_lt.mp hdelay
      cases hbound : w.bound with
      | refused error => exact .unbound hvalid hdelay hbound
      | untold error => exact .untold hvalid hdelay hbound
      | bound address =>
        have hstart : Echo.Server.start settings.server w.bound
            = .ok (.listening settings.server address) := by
          rw [hbound]
          rfl
        exact .served hvalid hdelay hstart
          (served_serve (settings.validate_eq_ok_iff.mp hvalid) w _)

end EchoProbe.Session
