import EchoProbe.Proofs.Probe.Shape
import EchoProbe.Proofs.Probe.Timely

/-!
# Strict runs

A strict run does what the lenient run does, and differs from it in the
outcome alone: a failure stays what it is, and every other outcome passes only
if nothing is open (`Report.strictly`). The strict run is thus the image of
the lenient one under a map that changes finished runs and no others. The map
commutes with the operations that a step is made of, so with a step
(`Run.step_strictly`), and so with a run along a link (`passage_strictly`).

One thing has to be known for this. A wait that expires concludes the lenient
run with a timeout, which no strict run has: so something must be open then.
It is the welcome, or the exchange whose echo has not come, which is an
exchange of the script because the run is at a place (`Place`).
-/

namespace EchoProbe

/-! ## Reports -/

namespace Report

/-- **What a strict run makes of a report.** -/
def strictly (r : Report) : Report :=
  match r.outcome with
  | .failed _ => r
  | _ =>
    match r.strictFailure? with
    | some reason => r.fail reason
    | none => { r with outcome := .passed }

/-- Everything is verified. -/
def IsClean (r : Report) : Prop :=
  r.welcome = .verified ∧ ∀ e ∈ r.exchanges, e.check = .verified

variable {r : Report}

theorem strictly_of_failed {reason : String} (h : r.outcome = .failed reason) :
    r.strictly = r := by
  rw [strictly, h]

theorem strictly_of_isSuccess (h : r.outcome.isSuccess = true) :
    r.strictly = r.strictFailure?.elim { r with outcome := .passed } r.fail := by
  have hmatch : r.strictly = match r.strictFailure? with
      | some reason => r.fail reason
      | none => { r with outcome := .passed } := by
    unfold strictly
    cases houtcome : r.outcome with
    | failed reason => rw [houtcome] at h; exact absurd h Bool.false_ne_true
    | _ => rfl
  rw [hmatch]
  cases r.strictFailure? <;> rfl

/-- Strictness changes the outcome and nothing else. -/
theorem exists_strictly_eq (r : Report) : ∃ outcome, r.strictly = { r with outcome } := by
  unfold strictly
  split
  · exact ⟨r.outcome, rfl⟩
  · split
    · exact ⟨_, rfl⟩
    · exact ⟨_, rfl⟩

/-- The time plays no part in it. -/
theorem strictly_elapsed (r : Report) (elapsed : Duration) :
    { r with elapsed }.strictly = { r.strictly with elapsed } := by
  have hfailure : { r with elapsed }.strictFailure? = r.strictFailure? := rfl
  unfold strictly
  rw [hfailure]
  obtain ⟨_, outcome, _, _, _, _⟩ := r
  cases outcome with
  | failed reason => rfl
  | _ => dsimp only; split <;> rfl

/-- **A strict conclusion** is what strictness makes of the lenient one, if a
timeout leaves something open. -/
theorem conclude_strict {ending : Ending} (hending : ending ≠ .broken)
    (hopen : ending = .timedOut → r.strictFailure? ≠ none) :
    r.conclude ending true = (r.conclude ending false).strictly := by
  rw [conclude, conclude, if_neg hending, if_neg hending]
  cases r.exchanges.findIdx? (·.check.isMismatch) with
  | some index => rfl
  | none =>
    have hsuccess : (softOutcome ending).isSuccess = true := by
      cases ending <;> rfl
    have hsame : { r with outcome := softOutcome ending }.strictFailure? = r.strictFailure? := rfl
    show (match r.strictFailure? with
      | some reason => r.fail reason
      | none => { r with outcome := softOutcome ending })
        = { r with outcome := softOutcome ending }.strictly
    rw [strictly_of_isSuccess hsuccess, hsame]
    cases hstrict : r.strictFailure? with
    | some reason => rfl
    | none =>
      cases ending with
      | timedOut => exact absurd hstrict (hopen rfl)
      | _ => rfl

/-- Without a mismatch, what is not verified is open, and fails a strict run. -/
theorem strictFailure?_eq_none_iff (h : ∀ i, ¬ r.IsMismatchAt i) :
    r.strictFailure? = none ↔ r.IsClean := by
  have hcheck : ∀ e ∈ r.exchanges, e.check.isUnverified = false ↔ e.check = .verified := by
    intro e he
    obtain ⟨i, hi⟩ := List.mem_iff_getElem?.mp he
    have hnot : e.check.isMismatch = false := Bool.eq_false_iff.mpr fun hm => h i ⟨e, hi, hm⟩
    cases hcheck : e.check with
    | verified => exact iff_of_true rfl rfl
    | mismatch received => rw [hcheck] at hnot; cases hnot
    | unverified reason => exact iff_of_false (by rintro ⟨⟩) (by rintro ⟨⟩)
  have hcount : ¬ 0 < r.unverifiedCount ↔ ∀ e ∈ r.exchanges, e.check = .verified := by
    rw [unverifiedCount, Nat.not_lt, Nat.le_zero, List.countP_eq_zero]
    refine forall₂_congr fun e he => ?_
    rw [Bool.not_eq_true, hcheck e he]
  rw [strictFailure?, IsClean, ← hcount, ← Check.isVerified_iff]
  cases r.welcome.isVerified with
  | false => exact iff_of_false (Option.some_ne_none _) fun h => Bool.false_ne_true h.1
  | true =>
    by_cases hopen : 0 < r.unverifiedCount
    · exact iff_of_false (by simp [hopen]) fun h => h.2 hopen
    · exact iff_of_true (by simp [hopen]) ⟨rfl, hopen⟩

/-- The failures that strictness adds say so. -/
theorem exists_of_strictFailure? {failure : String} (h : r.strictFailure? = some failure) :
    ∃ reason, failure = "strict: " ++ reason := by
  unfold strictFailure? at h
  split at h
  · exact ⟨"welcome frame not verified", (Option.some.inj h).symm⟩
  · split at h
    · exact ⟨_, (Option.some.inj h).symm.trans (String.append_assoc ..)⟩
    · cases h

/-- What succeeded and is all verified passes. -/
theorem outcome_strictly_of_isClean (hsuccess : r.outcome.isSuccess = true)
    (h : ∀ i, ¬ r.IsMismatchAt i) (hclean : r.IsClean) : r.strictly.outcome = .passed := by
  rw [strictly_of_isSuccess hsuccess, (strictFailure?_eq_none_iff h).mpr hclean]
  rfl

/-- What succeeded and is not all verified fails. -/
theorem outcome_strictly_of_not_isClean (hsuccess : r.outcome.isSuccess = true)
    (h : ∀ i, ¬ r.IsMismatchAt i) (hclean : ¬ r.IsClean) :
    ∃ reason, r.strictly.outcome = .failed ("strict: " ++ reason) := by
  rw [strictly_of_isSuccess hsuccess]
  cases hfailure : r.strictFailure? with
  | none => exact absurd ((strictFailure?_eq_none_iff h).mp hfailure) hclean
  | some failure =>
    obtain ⟨reason, rfl⟩ := exists_of_strictFailure? hfailure
    exact ⟨reason, rfl⟩

/-- Only what is all verified passes. -/
theorem isClean_of_strictly (h : r.outcome.isSuccess = true → ∀ i, ¬ r.IsMismatchAt i)
    (hpassed : r.strictly.outcome = .passed) : r.IsClean := by
  by_contra hclean
  cases hsuccess : r.outcome.isSuccess with
  | true =>
    obtain ⟨reason, hfailed⟩ := outcome_strictly_of_not_isClean hsuccess (h hsuccess) hclean
    rw [hpassed] at hfailed
    cases hfailed
  | false =>
    cases houtcome : r.outcome with
    | failed reason =>
      rw [strictly_of_failed houtcome, houtcome] at hpassed
      cases hpassed
    | _ => rw [houtcome] at hsuccess; cases hsuccess

theorem outcome_strictly_ne_timedOut (r : Report) : r.strictly.outcome ≠ .timedOut := by
  unfold strictly
  split
  · next houtcome =>
    rw [houtcome]
    rintro ⟨⟩
  · split <;> rintro ⟨⟩

end Report

namespace Probe

/-! ## Runs -/

/-- The same plan, strict or not. -/
def Plan.withStrict (plan : Plan) (strict : Bool) : Plan :=
  { plan with settings := { plan.settings with strict } }

variable {plan : Plan} {run : Run} {link : Link}

namespace Run

/-- **What strictness makes of a run**: it changes the report, once there is
one. -/
def strictly (run : Run) : Run :=
  match run.phase with
  | .finished => { run with report := run.report.strictly }
  | _ => run

theorem strictly_of_phase_ne (h : run.phase ≠ .finished) : run.strictly = run := by
  unfold strictly
  cases hphase : run.phase with
  | finished => exact absurd hphase h
  | _ => rfl

theorem strictly_of_phase_eq (h : run.phase = .finished) :
    run.strictly = { run with report := run.report.strictly } := by
  rw [strictly, h]

theorem phase_strictly (run : Run) : run.strictly.phase = run.phase := by
  unfold strictly
  split <;> rfl

theorem sent_strictly (run : Run) : run.strictly.sent = run.sent := by
  unfold strictly
  split <;> rfl

theorem giveUp_strictly {index : Nat} {reason : String} {ending : Ending}
    (hending : ending ≠ .broken)
    (hopen : ending = .timedOut → (run.report.abandonFrom index reason).strictFailure? ≠ none) :
    run.giveUp (plan.withStrict true) index reason ending
      = (run.giveUp (plan.withStrict false) index reason ending).strictly :=
  congrArg run.finish (Report.conclude_strict hending hopen)

theorem proceed_strictly (run : Run) (index : Nat) :
    run.proceed (plan.withStrict true) index
      = (run.proceed (plan.withStrict false) index).strictly := by
  have hsize : (plan.withStrict true).size = (plan.withStrict false).size := rfl
  unfold proceed
  rw [hsize]
  split
  · refine (strictly_of_phase_ne ?_).symm
    dsimp only
    split <;> rintro ⟨⟩
  · exact congrArg run.finish (Report.conclude_strict (by rintro ⟨⟩) (by rintro ⟨⟩))

theorem greeted_strictly (run : Run) (incoming : Incoming) :
    run.greeted (plan.withStrict true) incoming
      = (run.greeted (plan.withStrict false) incoming).strictly := by
  cases incoming with
  | payload text =>
    simp only [greeted]
    split
    · exact proceed_strictly _ 0
    · rfl
  | closed reason => exact giveUp_strictly (by rintro ⟨⟩) (by rintro ⟨⟩)
  | expired => exact giveUp_strictly (by rintro ⟨⟩) (by rintro - ⟨⟩)
  | broken reason => rfl

theorem undelivered_strictly (run : Run) (index : Nat) (error : TransportError) :
    run.undelivered (plan.withStrict true) index error
      = (run.undelivered (plan.withStrict false) index error).strictly := by
  unfold undelivered
  split
  · exact giveUp_strictly (by rintro ⟨⟩) (by rintro ⟨⟩)
  · rfl

/-- An exchange whose echo has not come in time is open. -/
theorem strictFailure?_ne_none_of_expired {r : Report} {index : Nat}
    (hlt : index < r.exchanges.length) (expired skipped : String) :
    ((r.setCheck index (.unverified expired)).abandonFrom (index + 1) skipped).strictFailure?
      ≠ none := by
  have hexchange :
      ((r.setCheck index (.unverified expired)).abandonFrom (index + 1) skipped).exchanges[index]?
        = some { r.exchanges[index] with check := .unverified expired } := by
    rw [Report.getElem?_abandonFrom, Report.getElem?_setCheck, List.getElem?_eq_getElem hlt,
      Option.map_some, Option.map_some, if_pos rfl, if_neg (Nat.not_succ_le_self index)]
  have hopen : 0 < ((r.setCheck index (.unverified expired)).abandonFrom (index + 1)
      skipped).unverifiedCount :=
    List.countP_pos_iff.mpr ⟨_, List.mem_of_getElem? hexchange, rfl⟩
  unfold Report.strictFailure?
  rw [if_pos hopen]
  split <;> rintro ⟨⟩

theorem answered_strictly {index : Nat} (hlt : index < run.report.exchanges.length)
    (incoming : Incoming) :
    run.answered (plan.withStrict true) index incoming
      = (run.answered (plan.withStrict false) index incoming).strictly := by
  cases incoming with
  | payload text => exact proceed_strictly _ (index + 1)
  | closed reason => exact giveUp_strictly (by rintro ⟨⟩) (by rintro ⟨⟩)
  | expired =>
    exact giveUp_strictly (by rintro ⟨⟩) fun _ => strictFailure?_ne_none_of_expired hlt _ _
  | broken reason => rfl

/-- **What completes a step completes the strict step.** -/
theorem complete_strictly (h : Place (plan.withStrict false) run) (event : Event) :
    run.complete (plan.withStrict true) event
      = (run.complete (plan.withStrict false) event).strictly := by
  cases h with
  | connecting => cases event <;> rfl
  | greeting =>
    simp only [complete, upgraded]
    cases incoming? event with
    | some incoming => exact greeted_strictly _ incoming
    | none => rfl
  | pausing _ _ => cases event <;> rfl
  | sending _ _ =>
    cases event with
    | unsent error => exact undelivered_strictly _ _ error
    | _ => rfl
  | @awaiting welcome answers _ hlt =>
    have hlength : ((plan.withStrict false).midway answers).exchanges.length
        = (plan.withStrict false).size := List.length_mapIdx
    simp only [complete]
    cases incoming? event with
    | some incoming => exact answered_strictly (hlength.symm ▸ hlt) incoming
    | none => rfl

/-- **One strict step.** -/
theorem step_strictly (h : Place (plan.withStrict false) run) (event : Event) :
    run.step (plan.withStrict true) event
      = (run.step (plan.withStrict false) event).strictly := by
  have hover : ¬ run.isOver = true := by
    rw [h.isOver_eq_false]
    exact Bool.false_ne_true
  by_cases hcancelled : event = .cancelled
  · subst hcancelled
    rw [step, step, if_neg hover]
    rfl
  · rw [step_of_not_isOver hover _ hcancelled, step_of_not_isOver hover _ hcancelled]
    exact complete_strictly h event

end Run

/-! ## Along a link -/

namespace Passage

/-- What strictness makes of a passage. -/
def strictly (p : Passage) : Passage := { p with run := p.run.strictly }

/-- The same comes next. -/
theorem upcoming_strictly (p : Passage) :
    p.strictly.upcoming (plan.withStrict true) link = p.upcoming (plan.withStrict false) link := by
  have hphase : p.strictly.run.phase = p.run.phase := p.run.phase_strictly
  unfold upcoming next Run.isOver
  rw [hphase]
  rfl

theorem advance_strictly {events : List Event} {p : Passage}
    (h : Course (plan.withStrict false) events p.run) :
    p.strictly.advance (plan.withStrict true) link
      = (p.advance (plan.withStrict false) link).strictly := by
  unfold advance
  rw [upcoming_strictly]
  cases hupcoming : p.upcoming (plan.withStrict false) link with
  | none => rfl
  | some next =>
    obtain ⟨moment, event⟩ := next
    have hover := (upcoming_cases hupcoming).1
    have hplace : Place (plan.withStrict false) p.run :=
      h.place_or_isOver.resolve_right (Bool.eq_false_iff.mp hover)
    have hsame : p.strictly = p := by
      rw [strictly, Run.strictly_of_phase_ne hplace.phase_ne_finished]
    show p.strictly.after (plan.withStrict true) moment event
      = (p.after (plan.withStrict false) moment event).strictly
    rw [hsame]
    unfold after strictly
    simp only [Run.step_strictly hplace, Run.phase_strictly]

end Passage

/-- **The strict run along a link** is what strictness makes of the lenient
one, at every point. -/
theorem passage_strictly (plan : Plan) (link : Link) (n : Nat) :
    link.passage (plan.withStrict true) n
      = (link.passage (plan.withStrict false) n).strictly := by
  induction n with
  | zero => rfl
  | succ n ih =>
    rw [Link.passage_succ, Link.passage_succ, ih]
    exact Passage.advance_strictly (link.course_passage _ n)

/-! ## Probes -/

/-- **What a strict run reports** along a link, beside the lenient one. -/
structure Hardened (plan : Plan) (link : Link) (lenient strict : Report) : Prop where
  target_eq : strict.target = lenient.target
  upgrade_eq : strict.upgrade = lenient.upgrade
  welcome_eq : strict.welcome = lenient.welcome
  exchanges_eq : strict.exchanges = lenient.exchanges
  elapsed_eq : strict.elapsed = lenient.elapsed
  /-- A failure stays what it is. -/
  failed : ∀ reason, lenient.outcome = .failed reason → strict.outcome = .failed reason
  /-- Every other outcome passes if everything is verified, … -/
  passed : lenient.outcome = .passed ∨ lenient.outcome = .timedOut →
    strict.IsClean → strict.outcome = .passed
  /-- … and fails if not. -/
  hardened : lenient.outcome = .passed ∨ lenient.outcome = .timedOut →
    ¬ strict.IsClean → ∃ reason, strict.outcome = .failed ("strict: " ++ reason)
  /-- So there is no timeout. -/
  ne_timedOut : strict.outcome ≠ .timedOut
  /-- The run passes exactly if everything comes, and in time. -/
  passed_iff : strict.outcome = .passed ↔ Prompt plan link

/-- **How a strict probe goes** beside the lenient one. -/
inductive Beside (settings : Settings.Probe) (script : Script) (link : Link) :
    Option (Except ProbeError Report) → Option (Except ProbeError Report) → Prop
  /-- Neither ends. -/
  | hanging : Beside settings script link none none
  /-- There is no report, for the same reason. -/
  | failing (error : ProbeError) :
    Beside settings script link (some (.error error)) (some (.error error))
  | reporting {url : Net.Url} {lenient strict : Report}
      (hurl : Net.Url.parse settings.proxyUrl = .ok url)
      (h : Hardened ⟨url.toText, script, { settings with strict := true }⟩ link lenient strict) :
    Beside settings script link (some (.ok lenient)) (some (.ok strict))

theorem run_strictly (plan : Plan) (link : Link) :
    link.run (plan.withStrict true) = (link.run (plan.withStrict false)).strictly :=
  passage_strictly plan link _

/-- What strictness makes of a report, if it passes just what it should. -/
theorem hardened_strictly {r : Report}
    (h : r.outcome.isSuccess = true → ∀ i, ¬ r.IsMismatchAt i)
    (hpassed : r.strictly.outcome = .passed ↔ Prompt plan link) :
    Hardened plan link r r.strictly := by
  have hsuccess : r.outcome = .passed ∨ r.outcome = .timedOut → r.outcome.isSuccess = true := by
    rintro (houtcome | houtcome)
    · rw [houtcome]
      rfl
    · rw [houtcome]
      rfl
  obtain ⟨outcome, heq⟩ := r.exists_strictly_eq
  have hclean : r.strictly.IsClean ↔ r.IsClean := by
    rw [heq]
    rfl
  refine ⟨?_, ?_, ?_, ?_, ?_, fun reason houtcome => ?_, fun hsoft hstrict => ?_,
    fun hsoft hstrict => ?_, r.outcome_strictly_ne_timedOut, hpassed⟩
  · rw [heq]
  · rw [heq]
  · rw [heq]
  · rw [heq]
  · rw [heq]
  · rw [Report.strictly_of_failed houtcome, houtcome]
  · have hsuccess := hsuccess hsoft
    exact Report.outcome_strictly_of_isClean hsuccess (h hsuccess) (hclean.mp hstrict)
  · have hsuccess := hsuccess hsoft
    exact Report.outcome_strictly_of_not_isClean hsuccess (h hsuccess) (mt hclean.mpr hstrict)

/-- **A strict run passes** exactly if everything comes, and in time. -/
theorem outcome_run_eq_passed_iff
    (hphase : (link.run (plan.withStrict false)).run.phase = .finished) :
    (link.run (plan.withStrict false)).run.report.strictly.outcome = .passed ↔
      Prompt (plan.withStrict true) link := by
  have hcourse : Course (plan.withStrict true) _ (link.run (plan.withStrict true)).run :=
    link.course_passage (plan.withStrict true) _
  have hnot := (link.course_passage (plan.withStrict false) _).not_isMismatchAt hphase
  rw [prompt_iff]
  rw [run_strictly, Passage.strictly, Run.strictly_of_phase_eq hphase] at hcourse ⊢
  constructor
  · intro hpassed
    obtain ⟨hwelcome, hechoes⟩ := Report.isClean_of_strictly hnot hpassed
    obtain ⟨outcome, heq⟩ := (link.run (plan.withStrict false)).run.report.exists_strictly_eq
    obtain ⟨answers, reason, haccount⟩ := hcourse.exists_account
    refine haccount.faultless ?_ ?_
    · show (link.run (plan.withStrict false)).run.report.strictly.welcome = .verified
      rw [heq]
      exact hwelcome
    · show ∀ e ∈ (link.run (plan.withStrict false)).run.report.strictly.exchanges, _
      rw [heq]
      exact hechoes
  · exact hcourse.outcome_of_faultless hphase

/-- **The reports of two runs that have finished.** -/
theorem hardened_run (hphase : (link.run (plan.withStrict false)).run.phase = .finished)
    (elapsed : Duration) :
    Hardened (plan.withStrict true) link
      { (link.run (plan.withStrict false)).run.report with elapsed }
      { (link.run (plan.withStrict true)).run.report with elapsed } := by
  have hnot := (link.course_passage (plan.withStrict false) _).not_isMismatchAt hphase
  have hreport : (link.run (plan.withStrict true)).run.report
      = (link.run (plan.withStrict false)).run.report.strictly := by
    rw [run_strictly, Passage.strictly, Run.strictly_of_phase_eq hphase]
  rw [hreport, ← Report.strictly_elapsed]
  refine hardened_strictly hnot ?_
  rw [Report.strictly_elapsed]
  exact outcome_run_eq_passed_iff hphase

/-- **What a probe ends with** along a link, once the address is accepted. -/
def Link.conclusion (plan : Plan) (link : Link) : Option (Except ProbeError Report) :=
  match (link.run plan).run.phase with
  | .finished => some (.ok { (link.run plan).run.report with elapsed := ⟨(link.run plan).now⟩ })
  | .cancelled => some (.error .cancelled)
  | _ => none

theorem beside_conclusion {settings : Settings.Probe} {url : Net.Url}
    (hurl : Net.Url.parse settings.proxyUrl = .ok url) (script : Script) (link : Link) :
    Beside settings script link
      (link.conclusion ⟨url.toText, script, { settings with strict := false }⟩)
      (link.conclusion ⟨url.toText, script, { settings with strict := true }⟩) := by
  let plan : Plan := ⟨url.toText, script, settings⟩
  have hsame : (link.run (plan.withStrict true)).run.phase
      = (link.run (plan.withStrict false)).run.phase := by
    rw [run_strictly]
    exact Run.phase_strictly _
  have hnow : (link.run (plan.withStrict true)).now
      = (link.run (plan.withStrict false)).now := by
    rw [run_strictly]
    rfl
  show Beside settings script link (link.conclusion (plan.withStrict false))
    (link.conclusion (plan.withStrict true))
  unfold Link.conclusion
  rw [hsame, hnow]
  cases hphase : (link.run (plan.withStrict false)).run.phase with
  | finished => exact .reporting hurl (hardened_run hphase _)
  | cancelled => exact .failing _
  | _ => exact .hanging

/-- **Strictness only turns soft passes into failures**: along every link both
runs send the same frames at every point, and the strict probe goes as the
lenient one does, apart from the outcome. -/
theorem conduct_strict (settings : Settings.Probe) (script : Script) (link : Link) :
    (∀ target n,
      (link.passage ⟨target, script, { settings with strict := true }⟩ n).run.sent
        = (link.passage ⟨target, script, { settings with strict := false }⟩ n).run.sent) ∧
      Beside settings script link
        (conduct { settings with strict := false } script link)
        (conduct { settings with strict := true } script link) := by
  constructor
  · intro target n
    let plan : Plan := ⟨target, script, settings⟩
    show (link.passage (plan.withStrict true) n).run.sent
      = (link.passage (plan.withStrict false) n).run.sent
    rw [passage_strictly]
    exact Run.sent_strictly _
  · unfold conduct
    cases hurl : Net.Url.parse settings.proxyUrl with
    | error fault => exact .failing _
    | ok url =>
      dsimp only
      by_cases hscheme : (!url.isWebSocket) = true
      · rw [if_pos hscheme, if_pos hscheme]
        exact .failing _
      · rw [if_neg hscheme, if_neg hscheme]
        exact beside_conclusion hurl script link

/-- A timeout of the lenient run, and what the strict run says instead. -/
theorem conduct_strict_silent :
    ∃ lenient strict,
      conduct { proxyUrl := "ws://[::1]:8080/ws", strict := false } .minimal silentLink
        = some (.ok lenient) ∧
      lenient.outcome = .timedOut ∧
      conduct { proxyUrl := "ws://[::1]:8080/ws", strict := true } .minimal silentLink
        = some (.ok strict) ∧
      strict.outcome = .failed "strict: 2 round trip(s) unverified" ∧
      Beside { proxyUrl := "ws://[::1]:8080/ws" } .minimal silentLink
        (some (.ok lenient)) (some (.ok strict)) := by
  have hlenient : ((conduct { proxyUrl := "ws://[::1]:8080/ws", strict := false } .minimal
      silentLink).bind Except.toOption).map Report.outcome = some .timedOut := by
    decide +kernel
  have hstrict : ((conduct { proxyUrl := "ws://[::1]:8080/ws", strict := true } .minimal
      silentLink).bind Except.toOption).map Report.outcome
        = some (.failed "strict: 2 round trip(s) unverified") := by
    decide +kernel
  obtain ⟨lenient, hlenient, htimedOut⟩ := exists_report hlenient
  obtain ⟨strict, hstrict, hfailed⟩ := exists_report hstrict
  refine ⟨lenient, strict, hlenient, htimedOut, hstrict, hfailed, ?_⟩
  rw [← hlenient, ← hstrict]
  exact (conduct_strict { proxyUrl := "ws://[::1]:8080/ws" } .minimal silentLink).2

end Probe

end EchoProbe
