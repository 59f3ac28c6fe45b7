import Mathlib.Data.Nat.Find
import EchoProbe.Proofs.Probe.Completion
import EchoProbe.Proofs.Probe.Strictness

/-!
# Runs that are cancelled

A run that is cancelled at a moment is compared with the same run left alone.
As long as each step is done before that moment, the two are the same
(`passage_cancelling`). The first step that is not – it would be done at that moment
or later, or never – is caught: the run ends there, as it stands
(`run_cancelling_of_caught`).

So there are two cases and no third. A cancellation catches the run, which then has no
report; or it comes after the last step, and the report is the one of the run left alone
(`cancels`).
-/

namespace EchoProbe.Probe

variable {plan : Plan} {link : Link} {t : Moment}

namespace Passage

variable {p : Passage}

/-- **A step that is caught** by a cancellation at a moment: left alone, it is not done before. -/
def Caught (plan : Plan) (link : Link) (t : Moment) (p : Passage) : Prop :=
  p.run.isOver = false ∧
    ∀ moment event, p.upcoming plan (link.cancelling none) = some (moment, event) → t ≤ moment

theorem upcoming_of_isOver (h : p.run.isOver = true) (plan : Plan) (link : Link) :
    p.upcoming plan link = none := by
  rw [upcoming, if_pos h]

theorem upcoming_cancelling_none (h : p.run.isOver = false) :
    p.upcoming plan (link.cancelling none) = p.next plan link := by
  rw [upcoming, if_neg (Bool.eq_false_iff.mp h)]
  rfl

/-- A step that is caught is cancelled. -/
theorem Caught.upcoming_cancelling (h : p.Caught plan link t) :
    p.upcoming plan (link.cancelling (some t)) = some (max p.now t, .cancelled) := by
  obtain ⟨hover, hlate⟩ := h
  simp only [upcoming_cancelling_none hover] at hlate
  rw [upcoming, if_neg (Bool.eq_false_iff.mp hover)]
  show interrupt (some t) p.now (p.next plan link) = _
  cases hnext : p.next plan link with
  | none => rfl
  | some next =>
    obtain ⟨moment, event⟩ := next
    exact if_pos (hlate moment event hnext)

/-- A step that is not caught is done before. -/
theorem exists_of_not_caught (hover : p.run.isOver = false) (h : ¬ p.Caught plan link t) :
    ∃ moment event,
      p.upcoming plan (link.cancelling none) = some (moment, event) ∧ moment < t := by
  by_contra hnone
  exact h ⟨hover, fun moment event hupcoming =>
    Nat.not_lt.mp fun hlt => hnone ⟨moment, event, hupcoming, hlt⟩⟩

/-- It is done as if there were no cancellation. -/
theorem upcoming_cancelling (h : ¬ p.Caught plan link t) :
    p.upcoming plan (link.cancelling (some t)) = p.upcoming plan (link.cancelling none) := by
  cases hover : p.run.isOver with
  | true => rw [upcoming_of_isOver hover, upcoming_of_isOver hover]
  | false =>
    obtain ⟨moment, event, hupcoming, hlt⟩ := exists_of_not_caught hover h
    rw [hupcoming, upcoming, if_neg (Bool.eq_false_iff.mp hover)]
    rw [upcoming_cancelling_none hover] at hupcoming
    show interrupt (some t) p.now (p.next plan link) = _
    rw [hupcoming]
    exact if_neg (Nat.not_le.mpr hlt)

end Passage

/-! ## Whole runs -/

/-- **A cancellation at a moment catches a run**: left alone, the run has a step that is
done at that moment or later, or it hangs. -/
inductive Link.Catches (plan : Plan) (link : Link) (t : Moment) : Prop
  | step {n : Nat} {moment : Moment} {event : Event}
      (h : ((link.cancelling none).passage plan n).upcoming plan (link.cancelling none)
        = some (moment, event))
      (hle : t ≤ moment) : Catches plan link t
  | hanging (h : ((link.cancelling none).run plan).run.isOver = false) : Catches plan link t

theorem Link.catches_iff :
    link.Catches plan t ↔
      ∃ n, ((link.cancelling none).passage plan n).Caught plan link t := by
  constructor
  · rintro (@⟨n, moment, event, hupcoming, hle⟩ | hover)
    · refine ⟨n, (Passage.upcoming_cases hupcoming).1, fun moment' event' hupcoming' => ?_⟩
      obtain ⟨rfl, rfl⟩ := Prod.mk.inj (Option.some.inj (hupcoming.symm.trans hupcoming'))
      exact hle
    · refine ⟨(link.cancelling none).bound plan, hover, fun moment event hupcoming => ?_⟩
      exact absurd (((link.cancelling none).upcoming_run plan).symm.trans hupcoming) nofun
  · rintro ⟨n, hover, hlate⟩
    cases hupcoming : ((link.cancelling none).passage plan n).upcoming plan
        (link.cancelling none) with
    | some next => exact .step hupcoming (hlate _ _ hupcoming)
    | none =>
      rw [Link.passage_eq_run hupcoming] at hover
      exact .hanging hover

/-- If something is caught, there is a first step that is. -/
theorem Link.Catches.exists_first (h : link.Catches plan t) :
    ∃ n, ((link.cancelling none).passage plan n).Caught plan link t ∧
      ∀ m < n, ¬ ((link.cancelling none).passage plan m).Caught plan link t := by
  classical
  have hexists := Link.catches_iff.mp h
  exact ⟨Nat.find hexists, Nat.find_spec hexists, fun m => Nat.find_min hexists⟩

/-- **Nothing changes before a step is caught.** -/
theorem passage_cancelling {n : Nat}
    (h : ∀ m < n, ¬ ((link.cancelling none).passage plan m).Caught plan link t) :
    (link.cancelling (some t)).passage plan n = (link.cancelling none).passage plan n := by
  induction n with
  | zero => rfl
  | succ n ih =>
    rw [Link.passage_succ, Link.passage_succ, ih fun m hm => h m (Nat.lt_succ_of_lt hm),
      Passage.advance, Passage.advance, Passage.upcoming_cancelling (h n (Nat.lt_succ_self n))]

/-- **The first step that is caught is the last**: the run ends there, as it stands. -/
theorem run_cancelling_of_caught {n : Nat}
    (hcaught : ((link.cancelling none).passage plan n).Caught plan link t)
    (hfirst : ∀ m < n, ¬ ((link.cancelling none).passage plan m).Caught plan link t) :
    ((link.cancelling (some t)).run plan).run
      = { ((link.cancelling none).passage plan n).run with phase := .cancelled } := by
  have hrun : ((link.cancelling (some t)).passage plan (n + 1)).run
      = { ((link.cancelling none).passage plan n).run with phase := .cancelled } := by
    rw [Link.passage_succ, passage_cancelling hfirst,
      Passage.advance_of_upcoming hcaught.upcoming_cancelling]
    show Run.step plan _ .cancelled = _
    rw [Run.step, if_neg (Bool.eq_false_iff.mp hcaught.1)]
  have hover : ((link.cancelling (some t)).passage plan (n + 1)).run.isOver = true := by
    rw [hrun]
    rfl
  rw [← Link.passage_eq_run (Passage.upcoming_of_isOver hover plan _), hrun]

/-- A cancellation that catches nothing changes nothing. -/
theorem run_cancelling (h : ¬ link.Catches plan t) :
    (link.cancelling (some t)).run plan = (link.cancelling none).run plan :=
  passage_cancelling fun m _ hcaught => h (Link.catches_iff.mpr ⟨m, hcaught⟩)

theorem Place.phase_ne_cancelled {run : Run} (h : Place plan run) : run.phase ≠ .cancelled := by
  cases h <;> rintro ⟨⟩

/-- A run that nobody cancels is not cancelled. -/
theorem phase_passage_ne_cancelled (hnone : link.cancelAt = none) (n : Nat) :
    (link.passage plan n).run.phase ≠ .cancelled := by
  induction n with
  | zero => rintro ⟨⟩
  | succ n ih =>
    rw [Link.passage_succ]
    cases hupcoming : (link.passage plan n).upcoming plan link with
    | none => rwa [Passage.advance, hupcoming]
    | some next =>
      obtain ⟨moment, event⟩ := next
      have hover : ¬ (link.passage plan n).run.isOver = true :=
        Bool.eq_false_iff.mp (Passage.upcoming_cases hupcoming).1
      have hplace : Place plan (link.passage plan n).run :=
        (link.course_passage plan n).place_or_isOver.resolve_right hover
      have hevent : event ≠ .cancelled := by
        rw [Passage.upcoming, if_neg hover, hnone] at hupcoming
        exact (Passage.belongs_of_next hupcoming).ne_cancelled
      rw [Passage.advance_of_upcoming hupcoming]
      show ((link.passage plan n).run.step plan event).phase ≠ .cancelled
      rw [Run.step_of_not_isOver hover plan hevent]
      have hleads := hplace.leads event
      generalize (link.passage plan n).run.complete plan event = run at hleads
      cases hleads with
      | place hplace => exact hplace.phase_ne_cancelled
      | completed _ _ => rintro ⟨⟩
      | stopped hphase _ _ _ _ =>
        rw [hphase]
        rintro ⟨⟩

/-! ## Probes -/

/-- Once the address is accepted, a probe ends as its run does. -/
theorem conduct_eq_conclusion {settings : Settings.Probe} {url : Net.Url}
    (hurl : Net.Url.parse settings.proxyUrl = .ok url) (hscheme : url.isWebSocket = true)
    (script : Script) (link : Link) :
    conduct settings script link = link.conclusion ⟨url.toText, script, settings⟩ := by
  have hnot : ¬ (!url.isWebSocket) = true := by
    rw [hscheme]
    exact Bool.false_ne_true
  unfold conduct
  rw [hurl]
  dsimp only
  rw [if_neg hnot]
  rfl

/-- **A probe that nobody cancels** reports, or hangs. -/
theorem conclusion_cancelling_none (plan : Plan) (link : Link) :
    ((link.cancelling none).run plan).run.isOver = true ∧
        (∃ report, (link.cancelling none).conclusion plan = some (.ok report)) ∨
      ((link.cancelling none).run plan).run.isOver = false ∧
        (link.cancelling none).conclusion plan = none := by
  have hphase : ((link.cancelling none).run plan).run.phase ≠ .cancelled :=
    phase_passage_ne_cancelled rfl _
  unfold Link.conclusion Run.isOver
  cases hend : ((link.cancelling none).run plan).run.phase with
  | finished => exact .inl ⟨rfl, _, rfl⟩
  | cancelled => exact absurd hend hphase
  | _ => exact .inr ⟨rfl, rfl⟩

/-- **What a cancellation at a moment does** to a probe along a link. -/
structure Cancels (plan : Plan) (link : Link) (t : Moment) : Prop where
  /-- What it catches has no report, … -/
  caught : link.Catches plan t →
    conduct plan.settings plan.script (link.cancelling (some t)) = some (.error .cancelled)
  /-- … and stands as it stood when all its steps so far were done before. -/
  kept : link.Catches plan t →
    ∃ n, (∀ m < n, ∃ moment event,
        ((link.cancelling none).passage plan m).upcoming plan (link.cancelling none)
          = some (moment, event) ∧ moment < t) ∧
      ((link.cancelling (some t)).run plan).run
        = { ((link.cancelling none).passage plan n).run with phase := .cancelled }
  /-- If it comes after the last step, the report is the one that there would be without it. -/
  spared : ¬ link.Catches plan t → ∃ report,
    conduct plan.settings plan.script (link.cancelling none) = some (.ok report) ∧
      conduct plan.settings plan.script (link.cancelling (some t)) = some (.ok report)
  /-- Everything that is done is done before, the sending of a frame too. -/
  early : ∀ n moment event,
    ((link.cancelling (some t)).passage plan n).upcoming plan (link.cancelling (some t))
      = some (moment, event) → event ≠ .cancelled → moment < t
  /-- Nothing is done afterwards. -/
  last : ∀ n, ((link.cancelling (some t)).passage plan n).run.phase = .cancelled → ∀ m,
    Passage.follow plan (link.cancelling (some t)) m ((link.cancelling (some t)).passage plan n)
      = (link.cancelling (some t)).passage plan n
  /-- If it is there from the beginning, no connection is attempted. -/
  unattempted : t = 0 → (link.cancelling (some t)).events plan = [.cancelled]

/-- The run that is caught stands as it stood. -/
theorem Link.Catches.exists_run_eq (h : link.Catches plan t) :
    ∃ n, (∀ m < n, ∃ moment event,
        ((link.cancelling none).passage plan m).upcoming plan (link.cancelling none)
          = some (moment, event) ∧ moment < t) ∧
      ((link.cancelling (some t)).run plan).run
        = { ((link.cancelling none).passage plan n).run with phase := .cancelled } := by
  obtain ⟨n, hcaught, hfirst⟩ := h.exists_first
  refine ⟨n, fun m hm => Passage.exists_of_not_caught ?_ (hfirst m hm),
    run_cancelling_of_caught hcaught hfirst⟩
  -- had the run been over before, it would be over still
  refine Bool.eq_false_iff.mpr fun hover => ?_
  have hsame := Link.passage_of_le (Nat.le_of_lt hm)
    (Passage.upcoming_of_isOver hover plan (link.cancelling none))
  rw [← hsame, hcaught.1] at hover
  exact Bool.false_ne_true hover

/-- A run that is cancelled from the beginning does nothing. -/
theorem events_cancelling_zero (plan : Plan) (link : Link) :
    (link.cancelling (some 0)).events plan = [.cancelled] := by
  have hcaught : (Passage.start plan link).Caught plan link 0 := ⟨rfl, fun _ _ _ => Nat.zero_le _⟩
  have hover : ∀ moment,
      ((Passage.start plan link).after plan moment .cancelled).run.isOver = true := fun _ => rfl
  show Passage.trace plan _ (3 * plan.size + link.inbox.length + 2 + 1) (.start plan link) = _
  rw [Passage.trace, hcaught.upcoming_cancelling,
    Passage.advance_of_upcoming hcaught.upcoming_cancelling,
    Passage.trace_of_upcoming_eq_none (Passage.upcoming_of_isOver (hover _) plan _)]
  rfl

/-- **Every cancellation does so**, whenever it comes. -/
theorem cancels {settings : Settings.Probe} {url : Net.Url}
    (hurl : Net.Url.parse settings.proxyUrl = .ok url) (hscheme : url.isWebSocket = true)
    (script : Script) (link : Link) (t : Moment) :
    Cancels ⟨url.toText, script, settings⟩ link t := by
  have hconduct := conduct_eq_conclusion hurl hscheme script
  refine ⟨fun h => ?_, Link.Catches.exists_run_eq, fun h => ?_,
    fun n moment event hupcoming hevent => ?_, fun n hphase m => ?_, ?_⟩
  · obtain ⟨n, -, hrun⟩ := h.exists_run_eq
    rw [hconduct, Link.conclusion, hrun]
  · rw [hconduct, hconduct]
    rcases conclusion_cancelling_none ⟨url.toText, script, settings⟩ link with
      ⟨-, report, hreport⟩ | ⟨hover, -⟩
    · refine ⟨report, hreport, ?_⟩
      rw [Link.conclusion, run_cancelling h]
      exact hreport
    · exact absurd (.hanging hover) h
  · exact Passage.lt_cancelAt_of_upcoming hupcoming hevent rfl
  · refine Passage.follow_of_upcoming_eq_none (Passage.upcoming_of_isOver ?_ _ _) m
    rw [Run.isOver, hphase]
  · rintro rfl
    exact events_cancelling_zero _ link

end EchoProbe.Probe
