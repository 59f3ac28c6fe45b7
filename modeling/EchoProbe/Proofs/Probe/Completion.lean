import EchoProbe.Proofs.Probe.Passage

/-!
# Runs come to their end

Every event that a link brings about takes its run further: to a later phase, or
past a message that a wait skips (`todo_after_lt`). So there is a bound on the
events of a run, and `Link.run` goes as far as the run goes: afterwards nothing
comes next (`upcoming_run`).

Then the run is over, unless it hangs. Every step but one has a limit, and that
one is the sending of a frame that the other end does not take; a cancellation
ends it, too (`stalls_of_upcoming_eq_none`).
-/

namespace EchoProbe.Probe

variable {plan : Plan} {link : Link} {run : Run} {event : Event} {moment : Moment}

/-- **The events that belong to a phase**: those that complete its step, and
for a wait everything that arrives. -/
inductive Belongs : Phase → Event → Prop
  | opened : Belongs .connecting .opened
  | refused (error : TransportError) : Belongs .connecting (.refused error)
  | unopened : Belongs .connecting .unopened
  | arrived {phase : Phase} (hwait : phase.isWait = true) (arrival : Arrival) :
    Belongs phase (.arrived arrival)
  | expired {phase : Phase} (hwait : phase.isWait = true) : Belongs phase .expired
  | resumed (index : Nat) : Belongs (.pausing index) .resumed
  | sent (index : Nat) : Belongs (.sending index) .sent
  | unsent (index : Nat) (error : TransportError) : Belongs (.sending index) (.unsent error)

theorem Belongs.ne_cancelled {phase : Phase} (h : Belongs phase event) : event ≠ .cancelled := by
  rintro rfl
  cases h

/-- How many phases can still follow a phase. -/
def Phase.ahead (plan : Plan) : Phase → Nat
  | .connecting => 3 * plan.size + 2
  | .greeting => 3 * plan.size + 1
  | .pausing index => 3 * (plan.size - (index + 1)) + 3
  | .sending index => 3 * (plan.size - (index + 1)) + 2
  | .awaiting index => 3 * (plan.size - (index + 1)) + 1
  | .finished => 0
  | .cancelled => 0

/-! ## One event -/

namespace Run

theorem ahead_proceed (run : Run) (index : Nat) :
    (run.proceed plan index).phase.ahead plan ≤ 3 * (plan.size - index) := by
  unfold proceed
  split
  · dsimp only
    split
    · show 3 * (plan.size - (index + 1)) + 3 ≤ _
      omega
    · show 3 * (plan.size - (index + 1)) + 2 ≤ _
      omega
  · exact Nat.zero_le _

theorem ahead_greeted (run : Run) (incoming : Incoming) :
    (run.greeted plan incoming).phase.ahead plan ≤ 3 * plan.size := by
  cases incoming with
  | payload text =>
    simp only [greeted]
    split
    · exact ahead_proceed _ 0
    · exact Nat.zero_le _
  | _ => exact Nat.zero_le _

theorem ahead_answered (run : Run) (index : Nat) (incoming : Incoming) :
    (run.answered plan index incoming).phase.ahead plan ≤ 3 * (plan.size - (index + 1)) := by
  cases incoming with
  | payload text => exact ahead_proceed _ _
  | _ => exact Nat.zero_le _

theorem ahead_undelivered (run : Run) (index : Nat) (error : TransportError) :
    (run.undelivered plan index error).phase.ahead plan = 0 := by
  unfold undelivered
  split <;> rfl

/-- **An event that belongs to the phase** leads to a later phase, or is
skipped. -/
theorem ahead_complete (h : Belongs run.phase event) :
    (run.complete plan event).phase.ahead plan < run.phase.ahead plan ∨
      run.complete plan event = run ∧ ∃ arrival, event = .arrived arrival := by
  have hwaits : run.phase.isWait = true →
      (∃ incoming, incoming? event = some incoming ∧
        (run.complete plan event).phase.ahead plan < run.phase.ahead plan) ∨
      incoming? event = none ∧ run.complete plan event = run := by
    intro hwait
    unfold complete
    cases hphase : run.phase with
    | greeting =>
      cases hincoming : incoming? event with
      | some incoming => exact .inl ⟨_, rfl, Nat.lt_succ_of_le (ahead_greeted run incoming)⟩
      | none => exact .inr ⟨rfl, rfl⟩
    | awaiting index =>
      cases hincoming : incoming? event with
      | some incoming => exact .inl ⟨_, rfl, Nat.lt_succ_of_le (ahead_answered run index incoming)⟩
      | none => exact .inr ⟨rfl, rfl⟩
    | _ => rw [hphase] at hwait; exact absurd hwait Bool.false_ne_true
  generalize hphase : run.phase = phase at h hwaits
  cases h with
  | arrived hwait arrival =>
    rcases hwaits hwait with ⟨_, -, hlt⟩ | ⟨-, heq⟩
    · exact .inl hlt
    · exact .inr ⟨heq, arrival, rfl⟩
  | expired hwait =>
    rcases hwaits hwait with ⟨_, -, hlt⟩ | ⟨hnone, -⟩
    · exact .inl hlt
    · cases hnone
  | unsent index error =>
    left
    simp only [complete, hphase]
    rw [ahead_undelivered]
    exact Nat.succ_pos _
  | opened | refused _ | unopened | resumed _ | sent _ =>
    left
    simp only [complete, hphase]
    simp only [upgraded, fail, finish, delivered, Phase.ahead]
    omega

/-- A run that is not over has something ahead. -/
theorem ahead_pos (h : run.isOver = false) : 0 < run.phase.ahead plan := by
  unfold Run.isOver at h
  cases hphase : run.phase with
  | finished => rw [hphase] at h; cases h
  | cancelled => rw [hphase] at h; cases h
  | _ => exact Nat.succ_pos _

end Run

namespace Passage

variable {p : Passage}

theorem belongs_of_nextOpening {opening : Opening}
    (h : nextOpening opening = some (moment, event)) : Belongs .connecting event := by
  cases opening with
  | opens delay =>
    cases h
    exact .opened
  | refuses delay error =>
    cases h
    exact .refused error
  | silent => cases h

theorem belongs_of_nextSending {index : Nat} (h : p.nextSending = some (moment, event)) :
    Belongs (.sending index) event := by
  unfold nextSending at h
  split at h
  · cases h
    exact .sent index
  · cases h
    exact .sent index
  · cases h
    exact .unsent index _
  · cases h

theorem belongs_of_nextArrival {phase : Phase} {limit : Moment} (hwait : phase.isWait = true)
    (h : within limit .expired p.nextArrival = (moment, event)) : Belongs phase event := by
  by_cases hlate : event = .expired
  · rw [hlate]
    exact .expired hwait
  · obtain ⟨d, -, hd⟩ := Option.map_eq_some_iff.mp (eq_of_within h hlate)
    obtain ⟨-, rfl⟩ := Prod.mk.inj hd
    exact .arrived hwait d.arrival

/-- **What comes next belongs to the phase.** -/
theorem belongs_of_next (h : p.next plan link = some (moment, event)) :
    Belongs p.run.phase event := by
  unfold next at h
  cases hphase : p.run.phase with
  | connecting =>
    rw [hphase] at h
    by_cases hlate : event = .unopened
    · rw [hlate]
      exact .unopened
    · exact belongs_of_nextOpening (eq_of_within (Option.some.inj h) hlate)
  | greeting =>
    rw [hphase] at h
    exact belongs_of_nextArrival rfl (Option.some.inj h)
  | awaiting index =>
    rw [hphase] at h
    exact belongs_of_nextArrival rfl (Option.some.inj h)
  | pausing index =>
    rw [hphase] at h
    cases h
    exact .resumed index
  | sending index =>
    rw [hphase] at h
    exact belongs_of_nextSending h
  | finished =>
    rw [hphase] at h
    cases h
  | cancelled =>
    rw [hphase] at h
    cases h

/-- **How many events can still come**: one for each phase that can follow, and one
for each message that can arrive. -/
def todo (plan : Plan) (p : Passage) : Nat := p.run.phase.ahead plan + p.inbox.length

theorem length_inbox_after (p : Passage) (moment : Moment) (event : Event) :
    (p.after plan moment event).inbox.length ≤ p.inbox.length := by
  cases event with
  | arrived arrival => exact (List.tail_sublist p.inbox).length_le
  | _ => exact Nat.le_refl _

/-- **One event less** can still come after each. -/
theorem todo_after_lt (h : p.upcoming plan link = some (moment, event)) :
    (p.after plan moment event).todo plan < p.todo plan := by
  have hinbox : (p.after plan moment event).inbox.length ≤ p.inbox.length :=
    length_inbox_after p moment event
  obtain ⟨hover, hnext⟩ := upcoming_cases h
  have hnot : ¬ p.run.isOver = true := Bool.eq_false_iff.mp hover
  show (p.run.step plan event).phase.ahead plan + _ < _ + p.inbox.length
  by_cases hcancelled : event = .cancelled
  · subst hcancelled
    have hpos : 0 < p.run.phase.ahead plan := Run.ahead_pos hover
    rw [Run.step, if_neg hnot]
    show 0 + _ < _
    omega
  · have hbelongs := belongs_of_next (hnext.resolve_left hcancelled).1
    rw [Run.step_of_not_isOver hnot plan hcancelled]
    have hahead : (p.run.complete plan event).phase.ahead plan < p.run.phase.ahead plan ∨
        p.run.complete plan event = p.run ∧ ∃ arrival, event = .arrived arrival :=
      Run.ahead_complete hbelongs
    rcases hahead with hlt | ⟨heq, arrival, rfl⟩
    · omega
    · -- a message that is skipped has been taken out of the inbox
      obtain ⟨-, d, hd, -⟩ := wait_of_upcoming_arrived h
      rw [heq, hd]
      show _ + p.inbox.tail.length < _ + (d :: p.inbox.tail).length
      exact Nat.lt_succ_self _

theorem advance_of_upcoming (h : p.upcoming plan link = some (moment, event)) :
    p.advance plan link = p.after plan moment event := by
  rw [advance, h]

/-- If nothing comes next, nothing ever does. -/
theorem follow_of_upcoming_eq_none (h : p.upcoming plan link = none) (n : Nat) :
    follow plan link n p = p := by
  have hadvance : p.advance plan link = p := by rw [advance, h]
  induction n with
  | zero => rfl
  | succ n ih => rw [follow, hadvance, ih]

/-- If nothing comes next, there are no more events. -/
theorem trace_of_upcoming_eq_none (h : p.upcoming plan link = none) (n : Nat) :
    trace plan link n p = [] := by
  have hadvance : p.advance plan link = p := by rw [advance, h]
  induction n with
  | zero => rfl
  | succ n ih =>
    rw [trace, h, hadvance, ih]
    rfl

/-- When as many events have come as could, nothing comes next. -/
theorem upcoming_follow_eq_none {n : Nat} (hle : p.todo plan ≤ n) :
    (follow plan link n p).upcoming plan link = none := by
  induction n generalizing p with
  | zero =>
    cases hupcoming : p.upcoming plan link with
    | none => exact hupcoming
    | some next => exact absurd (todo_after_lt hupcoming) (by omega)
  | succ n ih =>
    cases hupcoming : p.upcoming plan link with
    | none =>
      rw [follow_of_upcoming_eq_none hupcoming]
      exact hupcoming
    | some next =>
      have hlt := todo_after_lt hupcoming
      rw [follow, advance_of_upcoming hupcoming]
      exact ih (by omega)

/-- **A run hangs in nothing but a sending**, and not if it is cancelled. -/
theorem stalls_of_upcoming_eq_none (h : p.upcoming plan link = none)
    (hover : p.run.isOver = false) :
    link.cancelAt = none ∧
      ∃ index, p.run.phase = .sending index ∧ p.sendings.head? = some .stalls := by
  unfold upcoming at h
  rw [if_neg (Bool.eq_false_iff.mp hover)] at h
  have hnone : link.cancelAt = none ∧ p.next plan link = none := by
    unfold interrupt at h
    split at h
    · exact ⟨by assumption, h⟩
    · cases h
    · split at h <;> cases h
  refine ⟨hnone.1, ?_⟩
  have hnext := hnone.2
  unfold next at hnext
  unfold Run.isOver at hover
  cases hphase : p.run.phase with
  | sending index =>
    rw [hphase] at hnext
    have hsending : p.nextSending = none := hnext
    unfold nextSending at hsending
    split at hsending
    · cases hsending
    · cases hsending
    · cases hsending
    · next hhead => exact ⟨index, rfl, hhead⟩
  | finished => rw [hphase] at hover; cases hover
  | cancelled => rw [hphase] at hover; cases hover
  | _ => rw [hphase] at hnext; cases hnext

end Passage

/-- **Nothing comes after a run along a link**: it goes as far as it can. -/
theorem Link.upcoming_run (plan : Plan) (link : Link) :
    (link.run plan).upcoming plan link = none := by
  refine Passage.upcoming_follow_eq_none ?_
  show 3 * plan.size + 2 + link.inbox.length ≤ 3 * plan.size + link.inbox.length + 3
  omega

/-- Once nothing comes next, nothing changes any more. -/
theorem Link.passage_of_le {m n : Nat} (hle : m ≤ n)
    (h : (link.passage plan m).upcoming plan link = none) :
    link.passage plan n = link.passage plan m := by
  obtain ⟨k, rfl⟩ := Nat.exists_eq_add_of_le hle
  rw [passage, Passage.follow_add]
  exact Passage.follow_of_upcoming_eq_none h k

/-- Where nothing comes next, the run has got as far as it can. -/
theorem Link.passage_eq_run {n : Nat} (h : (link.passage plan n).upcoming plan link = none) :
    link.passage plan n = link.run plan := by
  rcases Nat.le_total n (link.bound plan) with hle | hle
  · exact (Link.passage_of_le hle h).symm
  · exact Link.passage_of_le hle (link.upcoming_run plan)

end EchoProbe.Probe
