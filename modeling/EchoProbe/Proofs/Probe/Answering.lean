import EchoProbe.Proofs.Probe.Completion
import EchoProbe.Proofs.Probe.Shape

/-!
# Every list of answers can be given

A peer may answer the frames of a script with whatever it likes. If it says its welcome and
one answer for each frame at once, on a transport without delays, then nothing stops the
run, and it ends with these answers (`Link.run_saying`).

Along such a link a step is as long as its pause, so that nothing expires (`Going`); and
there is always an answer left to arrive, since each wait has taken one.
-/

namespace EchoProbe.Probe

variable {plan : Plan} {welcome : String} {answers : List String}

/-- A text that is there from the beginning. -/
def Delivery.ofText (text : String) : Delivery := ⟨0, .message (.text text)⟩

/-- **A peer that says these texts at once**, on a transport without delays. -/
def Link.saying (texts : List String) : Link where
  opening := .opens .zero
  inbox := texts.map Delivery.ofText
  sendings := []
  cancelAt := none
  ordered := by
    rw [List.pairwise_map]
    exact List.pairwise_of_forall fun _ _ => Nat.le_refl 0

theorem payloads_ofText (texts : List String) :
    (texts.map Delivery.ofText).filterMap Delivery.payload? = texts := by
  rw [List.filterMap_map]
  exact List.filterMap_some

theorem Link.payloads_saying (texts : List String) : (Link.saying texts).payloads = texts :=
  payloads_ofText texts

/-- **A run along such a link**, as long as it is under way. -/
structure Going (plan : Plan) (p : Passage) : Prop where
  /-- Nothing has stopped it. -/
  place : Place plan p.run
  /-- The step that is under way began just now. -/
  now_le : p.now ≤ p.since
  /-- What is still to arrive is there. -/
  inbox : ∃ texts : List String, p.inbox = texts.map Delivery.ofText
  /-- All sendings go at once. -/
  sendings : p.sendings = []

/-- **Every frame has got its answer.** -/
inductive Done (plan : Plan) : Run → Prop
  | intro {welcome : String} {answers : List String} (hsize : answers.length = plan.size) :
    Done plan ⟨.finished, (plan.midway answers).conclude .completed plan.settings.strict,
      plan.wires, welcome :: answers⟩

theorem Done.upcoming_eq_none {p : Passage} (h : Done plan p.run) (link : Link) :
    p.upcoming plan link = none := by
  have hover : p.run.isOver = true := by
    generalize p.run = run at h
    cases h
    rfl
  rw [Passage.upcoming, if_pos hover]

/-- What happens along such a link. -/
inductive Goes (welcome : String) : Phase → Event → Prop
  | opened : Goes welcome .connecting .opened
  | welcomed : Goes welcome .greeting (.arrived (.message (.text welcome)))
  | resumed {index : Nat} : Goes welcome (.pausing index) .resumed
  | sent {index : Nat} : Goes welcome (.sending index) .sent
  | answered {index : Nat} {text : String} :
    Goes welcome (.awaiting index) (.arrived (.message (.text text)))

theorem Goes.ne_cancelled {phase : Phase} {event : Event} (h : Goes welcome phase event) :
    event ≠ .cancelled := by
  cases h <;> nofun

/-- Nothing of this stops a run. -/
theorem Goes.not_stops (hwelcome : verifyWelcome welcome = .verified) {phase : Phase}
    {event : Event} (h : Goes welcome phase event) (count : Nat) (reason : Nat → String) :
    ¬ Stops plan phase event count reason := by
  intro hstops
  cases h with
  | opened =>
    cases hstops with
    | unconnected h => cases h
  | welcomed =>
    cases hstops with
    | misgreeted h =>
      obtain ⟨htext, hparse⟩ := h
      obtain rfl := Option.some.inj htext
      obtain ⟨message, path, timestamp, heq⟩ :=
        (isVerified_verifyWelcome_iff _).mp (Check.isVerified_iff.mpr hwelcome)
      exact hparse message path timestamp heq
    | greetingBroken h => cases h
    | greetingClosed h => cases h
  | resumed => cases hstops
  | sent =>
    cases hstops with
    | sendingBroken h => cases h
    | sendingClosed h => cases h
  | answered =>
    cases hstops with
    | awaitingBroken h => cases h
    | awaitingClosed h => cases h

namespace Going

variable {p : Passage}

/-- A text that is there arrives at once. -/
theorem within_nextArrival {text : String} {texts : List String} {limit : Moment}
    (hinbox : p.inbox = (text :: texts).map Delivery.ofText) (hlimit : p.now ≤ limit) :
    Passage.within limit .expired p.nextArrival = (p.now, .arrived (.message (.text text))) := by
  have hnext : p.nextArrival = some (p.now, .arrived (.message (.text text))) := by
    rw [Passage.nextArrival, hinbox]
    show some (max p.now 0, _) = _
    rw [Nat.max_zero]
    rfl
  rw [hnext]
  exact if_pos hlimit

/-- **There is always something to happen**, and it takes no time but for a pause. -/
theorem exists_upcoming (hsize : answers.length = plan.size) (h : Going plan p)
    (hreceived : p.run.received ++ p.inbox.filterMap Delivery.payload? = welcome :: answers) :
    ∃ moment event, p.upcoming plan (.saying (welcome :: answers)) = some (moment, event) ∧
      Goes welcome p.run.phase event ∧
      (moment ≤ p.since ∨ ∃ index, p.run.phase = .pausing index ∧ event = .resumed) := by
  obtain ⟨hplace, hnow, ⟨texts, hinbox⟩, hsendings⟩ := h
  have hlimit : ∀ limit, p.now ≤ p.since + limit := fun _ => Nat.le_add_right_of_le hnow
  have hnext : p.upcoming plan (.saying (welcome :: answers))
      = p.next plan (.saying (welcome :: answers)) := by
    rw [Passage.upcoming, hplace.isOver_eq_false]
    rfl
  rw [hinbox, payloads_ofText] at hreceived
  rw [hnext, Passage.next]
  generalize p.run = run at hplace hreceived
  cases hplace with
  | connecting =>
    have hopening : ∀ limit,
        Passage.within limit .unopened (some (0, .opened)) = (0, .opened) := by
      intro limit
      rw [Passage.within, if_pos (Nat.zero_le limit)]
    exact ⟨0, .opened, congrArg some (hopening _), .opened, .inl (Nat.zero_le _)⟩
  | greeting =>
    -- the welcome comes first
    have htexts : texts = welcome :: answers := hreceived
    subst htexts
    refine ⟨_, _, ?_, .welcomed, .inl hnow⟩
    exact congrArg some (within_nextArrival hinbox (hlimit _))
  | pausing => exact ⟨_, _, rfl, .resumed, .inr ⟨_, rfl, rfl⟩⟩
  | sending =>
    refine ⟨p.now, .sent, ?_, .sent, .inl hnow⟩
    show p.nextSending = _
    rw [Passage.nextSending, hsendings]
    rfl
  | @awaiting first given hwelcome hlt =>
    -- there are more answers than have been given
    have hgiven : given ++ texts = answers := (List.cons_eq_cons.mp hreceived).2
    obtain ⟨text, rest, rfl⟩ : ∃ text rest, texts = text :: rest := by
      refine List.exists_cons_of_ne_nil ?_
      rintro rfl
      rw [← (List.append_nil given).symm.trans hgiven] at hsize
      rw [hsize] at hlt
      exact Nat.lt_irrefl _ hlt
    refine ⟨p.now, .arrived (.message (.text text)), ?_, .answered, .inl hnow⟩
    exact congrArg some (within_nextArrival hinbox (hlimit _))

/-- **One event** leads on, until all frames have got their answers. -/
theorem advance (hwelcome : verifyWelcome welcome = .verified)
    (hsize : answers.length = plan.size) (h : Going plan p)
    (hreceived : p.run.received ++ p.inbox.filterMap Delivery.payload? = welcome :: answers) :
    Going plan (p.advance plan (.saying (welcome :: answers))) ∨
      Done plan (p.advance plan (.saying (welcome :: answers))).run := by
  obtain ⟨moment, event, hupcoming, hgoes, htime⟩ := h.exists_upcoming hsize hreceived
  obtain ⟨hplace, hnow, ⟨texts, hinbox⟩, hsendings⟩ := h
  have hleads := hplace.leads event
  rw [← Run.step_of_not_isOver (Bool.eq_false_iff.mp hplace.isOver_eq_false) plan
    hgoes.ne_cancelled] at hleads
  rw [Passage.advance_of_upcoming hupcoming]
  have hafter : p.after plan moment event
      = { p.after plan moment event with run := p.run.step plan event } := rfl
  generalize hrun : p.run.step plan event = run at hleads hafter
  generalize hphase : p.run.phase = phase at hleads hgoes htime
  cases hleads with
  | stopped _ hstops _ _ _ => exact absurd hstops (hgoes.not_stops hwelcome _ _)
  | completed _ hsize => exact .inr (hafter ▸ .intro hsize)
  | place hplace' =>
    refine .inl ⟨hafter ▸ hplace', ?_, ?_, ?_⟩
    · show moment ≤ if (p.run.step plan event).phase = p.run.phase then p.since else moment
      rw [hrun, hphase]
      split
      · next hsame =>
        refine htime.resolve_right ?_
        rintro ⟨index, rfl, rfl⟩
        have hresumed : Event.resumed ≠ .cancelled := nofun
        rw [Run.step_of_not_isOver (Bool.eq_false_iff.mp hplace.isOver_eq_false) plan hresumed]
          at hrun
        simp only [← hrun, Run.complete, hphase] at hsame
        cases hsame
      · exact Nat.le_refl moment
    · cases event with
      | arrived arrival =>
        refine ⟨texts.tail, ?_⟩
        show p.inbox.tail = _
        rw [hinbox, List.map_tail]
      | _ => exact ⟨texts, hinbox⟩
    · cases event <;> simp [Passage.after, hsendings]

end Going

/-- **The run along such a link ends with the answers.** -/
theorem Link.run_saying (hwelcome : verifyWelcome welcome = .verified)
    (hsize : answers.length = plan.size) :
    ((Link.saying (welcome :: answers)).run plan).run
      = ⟨.finished, (plan.midway answers).conclude .completed plan.settings.strict, plan.wires,
        welcome :: answers⟩ := by
  have hgoing : ∀ n, Going plan ((Link.saying (welcome :: answers)).passage plan n) ∨
      Done plan ((Link.saying (welcome :: answers)).passage plan n).run := by
    intro n
    induction n with
    | zero => exact .inl ⟨.connecting, Nat.le_refl 0, ⟨_, rfl⟩, rfl⟩
    | succ n ih =>
      rw [Link.passage_succ]
      rcases ih with hgoing | hdone
      · refine hgoing.advance hwelcome hsize ?_
        rw [Link.received_append_payloads, Link.payloads_saying]
      · rw [Passage.advance, hdone.upcoming_eq_none]
        exact .inr hdone
  have hreceived := Link.received_append_payloads plan (.saying (welcome :: answers))
    ((Link.saying (welcome :: answers)).bound plan)
  rw [Link.payloads_saying] at hreceived
  rcases hgoing ((Link.saying (welcome :: answers)).bound plan) with hgoing | hdone
  · -- a run that is under way would go on
    obtain ⟨moment, event, hupcoming, -⟩ := hgoing.exists_upcoming hsize hreceived
    exact absurd (hupcoming.symm.trans (Link.upcoming_run plan _)) (Option.some_ne_none _)
  · show ((Link.saying (welcome :: answers)).passage plan _).run = _
    generalize (Link.saying (welcome :: answers)).passage plan _ = p at hdone hreceived
    generalize p.run = run at hdone hreceived
    cases hdone with
    | @intro _ given hgiven =>
      obtain ⟨rfl, hrest⟩ := List.cons_eq_cons.mp hreceived
      have happend : given ++ p.inbox.filterMap Delivery.payload? = answers ++ [] :=
        hrest.trans (List.append_nil answers).symm
      obtain ⟨rfl, -⟩ := List.append_inj happend (hgiven.trans hsize.symm)
      rfl

end EchoProbe.Probe
