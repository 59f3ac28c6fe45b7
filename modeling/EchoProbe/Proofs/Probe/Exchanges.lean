import EchoProbe.Probe.Run
import EchoProbe.Proofs.Probe.Verification
import EchoProbe.Proofs.Report

/-!
# Exchanges and their answers

The exchanges of a report are determined by the *answers*, the data messages
that were taken for echoes: each exchange with an answer has the check of this
answer, and each later one is open and gives a reason (`Plan.exchanges`). The
operations by which a run puts down its checks are said here in these terms:
they add an answer, or change the reasons.
-/

namespace EchoProbe.Probe.Plan

/-! ## Wires -/

variable {plan : Plan}

theorem length_wires : plan.wires.length = plan.size := List.length_map _

theorem wire_of_getElem? {i : Nat} {frame : Frame} (h : plan.script.frames[i]? = some frame) :
    plan.wire i = frame.wire := by
  rw [wire, wires, List.getD_eq_getElem?_getD, List.getElem?_map, h]
  rfl

/-- The frames up to an index and the one at it. -/
theorem take_succ_wires {k : Nat} (hk : k < plan.size) :
    plan.wires.take (k + 1) = plan.wires.take k ++ [plan.wire k] := by
  have hlt : k < plan.wires.length := by rwa [length_wires]
  rw [wire, List.getD_eq_getElem?_getD, List.getElem?_eq_getElem hlt, Option.getD_some,
    List.take_succ_eq_append_getElem hlt]

/-! ## Exchanges -/

/-- **The exchanges after these answers.** -/
def exchanges (plan : Plan) (answers : List String) (reason : Nat → String) : List Exchange :=
  plan.script.frames.mapIdx fun i frame =>
    ⟨frame, (answers[i]?).elim (.unverified (reason i)) (verifyEcho frame.wire)⟩

variable {answers : List String} {reason : Nat → String}

theorem getElem?_exchanges (i : Nat) :
    (plan.exchanges answers reason)[i]? = (plan.script.frames[i]?).map fun frame =>
      ⟨frame, (answers[i]?).elim (.unverified (reason i)) (verifyEcho frame.wire)⟩ :=
  List.getElem?_mapIdx

theorem map_sent_exchanges : (plan.exchanges answers reason).map Exchange.sent
    = plan.script.frames := by
  refine List.ext_getElem? fun i => ?_
  rw [List.getElem?_map, getElem?_exchanges, Option.map_map]
  exact Option.map_id'

/-- The exchanges with an answer have a result. -/
theorem exchanges_of_lt {index : Nat} (hlt : index < answers.length)
    (hle : answers.length ≤ plan.size) :
    ∃ frame check, (plan.exchanges answers reason)[index]? = some ⟨frame, check⟩ ∧
      (check = .verified ∨ ∃ received, check = .mismatch received) := by
  have hindex : index < plan.script.frames.length := Nat.lt_of_lt_of_le hlt hle
  rw [getElem?_exchanges, List.getElem?_eq_getElem hindex, List.getElem?_eq_getElem hlt]
  refine ⟨_, _, rfl, ?_⟩
  have hopen := isUnverified_verifyEcho (plan.script.frames[index]).wire answers[index]
  show verifyEcho _ _ = _ ∨ ∃ _, verifyEcho _ _ = _
  cases hcheck : verifyEcho (plan.script.frames[index]).wire answers[index] with
  | verified => exact .inl rfl
  | mismatch received => exact .inr ⟨received, rfl⟩
  | unverified why => rw [hcheck] at hopen; exact absurd hopen nofun

/-- All others give their reason. -/
theorem exchanges_of_le {index : Nat} {e : Exchange} (hle : answers.length ≤ index)
    (h : (plan.exchanges answers reason)[index]? = some e) :
    e.check = .unverified (reason index) := by
  rw [getElem?_exchanges, List.getElem?_eq_none hle] at h
  obtain ⟨frame, -, rfl⟩ := Option.map_eq_some_iff.mp h
  rfl

/-- The exchanges of right answers are verified. -/
theorem verified_exchanges
    (h : ∀ index < plan.size, ∃ text, answers[index]? = some text ∧
      verifyEcho (plan.wire index) text = .verified) :
    ∀ e ∈ plan.exchanges answers reason, e.check = .verified := by
  intro e he
  obtain ⟨index, hindex⟩ := List.mem_iff_getElem?.mp he
  rw [getElem?_exchanges] at hindex
  obtain ⟨frame, hframe, rfl⟩ := Option.map_eq_some_iff.mp hindex
  obtain ⟨text, htext, hverified⟩ := h index (List.getElem?_eq_some_iff.mp hframe).1
  rw [wire_of_getElem? hframe] at hverified
  rw [htext]
  exact hverified

/-- Only the reasons of the open exchanges matter. -/
theorem exchanges_congr {reason' : Nat → String}
    (h : ∀ i, answers.length ≤ i → reason i = reason' i) :
    plan.exchanges answers reason = plan.exchanges answers reason' := by
  refine List.ext_getElem? fun i => ?_
  rw [getElem?_exchanges, getElem?_exchanges]
  rcases Nat.lt_or_ge i answers.length with hlt | hle
  · rw [List.getElem?_eq_getElem hlt]
    rfl
  · rw [List.getElem?_eq_none hle, h i hle]

/-- At first no exchange has an answer. -/
theorem exchanges_nil (target : String) :
    (Report.pending target plan.script.frames).exchanges
      = plan.exchanges [] fun _ => "not sent" := by
  refine List.ext_getElem? fun i => ?_
  rw [getElem?_exchanges]
  exact List.getElem?_map

variable {r : Report}

/-- Taking down the check of the next answer. -/
theorem exchanges_setCheck_answer (h : r.exchanges = plan.exchanges answers reason)
    (text : String) :
    (r.setCheck answers.length (verifyEcho (plan.wire answers.length) text)).exchanges
      = plan.exchanges (answers ++ [text]) reason := by
  refine List.ext_getElem? fun i => ?_
  rw [Report.getElem?_setCheck, h, getElem?_exchanges, getElem?_exchanges,
    Option.map_map]
  cases hframe : plan.script.frames[i]? with
  | none => rfl
  | some frame =>
    -- before the new answer, at it, and behind it
    rcases Nat.lt_trichotomy i answers.length with hlt | rfl | hlt
    · simp only [Option.map_some, Function.comp, if_neg (Nat.ne_of_gt hlt),
        List.getElem?_append_left hlt]
    · simp only [Option.map_some, Function.comp, List.getElem?_concat_length,
        wire_of_getElem? hframe]
      rfl
    · have hnone : (answers ++ [text])[i]? = none := by
        rw [List.getElem?_eq_none_iff, List.length_append, List.length_singleton]
        exact hlt
      simp only [Option.map_some, Function.comp, if_neg (Nat.ne_of_lt hlt), hnone,
        List.getElem?_eq_none (Nat.le_of_lt hlt)]

/-- Putting a reason to an open exchange. -/
theorem exchanges_setCheck_open (h : r.exchanges = plan.exchanges answers reason)
    {index : Nat} (hindex : answers.length ≤ index) (why : String) :
    (r.setCheck index (.unverified why)).exchanges
      = plan.exchanges answers fun i => if i = index then why else reason i := by
  refine List.ext_getElem? fun i => ?_
  rw [Report.getElem?_setCheck, h, getElem?_exchanges, getElem?_exchanges,
    Option.map_map]
  refine congrFun (congrArg Option.map (funext fun frame => ?_)) _
  by_cases hi : index = i
  · subst hi
    simp only [Function.comp, List.getElem?_eq_none hindex]
    rfl
  · simp only [Function.comp, if_neg hi, if_neg (Ne.symm hi)]

/-- Giving up keeps the answers. -/
theorem exchanges_abandonFrom (h : r.exchanges = plan.exchanges answers reason)
    (index : Nat) (why : String) :
    (r.abandonFrom index why).exchanges
      = plan.exchanges answers fun i => if index ≤ i then why else reason i := by
  refine List.ext_getElem? fun i => ?_
  rw [Report.getElem?_abandonFrom, h, getElem?_exchanges, getElem?_exchanges,
    Option.map_map]
  refine congrFun (congrArg Option.map (funext fun frame => ?_)) _
  by_cases hi : index ≤ i
  · simp only [Function.comp, if_pos hi]
    cases answers[i]? with
    | none => rfl
    | some text =>
      show Exchange.mk frame ((verifyEcho frame.wire text).abandon why) = _
      rw [Check.abandon_of_isUnverified (isUnverified_verifyEcho _ _)]
      rfl
  · simp only [Function.comp, if_neg hi]

end EchoProbe.Probe.Plan
