import EchoProbe.Report

/-!
# How the outcome of a report is derived

`Report.conclude` looks at the checks only through two questions: which
exchange is the first mismatch, and, in a strict run, whether anything is
open. Giving up on exchanges (`Report.abandonFrom`) replaces open checks by
open checks, so that it changes neither answer; recording a check changes the
answer at one index only.
-/

namespace EchoProbe

/-- Giving up keeps a check that has a result. -/
theorem Check.abandon_of_isUnverified {check : Check} (h : check.isUnverified = false)
    (reason : String) : check.abandon reason = check := by
  cases check with
  | unverified reason => exact absurd h nofun
  | _ => rfl

theorem Check.isVerified_iff {check : Check} : check.isVerified = true ↔ check = .verified := by
  cases check with
  | verified => exact iff_of_true rfl rfl
  | _ => exact iff_of_false nofun nofun

namespace Report

variable (r : Report) (index : Nat)

/-! ## Single exchanges -/

theorem getElem?_setCheck (check : Check) (i : Nat) :
    (r.setCheck index check).exchanges[i]?
      = (r.exchanges[i]?).map fun e => if index = i then { e with check } else e := by
  show (r.exchanges.modify index _)[i]? = _
  rw [List.getElem?_modify]
  by_cases h : index = i
  · simp only [if_pos h]
    rfl
  · simp only [if_neg h]
    rfl

theorem getElem?_abandonFrom (reason : String) (i : Nat) :
    (r.abandonFrom index reason).exchanges[i]?
      = (r.exchanges[i]?).map fun e =>
          if index ≤ i then { e with check := e.check.abandon reason } else e := by
  show (r.exchanges.take index ++ (r.exchanges.drop index).map _)[i]? = _
  rw [List.getElem?_append, List.length_take]
  by_cases h : i < min index r.exchanges.length
  · rw [if_pos h, List.getElem?_take_of_lt (by omega)]
    simp only [if_neg (show ¬ index ≤ i by omega), Option.map_id']
  · rw [if_neg h, List.getElem?_map, List.getElem?_drop]
    by_cases hlen : index ≤ r.exchanges.length
    · rw [Nat.min_eq_left hlen, show index + (i - index) = i by omega]
      simp only [if_pos (show index ≤ i by omega)]
    · rw [List.getElem?_eq_none (by omega), List.getElem?_eq_none (by omega)]
      rfl

theorem length_setCheck (check : Check) :
    (r.setCheck index check).exchanges.length = r.exchanges.length :=
  List.length_modify _ _ _

theorem length_abandonFrom (reason : String) :
    (r.abandonFrom index reason).exchanges.length = r.exchanges.length := by
  show (r.exchanges.take index ++ (r.exchanges.drop index).map _).length = _
  rw [List.length_append, List.length_map, ← List.length_append, List.take_append_drop]

/-- Giving up makes no mismatch and hides none. -/
theorem isMismatch_abandon (check : Check) (reason : String) :
    (check.abandon reason).isMismatch = check.isMismatch := by
  cases check <;> rfl

/-! ## Mismatches -/

/-- **The exchange at an index is a mismatch.** -/
def IsMismatchAt (i : Nat) : Prop :=
  ∃ e, r.exchanges[i]? = some e ∧ e.check.isMismatch = true

theorem isMismatchAt_abandonFrom_iff (reason : String) (i : Nat) :
    (r.abandonFrom index reason).IsMismatchAt i ↔ r.IsMismatchAt i := by
  unfold IsMismatchAt
  rw [getElem?_abandonFrom]
  cases r.exchanges[i]? with
  | none => simp
  | some e =>
    by_cases h : index ≤ i
    · simp [h, isMismatch_abandon]
    · simp [h]

theorem isMismatchAt_setCheck_iff (check : Check) (i : Nat) :
    (r.setCheck index check).IsMismatchAt i
      ↔ if index = i then i < r.exchanges.length ∧ check.isMismatch = true
        else r.IsMismatchAt i := by
  unfold IsMismatchAt
  rw [getElem?_setCheck]
  by_cases h : index = i
  · rw [if_pos h]
    by_cases hi : i < r.exchanges.length
    · simp [h, hi]
    · simp [h, hi]
  · simp [h]

/-- A conclusion changes the outcome and nothing else. -/
theorem exists_conclude_eq (ending : Ending) (strict : Bool) :
    ∃ outcome, r.conclude ending strict = { r with outcome } := by
  unfold conclude
  split
  · exact ⟨r.outcome, rfl⟩
  · split
    · exact ⟨_, rfl⟩
    · split
      · exact ⟨_, rfl⟩
      · exact ⟨_, rfl⟩

/-- Without a mismatch, a lenient run has the outcome of its ending. -/
theorem outcome_conclude_of_forall_not {ending : Ending} (hending : ending ≠ .broken)
    (h : ∀ i, ¬ r.IsMismatchAt i) :
    (r.conclude ending false).outcome = softOutcome ending := by
  have hnone : r.exchanges.findIdx? (·.check.isMismatch) = none := by
    rw [List.findIdx?_eq_none_iff]
    intro e he
    obtain ⟨i, hi⟩ := List.mem_iff_getElem?.mp he
    exact Bool.eq_false_iff.mpr fun hmismatch => h i ⟨e, hi, hmismatch⟩
  rw [conclude, if_neg hending, hnone]
  rfl

/-- **A mismatch fails the run** whatever its ending, with the number of the
first one. -/
theorem outcome_conclude_of_first {ending : Ending} (hending : ending ≠ .broken) (strict : Bool)
    {i : Nat} (hi : r.IsMismatchAt i) (hfirst : ∀ j < i, ¬ r.IsMismatchAt j) :
    (r.conclude ending strict).outcome
      = .failed ("echo mismatch on message " ++ Text.decimal (i + 1)) := by
  obtain ⟨e, he, hmismatch⟩ := hi
  have hsome : r.exchanges.findIdx? (·.check.isMismatch) = some i := by
    obtain ⟨hlt, hget⟩ := List.getElem?_eq_some_iff.mp he
    rw [List.findIdx?_eq_some_iff_getElem]
    refine ⟨hlt, by rw [hget]; exact hmismatch, fun j hj hj' => ?_⟩
    exact hfirst j hj ⟨_, List.getElem?_eq_getElem _, hj'⟩
  rw [conclude, if_neg hending, hsome]
  rfl

/-- A conclusion that is no failure has met no mismatch. -/
theorem not_isMismatchAt_conclude {ending : Ending} {strict : Bool} (hending : ending ≠ .broken)
    (h : (r.conclude ending strict).outcome.isSuccess = true) (i : Nat) :
    ¬ (r.conclude ending strict).IsMismatchAt i := by
  obtain ⟨outcome, heq⟩ := r.exists_conclude_eq ending strict
  rw [heq]
  rintro ⟨e, he, hmismatch⟩
  rw [conclude, if_neg hending] at h
  cases hfirst : r.exchanges.findIdx? (·.check.isMismatch) with
  | some first =>
    rw [hfirst] at h
    exact absurd h nofun
  | none =>
    have hnot := List.findIdx?_eq_none_iff.mp hfirst e (List.mem_of_getElem? he)
    exact Bool.false_ne_true (hnot.symm.trans hmismatch)

/-- **A run in which everything is verified passes**, strict or not. -/
theorem conclude_of_verified (hwelcome : r.welcome = .verified)
    (h : ∀ e ∈ r.exchanges, e.check = .verified) (strict : Bool) :
    r.conclude .completed strict = { r with outcome := .passed } := by
  have hnone : r.exchanges.findIdx? (·.check.isMismatch) = none := by
    rw [List.findIdx?_eq_none_iff]
    intro e he
    rw [h e he]
    rfl
  have hopen : r.unverifiedCount = 0 := by
    rw [unverifiedCount, List.countP_eq_zero]
    intro e he
    rw [h e he]
    exact Bool.false_ne_true
  have hstrict : r.strictFailure? = none := by
    rw [strictFailure?, hwelcome, hopen]
    rfl
  rw [conclude, if_neg (by decide), hnone, hstrict, ite_self]
  rfl

end Report

end EchoProbe
