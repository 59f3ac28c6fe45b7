import Mathlib.Data.List.Induction
import Mathlib.Data.String.Basic
import EchoProbe.Json.Value

/-!
# What a written list of members amounts to

`Members.collect` puts the members of a written list one after the other into
an ordered list. The result is ordered (`collect_pairwise`), it holds nothing
that was not written (`mem_of_mem_collect`), and of a repeated name the last
value counts (`lookup_collect`). A list that is ordered already stays as it
is (`collect_of_pairwise`), so a written object that was collected before is
collected to itself.
-/

namespace EchoProbe.Json.Members

/-- The order of the members of a canonical object. -/
abbrev Ordered (ms : Members) : Prop := ms.Pairwise fun m n => m.1 < n.1

variable {name other : String} {value : Value} {ms : Members}

/-! ## One member -/

/-- What is in the list afterwards was there before, or is the new member. -/
theorem mem_of_mem_insert {m : String × Value} (h : m ∈ insert name value ms) :
    m = (name, value) ∨ m ∈ ms := by
  induction ms with
  | nil => exact Or.inl (by simpa [insert] using h)
  | cons n ms ih =>
    rw [insert] at h
    split at h
    · exact (List.mem_cons.mp h).imp_right id
    · split at h
      · exact (List.mem_cons.mp h).imp_right (List.mem_cons_of_mem n)
      · rcases List.mem_cons.mp h with rfl | h
        · exact Or.inr List.mem_cons_self
        · exact (ih h).imp_right (List.mem_cons_of_mem n)

/-- The new name is there, and the names there before stay. -/
theorem exists_mem_insert (h : other = name ∨ ∃ v, (other, v) ∈ ms) :
    ∃ v, (other, v) ∈ insert name value ms := by
  induction ms with
  | nil =>
    rcases h with rfl | ⟨v, hv⟩
    · exact ⟨value, by simp [insert]⟩
    · exact absurd hv (by simp)
  | cons n ms ih =>
    rw [insert]
    split
    · rcases h with rfl | ⟨v, hv⟩
      · exact ⟨value, List.mem_cons_self⟩
      · exact ⟨v, List.mem_cons_of_mem _ hv⟩
    · split
      · next heq =>
        rcases h with rfl | ⟨v, hv⟩
        · exact ⟨value, List.mem_cons_self⟩
        · rcases List.mem_cons.mp hv with rfl | hv
          · exact ⟨value, by rw [heq]; exact List.mem_cons_self⟩
          · exact ⟨v, List.mem_cons_of_mem _ hv⟩
      · rcases h with rfl | ⟨v, hv⟩
        · obtain ⟨v, hv⟩ := ih (Or.inl rfl)
          exact ⟨v, List.mem_cons_of_mem _ hv⟩
        · rcases List.mem_cons.mp hv with rfl | hv
          · exact ⟨v, List.mem_cons_self⟩
          · obtain ⟨v, hv⟩ := ih (Or.inr ⟨v, hv⟩)
            exact ⟨v, List.mem_cons_of_mem _ hv⟩

/-- Putting a member in keeps the order. -/
theorem insert_pairwise (h : Ordered ms) : Ordered (insert name value ms) := by
  induction ms with
  | nil => exact List.pairwise_singleton _ _
  | cons m ms ih =>
    obtain ⟨hm, hms⟩ := List.pairwise_cons.mp h
    rw [insert]
    split
    · next hlt =>
      refine List.pairwise_cons.mpr ⟨fun n hn => ?_, h⟩
      rcases List.mem_cons.mp hn with rfl | hn
      · exact hlt
      · exact hlt.trans (hm n hn)
    · next hnlt =>
      split
      · next heq =>
        -- the new value takes the place of the old one, under the same name
        exact List.pairwise_cons.mpr ⟨fun n hn => heq ▸ hm n hn, hms⟩
      · next hne =>
        have hgt : m.1 < name := lt_of_le_of_ne (not_lt.mp hnlt) (Ne.symm hne)
        refine List.pairwise_cons.mpr ⟨fun n hn => ?_, ih hms⟩
        rcases mem_of_mem_insert hn with rfl | hn
        · exact hgt
        · exact hm n hn

/-- A member whose name is the largest goes to the end. -/
theorem insert_of_forall_lt (h : ∀ m ∈ ms, m.1 < name) :
    insert name value ms = ms ++ [(name, value)] := by
  induction ms with
  | nil => rfl
  | cons m ms ih =>
    have hlt : m.1 < name := h m List.mem_cons_self
    rw [insert, if_neg (not_lt.mpr hlt.le), if_neg hlt.ne',
      ih (fun n hn => h n (List.mem_cons_of_mem m hn))]
    rfl

theorem lookup_cons (key other : String) (value : Value) (ms : Members) :
    List.lookup other ((key, value) :: ms)
      = if other = key then some value else ms.lookup other := by
  rw [List.lookup_cons]
  by_cases h : other = key
  · rw [if_pos h, beq_iff_eq.mpr h]
  · rw [if_neg h, beq_eq_false_iff_ne.mpr h]

/-- The new member is found by its name, and the others as before. -/
theorem lookup_insert :
    (insert name value ms).lookup other
      = if other = name then some value else ms.lookup other := by
  induction ms with
  | nil => exact lookup_cons name other value []
  | cons m ms ih =>
    obtain ⟨key, old⟩ := m
    rw [insert]
    split
    · exact lookup_cons name other value ((key, old) :: ms)
    · split
      · next heq =>
        obtain rfl : name = key := heq
        rw [lookup_cons, lookup_cons]
        by_cases h : other = name
        · rw [if_pos h, if_pos h]
        · rw [if_neg h, if_neg h, if_neg h]
      · next hne =>
        rw [lookup_cons, lookup_cons, ih]
        by_cases h : other = key
        · rw [if_pos h, if_neg (h ▸ Ne.symm hne), if_pos h]
        · rw [if_neg h, if_neg h]

/-! ## A whole list -/

/-- The last member written is put in last. -/
theorem collect_concat (ms : Members) (m : String × Value) :
    collect (ms ++ [m]) = insert m.1 m.2 (collect ms) := by
  rw [collect, List.foldl_append]
  rfl

/-- **What is collected is ordered by name.** -/
theorem collect_pairwise (ms : Members) : Ordered (collect ms) := by
  induction ms using List.reverseRecOn with
  | nil => exact List.Pairwise.nil
  | append_singleton ms m ih =>
    rw [collect_concat]
    exact insert_pairwise ih

theorem mem_of_mem_collect {m : String × Value} (h : m ∈ collect ms) : m ∈ ms := by
  induction ms using List.reverseRecOn with
  | nil => exact h
  | append_singleton ms n ih =>
    rw [collect_concat] at h
    rcases mem_of_mem_insert h with rfl | h
    · exact List.mem_append_right ms (List.mem_singleton.mpr rfl)
    · exact List.mem_append_left [n] (ih h)

/-- No name that was written is lost. -/
theorem exists_mem_collect (h : ∃ v, (name, v) ∈ ms) : ∃ v, (name, v) ∈ collect ms := by
  induction ms using List.reverseRecOn with
  | nil => exact h
  | append_singleton ms n ih =>
    rw [collect_concat]
    obtain ⟨v, hv⟩ := h
    refine exists_mem_insert ((List.mem_append.mp hv).symm.imp (fun hn => ?_) fun hms => ih ⟨v, hms⟩)
    exact congrArg Prod.fst (List.mem_singleton.mp hn)

/-- **An ordered list is collected to itself.** -/
theorem collect_of_pairwise (h : Ordered ms) : collect ms = ms := by
  induction ms using List.reverseRecOn with
  | nil => rfl
  | append_singleton ms m ih =>
    obtain ⟨hms, -, hm⟩ := List.pairwise_append.mp h
    rw [collect_concat, ih hms,
      insert_of_forall_lt fun n hn => hm n hn m (List.mem_singleton.mpr rfl)]

/-- **Of a repeated name the last value counts.** -/
theorem lookup_collect (ms : Members) (name : String) :
    (collect ms).lookup name = ms.reverse.lookup name := by
  induction ms using List.reverseRecOn with
  | nil => rfl
  | append_singleton ms m ih =>
    rw [collect_concat, lookup_insert, List.reverse_append, List.reverse_singleton,
      List.singleton_append, lookup_cons, ih]

end EchoProbe.Json.Members
