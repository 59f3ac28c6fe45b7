import EchoProbe.Proofs.Json.Members
import EchoProbe.Proofs.Json.Value
import EchoProbe.Proofs.Yields

/-!
# What a text denotes

Whatever text a value was read from, the value has few enough levels and is
`Denoted`: its objects are ordered by name, and one that the marker leads has
another member. The latter is because the marker may stand first in an
object only if another name was written in front of it, and that name is
still there.

As in `EchoProbe.Proofs.Json.Reading`, the lists are treated for any reader
of elements, and the induction on the levels puts them together.
-/

namespace EchoProbe.Json

open Value

section Lists

variable {item : List Char → Except Fault (Value × List Char)} {P : Value → Prop}

/-- Every item that was read is one that the reader of items gave. -/
theorem forall_of_readItems (hitem : ∀ cs v rest, item cs = .ok (v, rest) → P v) {fuel : Nat}
    {cs rest : List Char} {vs : List Value} (h : readItems item fuel cs = .ok (vs, rest)) :
    ∀ v ∈ vs, P v := by
  induction fuel generalizing cs rest vs with
  | zero => simp [readItems] at h
  | succ fuel ih =>
    rw [readItems] at h
    split at h
    · simp at h
    · next v left hv =>
      split at h
      · simp at h
      · obtain ⟨rfl, -⟩ : [v] = vs ∧ _ = rest := by simpa using h
        exact fun u hu => List.mem_singleton.mp hu ▸ hitem _ _ _ hv
      · split at h
        · next ws tail hws =>
          obtain ⟨rfl, -⟩ : v :: ws = vs ∧ _ = rest := by simpa using h
          exact List.forall_mem_cons.mpr ⟨hitem _ _ _ hv, ih hws⟩
        · simp at h
      · simp at h

/-- Every member that was read has a value that the reader gave, and the
first of them has the first name. -/
theorem forall_of_readMembers (hitem : ∀ cs v rest, item cs = .ok (v, rest) → P v) {fuel : Nat}
    {cs rest : List Char} {ms : Members} (h : readMembers item fuel cs = .ok (ms, rest)) :
    (∀ m ∈ ms, P m.2) ∧ ∀ name left, readName cs = .ok (name, left) → ∃ v, (name, v) ∈ ms := by
  induction fuel generalizing cs rest ms with
  | zero => simp [readMembers] at h
  | succ fuel ih =>
    rw [readMembers] at h
    split at h
    · simp at h
    · next name left hname =>
      have hfirst : ∀ {v : Value} {ns : Members} (other : String) (tail : List Char),
          readName cs = .ok (other, tail) → ∃ w, (other, w) ∈ (name, v) :: ns := by
        intro v ns other tail hother
        rw [hname, Except.ok.injEq, Prod.mk.injEq] at hother
        exact ⟨v, hother.1 ▸ List.mem_cons_self⟩
      split at h
      · simp at h
      · next v left hv =>
        split at h
        · simp at h
        · obtain ⟨rfl, -⟩ : [(name, v)] = ms ∧ _ = rest := by simpa using h
          exact ⟨fun m hm => List.mem_singleton.mp hm ▸ hitem _ _ _ hv, hfirst⟩
        · split at h
          · next ns tail hns =>
            obtain ⟨rfl, -⟩ : (name, v) :: ns = ms ∧ _ = rest := by simpa using h
            exact ⟨List.forall_mem_cons.mpr ⟨hitem _ _ _ hv, (ih hns).1⟩, hfirst⟩
          · simp at h
        · simp at h

end Lists

/-- What is read in the place of a value without parts has none. -/
theorem ne_of_readScalar {cs rest : List Char} {v : Value} (h : readScalar cs = .ok (v, rest)) :
    (∀ vs, v ≠ .array vs) ∧ ∀ ms, v ≠ .object ms := by
  unfold readScalar at h
  split at h
  · simp at h
  · obtain ⟨a, -, heq⟩ := exists_of_map_eq_ok h
    simp [← (Prod.mk.inj heq).1]
  · obtain ⟨a, -, heq⟩ := exists_of_map_eq_ok h
    simp [← (Prod.mk.inj heq).1]
  · obtain ⟨a, -, heq⟩ := exists_of_map_eq_ok h
    simp [← (Prod.mk.inj heq).1]
  · obtain ⟨a, -, heq⟩ := exists_of_map_eq_ok h
    simp [← (Prod.mk.inj heq).1]
  · split at h
    · obtain ⟨a, -, heq⟩ := exists_of_map_eq_ok h
      simp [← (Prod.mk.inj heq).1]
    · simp at h

/-- What the marker spells is a number. -/
theorem exists_of_readSpelled {cs rest : List Char} {v : Value}
    (h : readSpelled cs = .ok (v, rest)) : ∃ n, v = .number n := by
  unfold readSpelled at h
  split at h
  · simp at h
  · simp at h
  · split at h
    · simp at h
    · split at h
      · simp at h
      · next n hn =>
        split at h
        · simp at h
        · exact ⟨n, by simpa using (Prod.mk.inj (Except.ok.inj h)).1.symm⟩
        · simp at h
    · simp at h

/-- The marker is the only name of an object only if it was written first. -/
theorem isDisguise_collect_eq_false {ms : Members} {name : String}
    (hname : ∃ v, (name, v) ∈ ms) (hne : name ≠ numberMarker) :
    (Members.collect ms).isDisguise = false := by
  obtain ⟨v, hv⟩ := Members.exists_mem_collect hname
  match hms : Members.collect ms with
  | [] => rfl
  | [m] =>
    -- the only name is the one that was written first
    rw [hms, List.mem_singleton] at hv
    simp [Members.isDisguise, Members.isLed, ← hv, hne]
  | m :: n :: ns => simp [Members.isDisguise]

section Parts

variable {item : List Char → Except Fault (Value × List Char)} {n : Nat}

/-- An array has one level more than its items. -/
theorem denoted_of_readArray
    (hitem : ∀ cs v rest, item cs = .ok (v, rest) → v.Denoted ∧ v.depth ≤ n)
    {cs rest : List Char} {v : Value} (h : readArray item cs = .ok (v, rest)) :
    v.Denoted ∧ v.depth ≤ n + 1 := by
  have harray : ∀ vs : List Value, (∀ w ∈ vs, w.Denoted ∧ w.depth ≤ n) →
      (array vs).Denoted ∧ (array vs).depth ≤ n + 1 := by
    intro vs hvs
    refine ⟨(denoted_array_iff vs).mpr fun w hw => (hvs w hw).1, ?_⟩
    rw [depth, Nat.add_le_add_iff_right, depthItems_le_iff]
    exact fun w hw => (hvs w hw).2
  unfold readArray at h
  split at h
  · rw [← (Prod.mk.inj (Except.ok.inj h)).1]
    exact harray [] fun w hw => absurd hw List.not_mem_nil
  · split at h
    · next vs left hread =>
      rw [← (Prod.mk.inj (Except.ok.inj h)).1]
      exact harray vs (forall_of_readItems hitem hread)
    · simp at h

/-- An object has one level more than its members. -/
theorem denoted_of_readObject
    (hitem : ∀ cs v rest, item cs = .ok (v, rest) → v.Denoted ∧ v.depth ≤ n)
    {cs rest : List Char} {v : Value} (h : readObject item cs = .ok (v, rest)) :
    v.Denoted ∧ v.depth ≤ n + 1 := by
  have hobject : ∀ ms : Members, ms.isDisguise = false → Members.Ordered ms →
      (∀ m ∈ ms, m.2.Denoted ∧ m.2.depth ≤ n) →
      (object ms).Denoted ∧ (object ms).depth ≤ n + 1 := by
    intro ms hdisguise hordered hms
    refine ⟨(denoted_object_iff ms).mpr ⟨hordered, hdisguise, fun m hm => (hms m hm).1⟩, ?_⟩
    rw [depth, Nat.add_le_add_iff_right, depthMembers_le_iff]
    exact fun m hm => (hms m hm).2
  unfold readObject at h
  split at h
  · rw [← (Prod.mk.inj (Except.ok.inj h)).1]
    exact hobject [] rfl List.Pairwise.nil fun m hm => absurd hm List.not_mem_nil
  · split at h
    · simp at h
    · next name left hname =>
      split at h
      · obtain ⟨k, rfl⟩ := exists_of_readSpelled h
        exact ⟨denoted_scalar (by simp) (by simp), Nat.zero_le (n + 1)⟩
      · next hne =>
        split at h
        · next ms tail hread =>
          obtain ⟨hms, hfirst⟩ := forall_of_readMembers hitem hread
          rw [← (Prod.mk.inj (Except.ok.inj h)).1]
          exact hobject _ (isDisguise_collect_eq_false (hfirst name left hname) hne)
            (Members.collect_pairwise ms) fun m hm => hms m (Members.mem_of_mem_collect hm)
        · simp at h

end Parts

/-- **Everything that is read is denoted by its text**, and has no more
levels than were allowed. -/
theorem denoted_of_readValue {levels : Nat} {cs rest : List Char} {v : Value}
    (h : readValue levels cs = .ok (v, rest)) : v.Denoted ∧ v.depth ≤ levels := by
  induction levels generalizing cs rest v with
  | zero =>
    rw [readValue.eq_def] at h
    split at h
    · simp at h
    · simp at h
    · obtain ⟨harray, hobject⟩ := ne_of_readScalar h
      exact ⟨denoted_scalar harray hobject, (fits_scalar harray hobject 0).depth_le⟩
  | succ n ih =>
    rw [readValue.eq_def] at h
    split at h
    · exact denoted_of_readArray (fun _ _ _ hread => ih hread) h
    · exact denoted_of_readObject (fun _ _ _ hread => ih hread) h
    · obtain ⟨harray, hobject⟩ := ne_of_readScalar h
      exact ⟨denoted_scalar harray hobject, (fits_scalar harray hobject (n + 1)).depth_le⟩

/-- The value that a whole text spells. -/
theorem denoted_of_parse {text : String} {v : Value} (h : Value.parse text = .ok v) :
    v.Denoted ∧ v.depth ≤ maxDepth := by
  unfold Value.parse at h
  split at h
  · next w rest hread =>
    split at h
    · exact Except.ok.inj h ▸ denoted_of_readValue hread
    · simp at h
  · simp at h

end EchoProbe.Json
