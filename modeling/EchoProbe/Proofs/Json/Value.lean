import EchoProbe.Json.Parser

/-!
# Depth, order and markers inside a value

The functions of `EchoProbe.Json.Value` go down a value through lists of
items and lists of members. Here they are put as statements about *every*
item and *every* member, which is how the proofs use them.

Two properties of values matter for reading. `Fits` says that a written
value can be read: it is not too deep, and no object in it is led by
`numberMarker`, which would be taken for a number. `Denoted` says what can be
relied on in a value that was read: its objects are ordered, and one that
the marker leads has another member, for the marker stands first only if it
was written later.
-/

namespace EchoProbe.Json

/-- Whether the first name is the marker of a number in disguise. -/
def Members.isLed (ms : Members) : Bool := ms.head?.any fun m => m.1 == numberMarker

/-- Whether the marker is the only name. -/
def Members.isDisguise (ms : Members) : Bool := ms.isLed && ms.length == 1

namespace Value

mutual

/-- Whether the members of every object inside a value pass a test. -/
def everyObject (p : Members → Bool) : Value → Bool
  | .array items => everyObjectItems p items
  | .object members => p members && everyObjectMembers p members
  | _ => true

/-- Whether all objects inside some items pass a test. -/
def everyObjectItems (p : Members → Bool) : List Value → Bool
  | [] => true
  | v :: vs => everyObject p v && everyObjectItems p vs

/-- Whether all objects inside some members pass a test. -/
def everyObjectMembers (p : Members → Bool) : List (String × Value) → Bool
  | [] => true
  | m :: ms => everyObject p m.2 && everyObjectMembers p ms

end

/-- **No object inside the value is led by the marker.** -/
def unmarked (v : Value) : Bool := v.everyObject fun ms => !ms.isLed

/-- **A value that can be read** where so many arrays and objects may stand
inside each other. -/
structure Fits (levels : Nat) (v : Value) : Prop where
  /-- It is not too deep. -/
  depth_le : v.depth ≤ levels
  /-- Nothing in it is taken for a number. -/
  unmarked : v.unmarked = true

/-- **A value that a text denotes.** -/
structure Denoted (v : Value) : Prop where
  /-- Its objects are ordered. -/
  canonical : v.Canonical
  /-- None of them is a number in disguise. -/
  undisguised : v.everyObject (fun ms => !ms.isDisguise) = true

instance (levels : Nat) (v : Value) : Decidable (v.Fits levels) :=
  decidable_of_iff (v.depth ≤ levels ∧ v.unmarked = true)
    ⟨fun h => ⟨h.1, h.2⟩, fun h => ⟨h.1, h.2⟩⟩

/-! ## Every item and every member -/

theorem depthItems_le_iff (vs : List Value) (n : Nat) :
    depthItems vs ≤ n ↔ ∀ v ∈ vs, v.depth ≤ n := by
  induction vs with
  | nil => simp [depthItems]
  | cons v vs ih => rw [depthItems, Nat.max_le, ih, List.forall_mem_cons]

theorem depthMembers_le_iff (ms : Members) (n : Nat) :
    depthMembers ms ≤ n ↔ ∀ m ∈ ms, m.2.depth ≤ n := by
  induction ms with
  | nil => simp [depthMembers]
  | cons m ms ih => rw [depthMembers, Nat.max_le, ih, List.forall_mem_cons]

theorem everyObjectItems_iff (p : Members → Bool) (vs : List Value) :
    everyObjectItems p vs = true ↔ ∀ v ∈ vs, v.everyObject p = true := by
  induction vs with
  | nil => simp [everyObjectItems]
  | cons v vs ih => rw [everyObjectItems, Bool.and_eq_true, ih, List.forall_mem_cons]

theorem everyObjectMembers_iff (p : Members → Bool) (ms : Members) :
    everyObjectMembers p ms = true ↔ ∀ m ∈ ms, m.2.everyObject p = true := by
  induction ms with
  | nil => simp [everyObjectMembers]
  | cons m ms ih => rw [everyObjectMembers, Bool.and_eq_true, ih, List.forall_mem_cons]

theorem canonicalItems_iff (vs : List Value) :
    CanonicalItems vs ↔ ∀ v ∈ vs, v.Canonical := by
  induction vs with
  | nil => simp [CanonicalItems]
  | cons v vs ih => rw [CanonicalItems, ih, List.forall_mem_cons]

theorem canonicalMembers_iff (ms : Members) :
    CanonicalMembers ms ↔ ∀ m ∈ ms, m.2.Canonical := by
  induction ms with
  | nil => simp [CanonicalMembers]
  | cons m ms ih => rw [CanonicalMembers, ih, List.forall_mem_cons]

/-! ## What can be read -/

/-- An array has a level of its own, and its items have the others. -/
theorem fits_array_iff (vs : List Value) (n : Nat) :
    (array vs).Fits (n + 1) ↔ ∀ v ∈ vs, v.Fits n := by
  constructor
  · rintro ⟨hdepth, hmarker⟩ v hv
    rw [depth, Nat.add_le_add_iff_right, depthItems_le_iff] at hdepth
    rw [unmarked, everyObject, everyObjectItems_iff] at hmarker
    exact ⟨hdepth v hv, hmarker v hv⟩
  · intro h
    refine ⟨?_, ?_⟩
    · rw [depth, Nat.add_le_add_iff_right, depthItems_le_iff]
      exact fun v hv => (h v hv).depth_le
    · rw [unmarked, everyObject, everyObjectItems_iff]
      exact fun v hv => (h v hv).unmarked

/-- An object has a level of its own too, and its first name is no marker. -/
theorem fits_object_iff (ms : Members) (n : Nat) :
    (object ms).Fits (n + 1) ↔ ms.isLed = false ∧ ∀ m ∈ ms, m.2.Fits n := by
  constructor
  · rintro ⟨hdepth, hmarker⟩
    rw [depth, Nat.add_le_add_iff_right, depthMembers_le_iff] at hdepth
    rw [unmarked, everyObject, Bool.and_eq_true, everyObjectMembers_iff,
      Bool.not_eq_true'] at hmarker
    exact ⟨hmarker.1, fun m hm => ⟨hdepth m hm, hmarker.2 m hm⟩⟩
  · rintro ⟨hled, h⟩
    refine ⟨?_, ?_⟩
    · rw [depth, Nat.add_le_add_iff_right, depthMembers_le_iff]
      exact fun m hm => (h m hm).depth_le
    · rw [unmarked, everyObject, Bool.and_eq_true, everyObjectMembers_iff, Bool.not_eq_true']
      exact ⟨hled, fun m hm => (h m hm).unmarked⟩

/-- Without a level there is neither an array nor an object. -/
theorem not_fits_zero_array (vs : List Value) : ¬ (array vs).Fits 0 :=
  fun h => absurd h.depth_le (by simp [depth])

theorem not_fits_zero_object (ms : Members) : ¬ (object ms).Fits 0 :=
  fun h => absurd h.depth_le (by simp [depth])

/-- A value without parts always fits. -/
theorem fits_scalar {v : Value} (harray : ∀ vs, v ≠ array vs) (hobject : ∀ ms, v ≠ object ms)
    (n : Nat) : v.Fits n := by
  cases v with
  | array vs => exact absurd rfl (harray vs)
  | object ms => exact absurd rfl (hobject ms)
  | _ => exact ⟨Nat.zero_le n, rfl⟩

/-- Arrays inside each other, one more than the number says. -/
def tower : Nat → Value
  | 0 => array []
  | n + 1 => array [tower n]

/-- A tower needs as many levels as it has arrays. -/
theorem fits_tower_iff (n levels : Nat) : (tower n).Fits levels ↔ n < levels := by
  induction n generalizing levels with
  | zero =>
    match levels with
    | 0 => exact iff_of_false (not_fits_zero_array []) (Nat.lt_irrefl 0)
    | k + 1 => exact iff_of_true ((fits_array_iff [] k).mpr (by simp)) (Nat.succ_pos k)
  | succ n ih =>
    match levels with
    | 0 => exact iff_of_false (not_fits_zero_array _) (Nat.not_lt_zero _)
    | k + 1 =>
      rw [tower, fits_array_iff, List.forall_mem_singleton, ih, Nat.add_lt_add_iff_right]

/-! ## What is denoted -/

theorem denoted_array_iff (vs : List Value) :
    (array vs).Denoted ↔ ∀ v ∈ vs, v.Denoted := by
  constructor
  · rintro ⟨hcanonical, hdisguise⟩ v hv
    rw [Canonical, canonicalItems_iff] at hcanonical
    rw [everyObject, everyObjectItems_iff] at hdisguise
    exact ⟨hcanonical v hv, hdisguise v hv⟩
  · intro h
    refine ⟨?_, ?_⟩
    · rw [Canonical, canonicalItems_iff]
      exact fun v hv => (h v hv).canonical
    · rw [everyObject, everyObjectItems_iff]
      exact fun v hv => (h v hv).undisguised

theorem denoted_object_iff (ms : Members) :
    (object ms).Denoted ↔ ms.Pairwise (fun m n => m.1 < n.1) ∧ ms.isDisguise = false
      ∧ ∀ m ∈ ms, m.2.Denoted := by
  constructor
  · rintro ⟨hcanonical, hdisguise⟩
    rw [Canonical, canonicalMembers_iff] at hcanonical
    rw [everyObject, Bool.and_eq_true, everyObjectMembers_iff, Bool.not_eq_true'] at hdisguise
    exact ⟨hcanonical.1, hdisguise.1, fun m hm => ⟨hcanonical.2 m hm, hdisguise.2 m hm⟩⟩
  · rintro ⟨hordered, hdisguise, h⟩
    refine ⟨?_, ?_⟩
    · rw [Canonical, canonicalMembers_iff]
      exact ⟨hordered, fun m hm => (h m hm).canonical⟩
    · rw [everyObject, Bool.and_eq_true, everyObjectMembers_iff, Bool.not_eq_true']
      exact ⟨hdisguise, fun m hm => (h m hm).undisguised⟩

theorem denoted_scalar {v : Value} (harray : ∀ vs, v ≠ array vs)
    (hobject : ∀ ms, v ≠ object ms) : v.Denoted := by
  cases v with
  | array vs => exact absurd rfl (harray vs)
  | object ms => exact absurd rfl (hobject ms)
  | _ => exact ⟨trivial, rfl⟩

mutual

/-- What all objects pass, they pass as a weaker test. -/
theorem everyObject_mono {p q : Members → Bool} (h : ∀ ms, p ms = true → q ms = true) :
    (v : Value) → v.everyObject p = true → v.everyObject q = true
  | .array items, hp => everyObjectItems_mono h items hp
  | .object members, hp => by
    rw [everyObject, Bool.and_eq_true] at hp ⊢
    exact ⟨h members hp.1, everyObjectMembers_mono h members hp.2⟩
  | .null, _ => rfl
  | .bool _, _ => rfl
  | .number _, _ => rfl
  | .string _, _ => rfl

theorem everyObjectItems_mono {p q : Members → Bool} (h : ∀ ms, p ms = true → q ms = true) :
    (vs : List Value) → everyObjectItems p vs = true → everyObjectItems q vs = true
  | [], _ => rfl
  | v :: vs, hp => by
    rw [everyObjectItems, Bool.and_eq_true] at hp ⊢
    exact ⟨everyObject_mono h v hp.1, everyObjectItems_mono h vs hp.2⟩

theorem everyObjectMembers_mono {p q : Members → Bool} (h : ∀ ms, p ms = true → q ms = true) :
    (ms : List (String × Value)) → everyObjectMembers p ms = true → everyObjectMembers q ms = true
  | [], _ => rfl
  | m :: ms, hp => by
    rw [everyObjectMembers, Bool.and_eq_true] at hp ⊢
    exact ⟨everyObject_mono h m.2 hp.1, everyObjectMembers_mono h ms hp.2⟩

end

/-- An ordered value in which no object is led by the marker is denoted: a
number in disguise would be one that is. -/
theorem denoted_of_unmarked {v : Value} (hcanonical : v.Canonical) (hunmarked : v.unmarked = true) :
    v.Denoted := by
  refine ⟨hcanonical, everyObject_mono (fun ms hms => ?_) v hunmarked⟩
  rw [Bool.not_eq_true'] at hms ⊢
  rw [Members.isDisguise, hms, Bool.false_and]

theorem denoted_tower (n : Nat) : (tower n).Denoted := by
  induction n with
  | zero => exact (denoted_array_iff []).mpr (by simp)
  | succ n ih => exact (denoted_array_iff [tower n]).mpr (by simpa using ih)

end Value

end EchoProbe.Json
