import Mathlib.Data.List.Nodup
import EchoProbe.Echo.Registry

/-!
# The registry as a map

To each number a registry has at most one entry to give, the oldest. What an
operation does to the registry is said here by what it does to the entry of
each number, so that the list of entries need not be looked at again.

A registry that enters only new numbers stays `Distinct`: no number has two
entries, so that the entries of the numbers are all that there is
(`Registry.get?_eq_some_iff`).
-/

namespace EchoProbe.Echo.Registry

variable (r : Registry) (id : ConnectionId)

theorem get?_empty : empty.get? id = none := rfl

theorem id_of_get? {r : Registry} {id : ConnectionId} {entry : Connection}
    (h : r.get? id = some entry) : entry.id = id := by
  unfold get? at h
  have hbeq := List.find?_some h
  exact beq_iff_eq.mp hbeq

/-- A new entry is found if there is no older one. -/
theorem get?_register (peer : Net.SocketAddress) (path : String) (id' : ConnectionId) :
    (r.register id peer path).get? id'
      = (r.get? id').or (if id' = id then some ⟨id, peer, path, 0⟩ else none) := by
  show (r.entries ++ [_]).find? _ = _
  rw [List.find?_append]
  refine congrArg (Option.or _) ?_
  by_cases h : id' = id
  · rw [if_pos h, List.find?_cons_of_pos (by simp [h])]
  · rw [if_neg h, List.find?_cons_of_neg (by simp [Ne.symm h])]
    rfl

/-- Of the number that is taken out nothing is left. -/
theorem get?_remove (id' : ConnectionId) :
    (r.remove id).get? id' = if id' = id then none else r.get? id' := by
  show (r.entries.filter _).find? _ = _
  rw [List.find?_filter]
  by_cases h : id' = id
  · rw [if_pos h, List.find?_eq_none]
    intro entry _
    simp [h]
  · rw [if_neg h]
    refine congrArg (fun p => r.entries.find? p) (funext fun entry => ?_)
    by_cases hentry : entry.id = id'
    · simp [hentry, h]
    · simp [hentry]

/-- An echo is counted in the entry of its number. -/
theorem get?_recordEcho (id' : ConnectionId) :
    (r.recordEcho id).get? id' = (r.get? id').map fun entry =>
      if id' = id then { entry with framesEchoed := entry.framesEchoed + 1 } else entry := by
  show (r.entries.map _).find? _ = _
  rw [List.find?_map]
  have hsame : (fun entry : Connection => entry.id == id') ∘
      (fun entry => if entry.id = id then { entry with framesEchoed := entry.framesEchoed + 1 }
        else entry) = fun entry => entry.id == id' := by
    funext entry
    dsimp only [Function.comp]
    split <;> rfl
  rw [hsame]
  show (r.get? id').map _ = _
  cases hget : r.get? id' with
  | none => rfl
  | some entry =>
    rw [Option.map_some, Option.map_some, id_of_get? hget]

/-! ## One entry for each number -/

/-- **No number has two entries.** -/
def Distinct (r : Registry) : Prop := (r.entries.map Connection.id).Nodup

theorem get?_eq_none_iff : r.get? id = none ↔ ∀ entry ∈ r.entries, entry.id ≠ id := by
  rw [get?, List.find?_eq_none]
  simp only [beq_iff_eq, ne_eq]

/-- Without an entry there is nothing to take out. -/
theorem remove_of_get?_eq_none {r : Registry} {id : ConnectionId} (h : r.get? id = none) :
    r.remove id = r := by
  have hid := (get?_eq_none_iff r id).mp h
  refine congrArg Registry.mk (List.filter_eq_self.mpr fun entry hentry => ?_)
  exact bne_iff_ne.mpr (hid entry hentry)

/-- Without an entry there is nothing to count in. -/
theorem recordEcho_of_get?_eq_none {r : Registry} {id : ConnectionId} (h : r.get? id = none) :
    r.recordEcho id = r := by
  have hid := (get?_eq_none_iff r id).mp h
  refine congrArg Registry.mk ((List.map_congr_left fun entry hentry => ?_).trans (List.map_id _))
  exact if_neg (hid entry hentry)

theorem distinct_empty : empty.Distinct := List.nodup_nil

namespace Distinct

variable {r : Registry} (h : r.Distinct)

include h

/-- **The entries are those of the numbers.** -/
theorem get?_eq_some_iff (id : ConnectionId) (entry : Connection) :
    r.get? id = some entry ↔ entry ∈ r.entries ∧ entry.id = id := by
  constructor
  · exact fun hget => ⟨List.mem_of_find?_eq_some hget, id_of_get? hget⟩
  · rintro ⟨hmem, rfl⟩
    cases hget : r.get? entry.id with
    | none => exact absurd rfl ((get?_eq_none_iff r _).mp hget entry hmem)
    | some found =>
      -- both entries have the number, and there is only one with it
      have hfound : found ∈ r.entries := List.mem_of_find?_eq_some hget
      exact congrArg some (List.inj_on_of_nodup_map h hfound hmem (id_of_get? hget))

/-- A number is entered when it is new. -/
theorem register {id : ConnectionId} (hnew : r.get? id = none) (peer : Net.SocketAddress)
    (path : String) : (r.register id peer path).Distinct := by
  show ((r.entries ++ [_]).map Connection.id).Nodup
  rw [List.map_append, List.nodup_append]
  refine ⟨h, List.nodup_singleton _, ?_⟩
  rintro a ha b hb rfl
  obtain ⟨entry, hentry, rfl⟩ := List.mem_map.mp ha
  exact (get?_eq_none_iff r id).mp hnew entry hentry (List.mem_singleton.mp hb)

theorem remove (id : ConnectionId) : (r.remove id).Distinct :=
  (List.filter_sublist.map Connection.id).nodup h

/-- Counting keeps the numbers. -/
theorem recordEcho (id : ConnectionId) : (r.recordEcho id).Distinct := by
  have hids : (r.recordEcho id).entries.map Connection.id = r.entries.map Connection.id := by
    show (r.entries.map _).map Connection.id = _
    rw [List.map_map]
    refine List.map_congr_left fun entry _ => ?_
    dsimp only [Function.comp]
    split <;> rfl
  rw [Distinct, hids]
  exact h

end Distinct

/-- **No connection has counted more** than this many echoes. -/
def Within (r : Registry) (n : Nat) : Prop := ∀ entry ∈ r.entries, entry.framesEchoed ≤ n

namespace Within

variable {r : Registry} {n m : Nat}

theorem mono (h : r.Within n) (hle : n ≤ m) : r.Within m :=
  fun entry hentry => Nat.le_trans (h entry hentry) hle

theorem register (h : r.Within n) (id : ConnectionId) (peer : Net.SocketAddress) (path : String) :
    (r.register id peer path).Within n := by
  intro entry hentry
  rcases List.mem_append.mp hentry with hentry | hentry
  · exact h entry hentry
  · rw [List.mem_singleton.mp hentry]
    exact Nat.zero_le n

theorem remove (h : r.Within n) (id : ConnectionId) : (r.remove id).Within n :=
  fun entry hentry => h entry (List.mem_of_mem_filter hentry)

/-- An echo more is counted. -/
theorem recordEcho (h : r.Within n) (id : ConnectionId) : (r.recordEcho id).Within (n + 1) := by
  intro entry hentry
  obtain ⟨found, hfound, rfl⟩ := List.mem_map.mp hentry
  have hle := h found hfound
  split
  · exact Nat.succ_le_succ hle
  · exact Nat.le_succ_of_le hle

end Within

end EchoProbe.Echo.Registry
