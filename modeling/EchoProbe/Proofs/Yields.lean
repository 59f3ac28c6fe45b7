/-!
# Computations that may fail

A success of a composed computation comes from a success of its parts, which the first
lemmas take out of it.

A reader that is given a written text can have only one result, and has it
under some condition; otherwise it fails. `Yields` says so of a computation,
which is more than to say what a success is: it says when there is one. The
lemmas put such computations one after another.
-/

namespace EchoProbe

/-! ### What a success comes from -/

section Successes

variable {ε δ α β : Type} {x : Except ε α} {a : α} {b : β}

theorem exists_of_map_eq_ok {f : α → β} (h : x.map f = .ok b) : ∃ a, x = .ok a ∧ f a = b := by
  cases x with
  | error e => cases h
  | ok a => exact ⟨a, rfl, Except.ok.inj h⟩

theorem exists_of_bind_eq_ok {f : α → Except ε β} (h : (x >>= f) = .ok b) :
    ∃ a, x = .ok a ∧ f a = .ok b := by
  cases x with
  | error e => cases h
  | ok a => exact ⟨a, rfl, h⟩

theorem eq_ok_of_mapError_eq_ok {f : ε → δ} (h : x.mapError f = .ok a) : x = .ok a := by
  cases x with
  | error e => cases h
  | ok b => exact congrArg Except.ok (Except.ok.inj h)

theorem eq_ok_of_toOption_eq_some (h : x.toOption = some a) : x = .ok a := by
  cases x with
  | error e => cases h
  | ok b => exact congrArg Except.ok (Option.some.inj h)

end Successes

/-! ### Computations with one possible result -/

/-- **The one result that a computation can have**, and when it has it. -/
def Yields {ε α : Type} (x : Except ε α) (a : α) (p : Prop) : Prop :=
  ∀ b, x = .ok b ↔ b = a ∧ p

namespace Yields

variable {ε δ α β : Type} {x : Except ε α} {y : Except δ β} {a : α} {b : β} {p q : Prop}

theorem ok (h : p) : Yields (.ok a : Except ε α) a p := by
  intro b
  rw [Except.ok.injEq, and_iff_left h]
  exact eq_comm

theorem of_ne_ok (hx : ∀ b, x ≠ .ok b) (h : ¬ p) : Yields x a p :=
  fun b => iff_of_false (hx b) fun hp => h hp.2

theorem error {e : ε} (h : ¬ p) : Yields (.error e) a p := of_ne_ok (fun _ => nofun) h

theorem eq_ok (h : Yields x a p) (hp : p) : x = .ok a := (h a).mpr ⟨rfl, hp⟩

theorem exists_eq_error (h : Yields x a p) (hp : ¬ p) : ∃ e, x = .error e := by
  cases x with
  | error e => exact ⟨e, rfl⟩
  | ok b => exact absurd ((h b).mp rfl).2 hp

theorem exists_ok_iff (h : Yields x a p) : (∃ b, x = .ok b) ↔ p :=
  ⟨fun ⟨b, hb⟩ => ((h b).mp hb).2, fun hp => ⟨a, h.eq_ok hp⟩⟩

theorem congr (h : Yields x a p) (hpq : p ↔ q) : Yields x a q :=
  fun b => (h b).trans (and_congr_right fun _ => hpq)

/-- **One computation after another**: the second has its result under a
condition of its own, and fails where the first does. -/
theorem andThen (h : Yields x a p) (hok : x = .ok a → Yields y b q)
    (herror : ∀ e, x = .error e → ∃ e', y = .error e') : Yields y b (p ∧ q) := by
  by_cases hp : p
  · exact (hok (h.eq_ok hp)).congr (and_iff_right hp).symm
  · obtain ⟨e, he⟩ := h.exists_eq_error hp
    obtain ⟨e', he'⟩ := herror e he
    rw [he']
    exact error fun hpq => hp hpq.1

/-- The second computation only dresses the result of the first. -/
theorem andThen_ok (h : Yields x a p) (hok : x = .ok a → y = .ok b)
    (herror : ∀ e, x = .error e → ∃ e', y = .error e') : Yields y b p := by
  refine (h.andThen (fun hx => ?_) herror).congr (and_iff_left trivial)
  rw [hok hx]
  exact ok trivial

end Yields

end EchoProbe
