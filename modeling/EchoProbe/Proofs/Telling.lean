import Mathlib.Data.List.Basic

/-!
# Places in a telling

What happens in a run is told by a list. To say that something is so at some
point of it is to say it of a *place*: of what stands there, of what stands
before it, and of what follows (`Somewhere`). Runs get longer at their end, so
that is where a telling is taken apart (`somewhere_concat_iff`).
-/

namespace EchoProbe

variable {α : Type} {what : List α → α → List α → Prop}

/-- **There is a place in the list** of which it holds, given what stands before it
and what follows. -/
def Somewhere (l : List α) (what : List α → α → List α → Prop) : Prop :=
  ∃ before a after, l = before ++ a :: after ∧ what before a after

theorem not_somewhere_nil (what : List α → α → List α → Prop) : ¬ Somewhere [] what := by
  rintro ⟨before, a, after, h, -⟩
  exact List.append_ne_nil_of_right_ne_nil before (List.cons_ne_nil a after) h.symm

/-- **A place in a longer list** is an earlier one, from which one thing more
follows, or the last one. -/
theorem somewhere_concat_iff (l : List α) (a : α) (what : List α → α → List α → Prop) :
    Somewhere (l ++ [a]) what ↔
      Somewhere l (fun before b after => what before b (after ++ [a])) ∨ what l a [] := by
  constructor
  · rintro ⟨before, b, after, heq, hwhat⟩
    rcases List.eq_nil_or_concat after with rfl | ⟨after', last, rfl⟩
    · obtain ⟨rfl, hb⟩ := List.append_inj' heq rfl
      exact .inr (List.singleton_inj.mp hb ▸ hwhat)
    · rw [List.concat_eq_append, ← List.cons_append, ← List.append_assoc] at heq
      obtain ⟨rfl, hlast⟩ := List.append_inj' heq rfl
      rw [List.concat_eq_append, ← hlast] at hwhat
      exact .inl ⟨before, b, after', rfl, hwhat⟩
  · rintro (⟨before, b, after, rfl, hwhat⟩ | hwhat)
    · exact ⟨before, b, after ++ [a], by rw [List.append_assoc, List.cons_append], hwhat⟩
    · exact ⟨l, a, [], rfl, hwhat⟩

end EchoProbe
