import EchoProbe.Proofs.Text.Utf8
import EchoProbe.Settings.EnvFile

/-!
# What an environment file adds

A file adds a variable only where the environment has none that can be read. So a
name has the value that it had in the environment, if that can be read, and else the first
one that the file assigns to it (`read?_load`).
-/

namespace EchoProbe

namespace Environment

/-- **A variable that is set** has its value, and every other one is as before. -/
theorem read?_set (env : Environment) (name value other : String) :
    (env.set name value).read? other = if other = name then some value else env.read? other := by
  have hothers : ∀ entries : List (String × List UInt8), other ≠ name →
      (entries.filter (·.1 != name)).lookup other = entries.lookup other := by
    intro entries hne
    induction entries with
    | nil => rfl
    | cons e entries ih =>
      obtain ⟨key, bytes⟩ := e
      rw [List.filter_cons, List.lookup_cons]
      split
      · rw [List.lookup_cons, ih]
      · next hkey =>
        have hkey : key = name := by simpa using hkey
        rw [ih, hkey, beq_eq_false_iff_ne.mpr hne]
  unfold read? set
  rw [List.lookup_cons]
  by_cases hname : other = name
  · rw [if_pos hname, hname, beq_self_eq_true]
    exact Text.Utf8.decode?_encode value
  · rw [if_neg hname, beq_eq_false_iff_ne.mpr hname]
    exact congrArg (Option.bind · _) (hothers env.entries hname)

end Environment

namespace EnvFile

/-- The assignments of a file, the first first. -/
def assignments (env : Environment) (bytes : List UInt8) : List (String × String) :=
  (Reading.lines ⟨env, []⟩
    (logicalLines .complete [] (byteLines (skipMark bytes)))).assigned.reverse

namespace Reading

/-- **What has been read has been added**: each name has the value from the environment, and
else the first one assigned. -/
def Adds (env : Environment) (r : Reading) : Prop :=
  ∀ name, r.environment.read? name = (env.read? name).or (r.assigned.reverse.lookup name)

theorem Adds.assign {env : Environment} {r : Reading} (h : r.Adds env) (name value : String) :
    (r.assign name value).Adds env := by
  intro other
  have hlast : (r.assign name value).assigned.reverse.lookup other
      = (r.assigned.reverse.lookup other).or (if other = name then some value else none) := by
    show ((name, value) :: r.assigned).reverse.lookup other = _
    rw [List.reverse_cons, List.lookup_append, List.lookup_cons]
    by_cases hname : other = name
    · rw [hname, beq_self_eq_true, if_pos rfl]
    · rw [beq_eq_false_iff_ne.mpr hname, if_neg hname]
      rfl
  rw [hlast, ← Option.or_assoc, ← h other]
  unfold Reading.assign
  dsimp only
  split
  · next hsome =>
    by_cases hname : other = name
    · rw [hname, Option.or_of_isSome hsome]
    · rw [if_neg hname, Option.or_none]
  · next hnone =>
    rw [Environment.read?_set]
    split
    · next hname => rw [hname, Option.not_isSome_iff_eq_none.mp hnone, Option.none_or]
    · rw [Option.or_none]

theorem Adds.line {env : Environment} {r r' : Reading} (h : r.Adds env) {line : List Char}
    (hline : r.line? line = some r') : r'.Adds env := by
  simp only [Reading.line?, Option.bind_eq_bind] at hline
  split at hline
  · cases hline
    exact h
  · obtain ⟨⟨name, rest⟩, -, hline⟩ := Option.bind_eq_some_iff.mp hline
    dsimp only at hline
    split at hline
    · cases hline
      exact h.assign name ""
    · obtain ⟨value, -, hline⟩ := Option.bind_eq_some_iff.mp hline
      cases hline
      exact h.assign name _

theorem Adds.lines {env : Environment} {r : Reading} (h : r.Adds env)
    (lines : List (Option (List Char))) : (r.lines lines).Adds env := by
  induction lines generalizing r with
  | nil => exact h
  | cons line lines ih =>
    cases line with
    | none => exact h
    | some line =>
      rw [Reading.lines]
      cases hline : r.line? line with
      | none => exact h
      | some r' => exact ih (h.line hline)

end Reading

/-- **The environment after a file**, name by name. -/
theorem read?_load (env : Environment) (bytes : List UInt8) (name : String) :
    (load env bytes).read? name = (env.read? name).or ((assignments env bytes).lookup name) :=
  Reading.Adds.lines (fun _ => Option.or_none.symm) _ name

end EnvFile

end EchoProbe
