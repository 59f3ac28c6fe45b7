import EchoProbe.SystemError
import EchoProbe.Proofs.Text.Control

/-!
# Texts that do not break the line

What the program words itself holds no line feed: the errors of the system, and what has no
control character at all (`NoControl.oneLine`), such as the compact form of a JSON value.
-/

namespace EchoProbe.Text

/-- **A text that does not break the line.** -/
def OneLine (cs : List Char) : Prop := '\n' ∉ cs

instance (cs : List Char) : Decidable (OneLine cs) :=
  inferInstanceAs (Decidable ('\n' ∉ cs))

@[simp] theorem oneLine_nil : OneLine [] := List.not_mem_nil

@[simp] theorem oneLine_cons {c : Char} {cs : List Char} :
    OneLine (c :: cs) ↔ c ≠ '\n' ∧ OneLine cs := by
  rw [OneLine, List.mem_cons, not_or, ne_comm]
  rfl

@[simp] theorem oneLine_append {cs ds : List Char} :
    OneLine (cs ++ ds) ↔ OneLine cs ∧ OneLine ds := by
  rw [OneLine, List.mem_append, not_or]
  rfl

@[simp] theorem oneLine_reverse {cs : List Char} : OneLine cs.reverse ↔ OneLine cs := by
  rw [OneLine, List.mem_reverse]
  rfl

theorem OneLine.of_subset {cs ds : List Char} (h : OneLine ds) (hsub : cs ⊆ ds) : OneLine cs :=
  fun hmem => h (hsub hmem)

theorem oneLine_flatMap {α : Type} {f : α → List Char} {as : List α}
    (h : ∀ a ∈ as, OneLine (f a)) : OneLine (as.flatMap f) := by
  intro hmem
  obtain ⟨a, ha, hmem⟩ := List.mem_flatMap.mp hmem
  exact h a ha hmem

/-- Characters by their numbers. -/
theorem ofNat_ne_newline {n : Nat} (h : n ≠ 10) : Char.ofNat n ≠ '\n' := by
  intro heq
  by_cases hvalid : n.isValidChar
  · have hchar : Char.ofNat n = Char.ofNatAux n hvalid := dif_pos hvalid
    exact h (congrArg Char.toNat (hchar.symm.trans heq))
  · -- a number of no character stands for the null character
    have hchar : Char.ofNat n = '\x00' := dif_neg hvalid
    exact absurd (hchar.symm.trans heq) (by decide)

/-! ### Numbers, spans of time and JSON -/

theorem NoControl.oneLine {cs : List Char} (h : NoControl cs) : OneLine cs :=
  h.not_mem (by decide)

@[simp] theorem oneLine_decimal (n : Nat) : OneLine (decimal n).toList :=
  (noControl_decimal n).oneLine

@[simp] theorem oneLine_hexadecimal (n : Nat) : OneLine (hexadecimal n).toList :=
  (noControl_hexadecimal n).oneLine

@[simp] theorem oneLine_duration (d : Duration) : OneLine d.toText.toList :=
  (noControl_duration d).oneLine

@[simp] theorem oneLine_toText (v : Json.Value) : OneLine v.toText.toList :=
  (noControl_toText v).oneLine

/-! ### Errors of the system -/

/-- A text that is spelled out, by its characters. -/
theorem oneLine_of_eq_ofList {s : String} {cs : List Char} (h : s = String.ofList cs)
    (hcs : OneLine cs) : OneLine s.toList := by
  rw [h, String.toList_ofList]
  exact hcs

theorem oneLine_description {code : Int} {text : String}
    (h : SystemError.description? code = some text) : OneLine text.toList := by
  unfold SystemError.description? at h
  split at h
  all_goals cases h
  all_goals exact oneLine_of_eq_ofList rfl (by decide)

@[simp] theorem oneLine_codeText (e : SystemError) : OneLine e.codeText.toList := by
  unfold SystemError.codeText
  split <;> simp

@[simp] theorem oneLine_systemError (e : SystemError) : OneLine e.message.toList := by
  unfold SystemError.message
  cases h : SystemError.description? e.code with
  | none => simp
  | some text => simp [oneLine_description h]

end EchoProbe.Text
