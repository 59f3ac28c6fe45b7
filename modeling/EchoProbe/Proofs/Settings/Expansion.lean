import EchoProbe.Settings.Expansion

/-!
# Placeholders one after another

A text is *closed* if every placeholder that opens in it ends in it. What follows
such a text is expanded as if it stood alone (`expandChars_append`), unless the two
make a new placeholder where they meet.
-/

namespace EchoProbe.Environment

/-- **Every placeholder that opens in the text ends in it.** -/
inductive Closed : List Char → Prop
  | nil : Closed []
  /-- A character that opens no placeholder. -/
  | plain {c : Char} {cs : List Char} (h : ¬ (c = '$' ∧ cs.head? = some '{')) (hcs : Closed cs) :
    Closed (c :: cs)
  /-- A placeholder. -/
  | placeholder {name cs : List Char} (h : '}' ∉ name) (hcs : Closed cs) :
    Closed ('$' :: '{' :: (name ++ '}' :: cs))

variable (env : Environment)

/-- A character that opens no placeholder stays. -/
theorem expandChars_cons {c : Char} {cs : List Char} (h : ¬ (c = '$' ∧ cs.head? = some '{')) :
    env.expandChars (c :: cs) = c :: env.expandChars cs := by
  rw [expandChars]
  rintro cs' rfl rfl
  exact h ⟨rfl, rfl⟩

/-- A name is read up to its brace. -/
theorem expandName_append {name : List Char} (h : '}' ∉ name) (front cs : List Char) :
    env.expandName front (name ++ '}' :: cs)
      = env.valueChars (front.reverse ++ name) ++ env.expandChars cs := by
  induction name generalizing front with
  | nil => rw [List.nil_append, expandName, List.append_nil]
  | cons c name ih =>
    rw [List.mem_cons, not_or] at h
    rw [List.cons_append, expandName, ih h.2, List.reverse_cons, List.append_assoc]
    · rfl
    · exact fun hc => h.1 hc.symm

/-- **A placeholder is replaced** by the value of its variable, and what follows
it is expanded. -/
theorem expandChars_placeholder {name : List Char} (h : '}' ∉ name) (cs : List Char) :
    env.expandChars ('$' :: '{' :: (name ++ '}' :: cs))
      = env.valueChars name ++ env.expandChars cs := by
  rw [expandChars, expandName_append env h]
  rfl

/-- **Two texts one after another** are expanded each as if it stood alone, if the first is
closed and they make no new placeholder where they meet. -/
theorem expandChars_append_of_closed {cs rest : List Char} (h : Closed cs)
    (hmeet : ¬ (cs.getLast? = some '$' ∧ rest.head? = some '{')) :
    env.expandChars (cs ++ rest) = env.expandChars cs ++ env.expandChars rest := by
  induction h with
  | nil => rw [List.nil_append, expandChars, List.nil_append]
  | @plain c cs h hcs ih =>
    cases cs with
    | nil =>
      have happend : ¬ (c = '$' ∧ rest.head? = some '{') := fun ⟨hc, hhead⟩ =>
        hmeet ⟨congrArg some hc, hhead⟩
      rw [List.singleton_append, expandChars_cons env happend, expandChars_cons env h,
        expandChars, List.singleton_append]
    | cons d cs =>
      rw [List.getLast?_cons_cons] at hmeet
      have happend : ¬ (c = '$' ∧ (d :: cs ++ rest).head? = some '{') := h
      rw [List.cons_append, expandChars_cons env h, expandChars_cons env happend, ih hmeet,
        List.cons_append]
  | @placeholder name cs h hcs ih =>
    have hassoc : '$' :: '{' :: (name ++ '}' :: cs) ++ rest
        = '$' :: '{' :: (name ++ '}' :: (cs ++ rest)) := by simp
    have hmeet' : ¬ (cs.getLast? = some '$' ∧ rest.head? = some '{') := fun ⟨hlast, hhead⟩ =>
      hmeet ⟨by simp [List.getLast?_append, List.getLast?_cons, hlast], hhead⟩
    rw [hassoc, expandChars_placeholder env h, expandChars_placeholder env h, ih hmeet',
      List.append_assoc]

/-- **What follows a closed text** is expanded as if it stood alone, if it does not
begin with a brace. -/
theorem expandChars_append {cs rest : List Char} (h : Closed cs) (hrest : rest.head? ≠ some '{') :
    env.expandChars (cs ++ rest) = env.expandChars cs ++ env.expandChars rest :=
  env.expandChars_append_of_closed h fun hmeet => hrest hmeet.2

end EchoProbe.Environment
