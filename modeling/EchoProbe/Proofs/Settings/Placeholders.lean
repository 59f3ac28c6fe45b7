import EchoProbe.Proofs.Settings.Expansion

/-!
# What expanding a text comes to

Three laws say what a text becomes: without a placeholder it stays, a placeholder is
replaced by the value of its variable while the rest is expanded, and one that is not
closed takes in everything behind it. No other way of replacing placeholders obeys them
(`replaces_iff`). It follows that two texts may be expanded apart, unless the cut runs
through a placeholder; whether it does is found by reading the first text once (`scan`).
-/

namespace EchoProbe.Environment

/-- A placeholder opens in the text. -/
def Opens (text : String) : Prop := ['$', '{'] <:+: text.toList

/-- The value of a variable, or nothing if it cannot be read. -/
def value (env : Environment) (name : String) : String := (env.read? name).getD ""

/-- **The laws of placeholders**, for a way of replacing them. -/
structure Replaces (env : Environment) (f : String → String) : Prop where
  /-- A text without placeholders stays. -/
  plain : ∀ s, ¬ Opens s → f s = s
  /-- The first placeholder gives way to the value, as it is, and the rest is replaced. -/
  placeholder : ∀ p n t, ¬ Opens p → '}' ∉ n.toList →
    f (p ++ "$\x7b" ++ n ++ "\x7d" ++ t) = p ++ env.value n ++ f t
  /-- A placeholder may end with the text. -/
  unclosed : ∀ p n, ¬ Opens p → '}' ∉ n.toList → f (p ++ "$\x7b" ++ n) = p ++ env.value n

/-! ## Reading a text once -/

/-- Where the reading of a text has got to. -/
inductive Scan where
  /-- Outside of placeholders. -/
  | text
  /-- The same, right behind a dollar sign. -/
  | dollar
  /-- In a placeholder. -/
  | name
deriving DecidableEq, Repr

/-- Read one more character. -/
def Scan.step (scan : Scan) (c : Char) : Scan :=
  match scan with
  | .text => if c = '$' then .dollar else .text
  | .dollar => if c = '{' then .name else if c = '$' then .dollar else .text
  | .name => if c = '}' then .text else .name

/-- Where the reading of a text ends. -/
def scan (text : String) : Scan := text.toList.foldl Scan.step .text

/-- **The cut between two texts** runs through no placeholder: the first does not end in
one, and none opens with a character on either side. -/
def Separate (s t : String) : Prop :=
  scan s ≠ .name ∧ ¬ (scan s = .dollar ∧ t.toList.head? = some '{')

/-- Texts may be replaced apart. -/
def Additive (f : String → String) : Prop := ∀ s t, Separate s t → f (s ++ t) = f s ++ f t

/-- A dollar sign is where the reading is, unless it is in a name. -/
theorem Scan.step_dollar {scan : Scan} (h : scan.step '$' ≠ .name) :
    scan.step '$' = .dollar := by
  cases scan with
  | text | dollar => rfl
  | name => exact absurd rfl h

/-- A dollar sign with no brace behind it plays no part in where the reading ends up. -/
theorem Scan.foldl_dollar {cs : List Char} (hcs : cs.head? ≠ some '{')
    (h : cs.foldl Scan.step .dollar ≠ .name) : cs.foldl Scan.step .text ≠ .name := by
  cases cs with
  | nil => nofun
  | cons c cs =>
    have hstep : Scan.step .dollar c = Scan.step .text c :=
      if_neg fun hc => hcs (congrArg some hc)
    rwa [List.foldl_cons, hstep] at h

/-- A reading that gets out of a placeholder has met its brace. -/
theorem Scan.exists_brace {cs : List Char} (h : cs.foldl Scan.step .name ≠ .name) :
    ∃ name rest, cs = name ++ '}' :: rest ∧ '}' ∉ name ∧
      rest.foldl Scan.step .text ≠ .name := by
  induction cs with
  | nil => exact absurd rfl h
  | cons c cs ih =>
    rw [List.foldl_cons] at h
    by_cases hc : c = '}'
    · rw [hc] at h
      exact ⟨[], cs, by rw [hc, List.nil_append], List.not_mem_nil, h⟩
    · rw [show Scan.step .name c = .name from if_neg hc] at h
      obtain ⟨name, rest, rfl, hname, hrest⟩ := ih h
      exact ⟨c :: name, rest, rfl, by simp [hname, Ne.symm hc], hrest⟩

/-- **A text is closed** if its reading does not end in a placeholder. -/
theorem Closed.of_scan (cs : List Char) (h : cs.foldl Scan.step .text ≠ .name) : Closed cs := by
  match cs with
  | [] => exact .nil
  | c :: cs =>
    by_cases hopen : c = '$' ∧ cs.head? = some '{'
    · obtain ⟨rfl, hhead⟩ := hopen
      obtain ⟨cs, rfl⟩ := List.head?_eq_some_iff.mp hhead
      obtain ⟨name, rest, rfl, hname, hrest⟩ := Scan.exists_brace h
      exact .placeholder hname (Closed.of_scan rest hrest)
    · refine .plain hopen (Closed.of_scan cs ?_)
      by_cases hc : c = '$'
      · have hstep : Scan.step .text c = .dollar := if_pos hc
        rw [List.foldl_cons, hstep] at h
        exact Scan.foldl_dollar (fun hhead => hopen ⟨hc, hhead⟩) h
      · rwa [List.foldl_cons, show Scan.step .text c = .text from if_neg hc] at h
termination_by cs.length
decreasing_by all_goals simp_all <;> omega

/-- A text that ends with a dollar sign is left there, unless in a placeholder. -/
theorem Scan.eq_dollar {cs : List Char} (h : cs.foldl Scan.step .text ≠ .name)
    (hlast : cs.getLast? = some '$') : cs.foldl Scan.step .text = .dollar := by
  obtain ⟨front, rfl⟩ := List.getLast?_eq_some_iff.mp hlast
  rw [List.foldl_append] at h ⊢
  exact Scan.step_dollar h

/-! ## The laws -/

variable (env : Environment)

/-- A placeholder opens with the first character or behind it. -/
theorem opens_cons_iff {c : Char} {cs : List Char} :
    ['$', '{'] <:+: c :: cs ↔ (c = '$' ∧ cs.head? = some '{') ∨ ['$', '{'] <:+: cs := by
  rw [List.infix_cons_iff, List.cons_prefix_cons]
  cases cs with
  | nil => simp
  | cons d cs => simp [List.cons_prefix_cons, eq_comm]

/-- A text without placeholders is closed and stays. -/
theorem closed_of_not_opens {cs : List Char} (h : ¬ ['$', '{'] <:+: cs) :
    Closed cs ∧ env.expandChars cs = cs := by
  induction cs with
  | nil => exact ⟨.nil, rfl⟩
  | cons c cs ih =>
    obtain ⟨hplain, hrest⟩ := not_or.mp (mt opens_cons_iff.mpr h)
    obtain ⟨hclosed, hcs⟩ := ih hrest
    exact ⟨.plain hplain hclosed, by rw [env.expandChars_cons hplain, hcs]⟩

/-- A name that no brace ends is read to the end. -/
theorem expandName_of_not_mem {name : List Char} (h : '}' ∉ name) (front : List Char) :
    env.expandName front name = env.valueChars (front.reverse ++ name) := by
  induction name generalizing front with
  | nil => rw [expandName, List.append_nil]
  | cons c name ih =>
    rw [List.mem_cons, not_or] at h
    rw [expandName, ih h.2, List.reverse_cons, List.append_assoc]
    · rfl
    · exact fun hc => h.1 hc.symm

/-- Behind a text without placeholders one opens. -/
theorem expandChars_opening {cs : List Char} (h : ¬ ['$', '{'] <:+: cs) (rest : List Char) :
    env.expandChars (cs ++ '$' :: '{' :: rest) = cs ++ env.expandName [] rest := by
  obtain ⟨hclosed, hcs⟩ := env.closed_of_not_opens h
  rw [env.expandChars_append_of_closed hclosed (by rintro ⟨-, ⟨⟩⟩), hcs, expandChars]

/-- Expanding obeys the laws. -/
theorem replaces_expand : env.Replaces env.expand where
  plain s h := by
    rw [expand, (env.closed_of_not_opens h).2, String.ofList_toList]
  placeholder p n t hp hn := by
    apply String.toList_inj.mp
    have htext : (p ++ "$\x7b" ++ n ++ "\x7d" ++ t).toList
        = p.toList ++ '$' :: '{' :: (n.toList ++ '}' :: t.toList) := by simp
    rw [expand, htext, env.expandChars_opening hp, env.expandName_append hn]
    simp [expand, valueChars, value]
  unclosed p n hp hn := by
    apply String.toList_inj.mp
    have htext : (p ++ "$\x7b" ++ n).toList = p.toList ++ '$' :: '{' :: n.toList := by simp
    rw [expand, htext, env.expandChars_opening hp, env.expandName_of_not_mem hn]
    simp [valueChars, value]

/-- Texts may be expanded apart. -/
theorem additive_expand : Additive env.expand := by
  intro s t ⟨hscan, hmeet⟩
  have happart : ¬ (s.toList.getLast? = some '$' ∧ t.toList.head? = some '{') :=
    fun ⟨hlast, hhead⟩ => hmeet ⟨Scan.eq_dollar hscan hlast, hhead⟩
  have hclosed := Closed.of_scan s.toList hscan
  rw [expand, String.toList_append, env.expandChars_append_of_closed hclosed happart,
    String.ofList_append]
  rfl

/-- A placeholder that opens in a text opens somewhere for the first time. -/
theorem exists_first_opening {cs : List Char} (h : ['$', '{'] <:+: cs) :
    ∃ front rest, cs = front ++ '$' :: '{' :: rest ∧ ¬ ['$', '{'] <:+: front := by
  induction cs with
  | nil => exact absurd (List.infix_nil.mp h) (by simp)
  | cons c cs ih =>
    by_cases hopen : c = '$' ∧ cs.head? = some '{'
    · obtain ⟨rfl, hhead⟩ := hopen
      obtain ⟨rest, rfl⟩ := List.head?_eq_some_iff.mp hhead
      exact ⟨[], rest, rfl, fun h => absurd (List.infix_nil.mp h) (by simp)⟩
    · have hcs : ['$', '{'] <:+: cs := (opens_cons_iff.mp h).resolve_left hopen
      obtain ⟨front, rest, rfl, hfront⟩ := ih hcs
      refine ⟨c :: front, rest, rfl, mt opens_cons_iff.mp (not_or.mpr ⟨?_, hfront⟩)⟩
      rintro ⟨hc, hhead⟩
      refine hopen ⟨hc, ?_⟩
      rw [List.head?_append, hhead, Option.some_or]

/-- **The laws leave no choice**: two ways of replacing placeholders that obey them
agree on every text. -/
theorem Replaces.unique {env : Environment} {f g : String → String} (hf : env.Replaces f)
    (hg : env.Replaces g) (s : String) : f s = g s := by
  by_cases hopen : Opens s
  · obtain ⟨front, rest, hs, hfront⟩ := exists_first_opening hopen
    have hfront' : ¬ Opens (String.ofList front) := by rwa [Opens, String.toList_ofList]
    by_cases hbrace : '}' ∈ rest
    · obtain ⟨name, tail, rfl, hname⟩ := List.eq_append_cons_of_mem hbrace
      have hname' : '}' ∉ (String.ofList name).toList := by rwa [String.toList_ofList]
      have htext : s = String.ofList front ++ "$\x7b" ++ String.ofList name ++ "\x7d"
          ++ String.ofList tail := by
        apply String.toList_inj.mp
        simp [hs]
      have hlt : tail.length < s.length := by
        rw [← String.length_toList, hs]
        simp only [List.length_append, List.length_cons]
        omega
      rw [htext, hf.placeholder _ _ _ hfront' hname', hg.placeholder _ _ _ hfront' hname',
        Replaces.unique hf hg (String.ofList tail)]
    · have hname : '}' ∉ (String.ofList rest).toList := by rwa [String.toList_ofList]
      have htext : s = String.ofList front ++ "$\x7b" ++ String.ofList rest := by
        apply String.toList_inj.mp
        simp [hs]
      rw [htext, hf.unclosed _ _ hfront' hname, hg.unclosed _ _ hfront' hname]
  · rw [hf.plain s hopen, hg.plain s hopen]
termination_by s.length
decreasing_by rwa [String.length_ofList]

/-- What can be read of an environment is all that counts. -/
theorem expand_congr {env env' : Environment} (h : ∀ name, env.read? name = env'.read? name)
    (s : String) : env.expand s = env'.expand s := by
  have hvalue : ∀ name, env.value name = env'.value name := fun name => by rw [value, value, h]
  have hlaws := env.replaces_expand
  have hreplaces : env'.Replaces env.expand :=
    ⟨hlaws.plain, fun p n t hp hn => hvalue n ▸ hlaws.placeholder p n t hp hn,
      fun p n hp hn => hvalue n ▸ hlaws.unclosed p n hp hn⟩
  exact hreplaces.unique env'.replaces_expand s

/-- **Expanding is what the laws of placeholders say**: it obeys them, and nothing else does.
And texts that no placeholder ties together may be expanded apart. -/
theorem replaces_iff :
    (∀ f : String → String, env.Replaces f ↔ f = env.expand) ∧ Additive env.expand := by
  refine ⟨fun f => ⟨fun hf => ?_, ?_⟩, env.additive_expand⟩
  · exact funext (hf.unique env.replaces_expand)
  · rintro rfl
    exact env.replaces_expand

/-- Two dollar signs make no placeholder, a brace in a name is part of it, and what a value
says is not looked at again. -/
example :
    (Environment.empty.set "A" "$\x7bB\x7d").expand "$$\x7bA\x7d$\x7b$\x7bA\x7d\x7d$"
      = "$$\x7bB\x7d\x7d$" := by
  decide +kernel

end EchoProbe.Environment
