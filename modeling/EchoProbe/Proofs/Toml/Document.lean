import Mathlib.Data.List.Basic
import Mathlib.Data.List.Nodup
import EchoProbe.Toml.Document

/-!
# A document holds no name twice

In each table of a document, each name has one entry (`Entries.Distinct`), so that
the order of the entries plays no part in what a name stands for. Assigning keeps this,
since a name that is taken is refused (`Entries.Distinct.assign`). A header keeps it too, but
not at once: the table that it opens is put into its place only when the next header comes.
What carries the argument is that the place stays free until then (`Builder.Distinct`).
-/

namespace EchoProbe.Toml

/-- **A value that holds no name twice**, in none of its tables. -/
inductive Node.Distinct : Node → Prop
  | string (s : String) : Distinct (.string s)
  | integer (n : Int) : Distinct (.integer n)
  | float (x : Binary64) : Distinct (.float x)
  | boolean (b : Bool) : Distinct (.boolean b)
  | moment : Distinct .moment
  | array {items : List Node} (members : ∀ n ∈ items, Distinct n) : Distinct (.array items)
  | table {origin : Origin} {es : List (String × Node)} (names : (es.map (·.1)).Nodup)
      (members : ∀ e ∈ es, Distinct e.2) : Distinct (.table origin es)
  | tables {elements : List (List (String × Node))}
      (names : ∀ es ∈ elements, (es.map (·.1)).Nodup)
      (members : ∀ es ∈ elements, ∀ e ∈ es, Distinct e.2) : Distinct (.tables elements)

/-! ### Tables -/

namespace Entries

variable {es es' sub : Entries} {name : String} {node : Node} {path : List String}

theorem lookup_add (hfree : es.lookup name = none) :
    List.lookup name (es ++ [(name, node)]) = some node := by
  rw [List.lookup_append, hfree, Option.none_or, List.lookup_cons, beq_self_eq_true]

theorem lookup_replace (h : (es.lookup name).isSome) :
    (es.replace name node).lookup name = some node := by
  induction es with
  | nil => cases h
  | cons e es ih =>
    obtain ⟨key, value⟩ := e
    by_cases hkey : key = name
    · rw [replace, List.map_cons, if_pos hkey, List.lookup_cons, beq_self_eq_true]
    · have hne : (name == key) = false := beq_eq_false_iff_ne.mpr (Ne.symm hkey)
      rw [List.lookup_cons, hne] at h
      rw [replace, List.map_cons, if_neg hkey, List.lookup_cons, hne]
      exact ih h

theorem lookup_erase (name : String) (es : Entries) : (es.erase name).lookup name = none := by
  rw [List.lookup_eq_none_iff]
  intro e he
  simpa [bne_comm] using (List.mem_filter.mp he).2

/-- **Entries that hold no name twice**, nor do their values. -/
structure Distinct (es : Entries) : Prop where
  /-- Each name has one entry. -/
  names : (es.map (·.1)).Nodup
  /-- The values hold no name twice. -/
  members : ∀ e ∈ es, e.2.Distinct

namespace Distinct

theorem nil : Distinct [] := ⟨List.nodup_nil, List.forall_mem_nil _⟩

theorem table (h : es.Distinct) (origin : Origin) : (Node.table origin es).Distinct :=
  .table h.names h.members

theorem of_table {origin : Origin} (h : (Node.table origin es).Distinct) : es.Distinct := by
  cases h with
  | table names members => exact ⟨names, members⟩

theorem tables {elements : List Entries} (h : ∀ es ∈ elements, es.Distinct) :
    (Node.tables elements).Distinct :=
  .tables (fun es hes => (h es hes).names) fun es hes => (h es hes).members

theorem of_tables {elements : List Entries} (h : (Node.tables elements).Distinct) :
    ∀ es ∈ elements, es.Distinct := by
  cases h with
  | tables names members => exact fun es hes => ⟨names es hes, members es hes⟩

theorem of_lookup (h : es.Distinct) (hnode : es.lookup name = some node) : node.Distinct := by
  obtain ⟨before, after, rfl, -⟩ := List.lookup_eq_some_iff.mp hnode
  exact h.members (name, node) (List.mem_append_right _ List.mem_cons_self)

/-- A name that is not taken may be added. -/
theorem add (h : es.Distinct) (hfree : es.lookup name = none) (hnode : node.Distinct) :
    Distinct (es ++ [(name, node)]) where
  names := by
    have hne := List.lookup_eq_none_iff.mp hfree
    rw [List.map_append, List.nodup_append]
    refine ⟨h.names, List.nodup_singleton _, fun other hother taken htaken => ?_⟩
    obtain ⟨e, he, rfl⟩ := List.mem_map.mp hother
    rw [List.mem_singleton.mp htaken]
    exact (bne_iff_ne.mp (hne e he)).symm
  members e he := by
    rcases List.mem_append.mp he with he | he
    · exact h.members e he
    · rw [List.mem_singleton.mp he]
      exact hnode

theorem replace (h : es.Distinct) (hnode : node.Distinct) : (es.replace name node).Distinct where
  names := by
    have hnames : (es.replace name node).map (·.1) = es.map (·.1) := by
      rw [Entries.replace, List.map_map]
      refine List.map_congr_left fun e _ => ?_
      rw [Function.comp_apply]
      split
      · next hname => exact hname.symm
      · rfl
    rw [hnames]
    exact h.names
  members e he := by
    obtain ⟨e', he', rfl⟩ := List.mem_map.mp he
    split
    · exact hnode
    · exact h.members e' he'

theorem erase (h : es.Distinct) (name : String) : (es.erase name).Distinct where
  names := (List.filter_sublist.map _).nodup h.names
  members e he := h.members e (List.mem_of_mem_filter he)

/-- The last element of an array of tables may be changed. -/
theorem replaceLast {elements : List Entries} (h : (Node.tables elements).Distinct)
    (hsub : sub.Distinct) : (Node.tables (elements.dropLast ++ [sub])).Distinct := by
  refine tables fun es hes => ?_
  rcases List.mem_append.mp hes with hes | hes
  · exact of_tables h es (List.dropLast_subset _ hes)
  · rw [List.mem_singleton.mp hes]
    exact hsub

theorem assign (h : es.Distinct) (hnode : node.Distinct)
    (hassign : es.assign path name node = some es') : es'.Distinct := by
  induction path generalizing es es' with
  | nil =>
    rw [Entries.assign] at hassign
    split at hassign
    · cases hassign
    · next hfree =>
      cases hassign
      exact h.add (Option.not_isSome_iff_eq_none.mp hfree) hnode
  | cons p path ih =>
    rw [Entries.assign] at hassign
    split at hassign
    · next hfree =>
      obtain ⟨sub, hsub, rfl⟩ := Option.map_eq_some_iff.mp hassign
      exact h.add hfree ((ih .nil hsub).table .dotted)
    · next hlookup =>
      obtain ⟨sub, hsub, rfl⟩ := Option.map_eq_some_iff.mp hassign
      exact h.replace ((ih (of_table (h.of_lookup hlookup)) hsub).table .dotted)
    · next hlookup =>
      split at hassign
      · cases hassign
      · obtain ⟨sub, hsub, rfl⟩ := Option.map_eq_some_iff.mp hassign
        exact h.replace ((ih (of_table (h.of_lookup hlookup)) hsub).table .implied)
    · next elements hlookup =>
      split at hassign
      · next hlast =>
        have helements := h.of_lookup hlookup
        have hold := of_tables helements _ (List.mem_of_getLast? hlast)
        obtain ⟨sub, hsub, rfl⟩ := Option.map_eq_some_iff.mp hassign
        exact h.replace (replaceLast helements (ih hold hsub))
      · cases hassign
    · cases hassign

theorem assignAll {pairs : List (List String × String × Node)}
    (hes : es.Distinct) (hpairs : ∀ p ∈ pairs, p.2.2.Distinct)
    (h : pairs.foldlM (fun es (path, name, node) => Entries.assign path name node es) es
      = some es') : es'.Distinct := by
  induction pairs generalizing es with
  | nil =>
    cases h
    exact hes
  | cons p pairs ih =>
    rw [List.foldlM_cons, Option.bind_eq_bind, Option.bind_eq_some_iff] at h
    obtain ⟨es₁, hassign, h⟩ := h
    have hp := List.forall_mem_cons.mp hpairs
    exact ih (hes.assign hp.1 hassign) hp.2 h

theorem of_inlineTable {pairs : List (List String × String × Node)}
    (hpairs : ∀ p ∈ pairs, p.2.2.Distinct) (h : inlineTable pairs = some node) :
    node.Distinct := by
  obtain ⟨es, hes, rfl⟩ := Option.map_eq_some_iff.mp h
  exact (nil.assignAll hpairs hes).table .inline

end Distinct

/-! ### Headers -/

/-- The table that the path of a header leads to; the tables that it would imply are empty. -/
def at? : List String → Entries → Option Entries
  | [], es => some es
  | p :: path, es =>
    match es.lookup p with
    | none => at? path []
    | some (.table .inline _) => none
    | some (.table _ sub) => at? path sub
    | some (.tables elements) => elements.getLast?.bind (at? path)
    | _ => none

/-- **What changes at a header** is the table that its path leads to. -/
theorem exists_of_atHeader {α : Type} {f : Entries → Option (Entries × α)} {a : α}
    (h : es.atHeader path f = some (es', a)) :
    ∃ t t', es.at? path = some t ∧ f t = some (t', a) ∧ es'.at? path = some t' ∧
      (es.Distinct → t.Distinct ∧ (t'.Distinct → es'.Distinct)) := by
  induction path generalizing es es' with
  | nil => exact ⟨es, es', rfl, h, rfl, fun hes => ⟨hes, id⟩⟩
  | cons p path ih =>
    rw [atHeader] at h
    split at h
    · next hfree =>
      obtain ⟨⟨sub', a'⟩, hsub, h⟩ := Option.map_eq_some_iff.mp h
      cases h
      obtain ⟨t, t', ht, hf, ht', hdistinct⟩ := ih hsub
      refine ⟨t, t', ?_, hf, ?_, fun hes => ⟨(hdistinct .nil).1, fun hnew => ?_⟩⟩
      · rw [at?, hfree]
        exact ht
      · rw [at?, lookup_add hfree]
        exact ht'
      · exact hes.add hfree (((hdistinct .nil).2 hnew).table .implied)
    · cases h
    · next origin sub horigin hlookup =>
      obtain ⟨⟨sub', a'⟩, hsub, h⟩ := Option.map_eq_some_iff.mp h
      cases h
      obtain ⟨t, t', ht, hf, ht', hdistinct⟩ := ih hsub
      have hsome : (es.lookup p).isSome := by rw [hlookup]; rfl
      refine ⟨t, t', ?_, hf, ?_, fun hes => ?_⟩
      · rw [at?, hlookup]
        cases origin <;> first | exact ht | exact absurd rfl horigin
      · rw [at?, lookup_replace hsome]
        cases origin <;> first | exact ht' | exact absurd rfl horigin
      · have hold := hdistinct (Distinct.of_table (hes.of_lookup hlookup))
        exact ⟨hold.1, fun hnew => hes.replace ((hold.2 hnew).table origin)⟩
    · next elements hlookup =>
      split at h
      · cases h
      · next sub hlast =>
        obtain ⟨⟨sub', a'⟩, hsub, h⟩ := Option.map_eq_some_iff.mp h
        cases h
        obtain ⟨t, t', ht, hf, ht', hdistinct⟩ := ih hsub
        have hsome : (es.lookup p).isSome := by rw [hlookup]; rfl
        refine ⟨t, t', ?_, hf, ?_, fun hes => ?_⟩
        · rw [at?, hlookup]
          dsimp only
          rw [hlast]
          exact ht
        · rw [at?, lookup_replace hsome]
          dsimp only
          rw [List.getLast?_concat]
          exact ht'
        · have helements := hes.of_lookup hlookup
          have hold := hdistinct (Distinct.of_tables helements _ (List.mem_of_getLast? hlast))
          exact ⟨hold.1, fun hnew => hes.replace (Distinct.replaceLast helements (hold.2 hnew))⟩
    · cases h

end Entries

/-! ### Statements -/

/-- **A document under construction that holds no name twice.** The place of the open table is
still free. -/
structure Builder.Distinct (b : Builder) : Prop where
  /-- The tables that are complete. -/
  root : b.root.Distinct
  /-- The open table. -/
  current : b.current.Distinct
  /-- The name of the open table is not taken. -/
  free : ∀ path name es, b.opened = some ⟨path, name, false⟩ →
    b.root.at? path = some es → es.lookup name = none

namespace Builder.Distinct

variable {b b' : Builder} {path : List String} {name : String}

theorem start : Builder.start.Distinct := ⟨.nil, .nil, nofun⟩

theorem close (h : b.Distinct) {es : Entries} (hclose : b.close = some es) : es.Distinct := by
  rw [Builder.close] at hclose
  split at hclose
  · cases hclose
    exact h.current
  · next path name hopened =>
    obtain ⟨⟨es', _⟩, hheader, rfl⟩ := Option.map_eq_some_iff.mp hclose
    obtain ⟨t, t', ht, hput, -, hdistinct⟩ := Entries.exists_of_atHeader hheader
    cases hput
    have hroot := hdistinct h.root
    exact hroot.2 (hroot.1.add (h.free path name t hopened ht) (h.current.table .header))
  · next path name hopened =>
    obtain ⟨⟨es', _⟩, hheader, rfl⟩ := Option.map_eq_some_iff.mp hclose
    obtain ⟨t, t', ht, hput, -, hdistinct⟩ := Entries.exists_of_atHeader hheader
    have hroot := hdistinct h.root
    split at hput
    · next elements hlookup =>
      cases hput
      refine hroot.2 (hroot.1.replace (Entries.Distinct.tables fun es hes => ?_))
      rcases List.mem_append.mp hes with hes | hes
      · exact Entries.Distinct.of_tables (hroot.1.of_lookup hlookup) es hes
      · rw [List.mem_singleton.mp hes]
        exact h.current
    · cases hput

theorem openTable (h : b.Distinct) (hopen : b.openTable path name = some b') : b'.Distinct := by
  simp only [Builder.openTable, Option.bind_eq_bind, Option.bind_eq_some_iff] at hopen
  obtain ⟨closed, hclose, ⟨root, current⟩, hheader, hopen⟩ := hopen
  cases hopen
  obtain ⟨t, t', ht, htake, ht', hdistinct⟩ := Entries.exists_of_atHeader hheader
  have hroot := hdistinct (h.close hclose)
  -- the name is free behind the header, whether it was before or has been taken out
  have hfree : t'.Distinct ∧ Entries.Distinct current ∧ t'.lookup name = none := by
    split at htake
    · next hfree =>
      cases htake
      exact ⟨hroot.1, .nil, hfree⟩
    · next sub hlookup =>
      cases htake
      exact ⟨hroot.1.erase name, .of_table (hroot.1.of_lookup hlookup),
        Entries.lookup_erase name t⟩
    · cases htake
  refine ⟨hroot.2 hfree.1, hfree.2.1, fun path' name' es hopened hes => ?_⟩
  cases hopened
  rw [Option.some_inj.mp (hes.symm.trans ht')]
  exact hfree.2.2

theorem openElement (h : b.Distinct) (hopen : b.openElement path name = some b') :
    b'.Distinct := by
  simp only [Builder.openElement, Option.bind_eq_bind, Option.bind_eq_some_iff] at hopen
  obtain ⟨closed, hclose, ⟨root, _⟩, hheader, hopen⟩ := hopen
  cases hopen
  obtain ⟨t, t', -, htake, -, hdistinct⟩ := Entries.exists_of_atHeader hheader
  have hroot := hdistinct (h.close hclose)
  refine ⟨hroot.2 ?_, .nil, fun path' name' es hopened => nomatch hopened⟩
  split at htake
  · next hfree =>
    cases htake
    exact hroot.1.add hfree (Entries.Distinct.tables (List.forall_mem_nil _))
  · cases htake
    exact hroot.1
  · cases htake

end Builder.Distinct

/-- **A statement whose value holds no name twice.** -/
def Statement.Distinct : Statement → Prop
  | .assign _ _ node => node.Distinct
  | _ => True

theorem Builder.Distinct.step {b b' : Builder} {statement : Statement} (h : b.Distinct)
    (hstatement : statement.Distinct) (hstep : b.step statement = some b') : b'.Distinct := by
  cases statement with
  | assign path name node =>
    obtain ⟨current, hassign, rfl⟩ := Option.map_eq_some_iff.mp hstep
    exact ⟨h.root, h.current.assign hstatement hassign, h.free⟩
  | openTable path name => exact h.openTable hstep
  | openElement path name => exact h.openElement hstep

theorem Builder.Distinct.steps {b b' : Builder} {statements : List Statement} (h : b.Distinct)
    (hstatements : ∀ s ∈ statements, s.Distinct)
    (hsteps : statements.foldlM Builder.step b = some b') : b'.Distinct := by
  induction statements generalizing b with
  | nil =>
    cases hsteps
    exact h
  | cons s statements ih =>
    rw [List.foldlM_cons, Option.bind_eq_bind, Option.bind_eq_some_iff] at hsteps
    obtain ⟨b₁, hstep, hsteps⟩ := hsteps
    have hs := hstatements s List.mem_cons_self
    exact ih (h.step hs hstep) (fun s hs => hstatements s (List.mem_cons_of_mem _ hs)) hsteps

/-- **Statements make a document that holds no name twice.** -/
theorem distinct_of_build {statements : List Statement} {es : Entries}
    (hstatements : ∀ s ∈ statements, s.Distinct) (h : build statements = some es) :
    es.Distinct := by
  obtain ⟨b, hsteps, hclose⟩ := Option.bind_eq_some_iff.mp h
  exact (Builder.Distinct.start.steps hstatements hsteps).close hclose

end EchoProbe.Toml
