import Mathlib.Data.List.Induction
import Mathlib.Logic.Relation
import EchoProbe.Proofs.Echo.Registry
import EchoProbe.Proofs.Telling

/-!
# Registries behind handles

A call reaches the registry of its handle and no other (`Registries.store_call`),
and of that registry it revises one entry (`Call.get?_effect`). Which registry
this is was settled when the handle was made: a copy has the registry of its
original, and a new handle has one of its own.

The numbers of the registries are their own affair. From outside, two handles
`Shares` a registry if copying leads from one to the other, and after every
history of calls this is the same as to have one registry (`LaidOut`). The
induction is on the calls, at the end, and a handle that is made only then is
told apart from the older ones.

Here a call brings the number of a connection along, and a history is one in
which no number is brought twice. The numbers that the registries count
themselves make such a history (`exists_isHistory`).
-/

namespace EchoProbe.Echo

/-! ## Calls -/

/-- **One thing that is done** through a handle. -/
structure Call where
  /-- The handle. -/
  handle : Nat
  /-- What is done. -/
  action : Registry.Action
  /-- The number that is drawn for a connection, should one be entered. -/
  drawn : ConnectionId
deriving DecidableEq, Repr

namespace Call

/-- The number of the connection that is entered. -/
def entered? (c : Call) : Option ConnectionId :=
  match c.action with
  | .register .. => some c.drawn
  | _ => none

/-- The number that the call is about. -/
def about? (c : Call) : Option ConnectionId :=
  match c.action with
  | .register .. => some c.drawn
  | .remove id => some id
  | .recordEcho id => some id
  | .get id => some id
  | _ => none

/-- Whether there is one handle more afterwards. -/
def makesHandle (c : Call) : Bool :=
  match c.action with
  | .clone => true
  | .create => true
  | _ => false

/-- What the call makes of the registry that it reaches. -/
def effect (c : Call) (r : Registry) : Registry :=
  match c.action with
  | .register peer path => r.register c.drawn peer path
  | .remove id => r.remove id
  | .recordEcho id => r.recordEcho id
  | _ => r

/-- What the call makes of the entry of the number that it is about. -/
def revise (c : Call) (entry : Option Connection) : Option Connection :=
  match c.action with
  | .register peer path => entry.or (some ⟨c.drawn, peer, path, 0⟩)
  | .remove _ => none
  | .recordEcho _ => entry.map fun e => { e with framesEchoed := e.framesEchoed + 1 }
  | _ => entry

/-- **A call revises one entry** and leaves all others alone. -/
theorem get?_effect (c : Call) (r : Registry) (id : ConnectionId) :
    (c.effect r).get? id = if c.about? = some id then c.revise (r.get? id) else r.get? id := by
  obtain ⟨handle, action, drawn⟩ := c
  cases action with
  | register peer path =>
    show (r.register drawn peer path).get? id = if some drawn = some id then _ else _
    rw [Registry.get?_register]
    by_cases h : id = drawn
    · rw [if_pos h, if_pos (congrArg some h.symm)]
      rfl
    · rw [if_neg h, if_neg fun h' => h (Option.some.inj h').symm, Option.or_none]
  | remove gone =>
    show (r.remove gone).get? id = if some gone = some id then _ else _
    rw [Registry.get?_remove]
    by_cases h : id = gone
    · rw [if_pos h, if_pos (congrArg some h.symm)]
      rfl
    · rw [if_neg h, if_neg fun h' => h (Option.some.inj h').symm]
  | recordEcho counted =>
    show (r.recordEcho counted).get? id = if some counted = some id then _ else _
    rw [Registry.get?_recordEcho]
    by_cases h : id = counted
    · simp only [if_pos h, if_pos (congrArg some h.symm)]
      rfl
    · simp only [if_neg h, if_neg fun h' => h (Option.some.inj h').symm, Option.map_id']
  | get _ => exact (ite_self _).symm
  | _ => rfl

end Call

namespace Registries

/-- **Make a call.** The number of a connection is drawn by the caller, and not from
the registries. -/
def call (s : Registries) (c : Call) : Registries × Registry.Answer :=
  let done := { s with nextId := c.drawn }.step c.handle c.action
  ({ done.1 with nextId := s.nextId }, done.2)

/-- Make calls in a row. -/
def calls (s : Registries) (cs : List Call) : Registries := cs.foldl (fun s c => (s.call c).1) s

/-- The registry at an index. -/
def store (s : Registries) (k : Nat) : Registry := s.stores.getD k .empty

variable {s : Registries}

theorem calls_concat (s : Registries) (cs : List Call) (c : Call) :
    s.calls (cs ++ [c]) = ((s.calls cs).call c).1 :=
  List.foldl_append

theorem getD_modify {stores : List Registry} {k : Nat} (hk : k < stores.length)
    (f : Registry → Registry) (i : Nat) :
    (stores.modify k f).getD i Registry.empty
      = if k = i then f (stores.getD i Registry.empty) else stores.getD i Registry.empty := by
  rw [List.getD_eq_getElem?_getD, List.getElem?_modify, List.getD_eq_getElem?_getD]
  by_cases h : k = i
  · subst h
    rw [List.getElem?_eq_getElem hk]
    simp
  · simp [h]

/-- A registry more at the end has no connections yet. -/
theorem getD_concat_empty (stores : List Registry) (i : Nat) :
    (stores ++ [Registry.empty]).getD i Registry.empty = stores.getD i Registry.empty := by
  rw [List.getD_eq_getElem?_getD, List.getD_eq_getElem?_getD, List.getElem?_append]
  split
  · rfl
  · next h =>
    rw [List.getElem?_eq_none (Nat.not_lt.mp h)]
    rcases Nat.eq_zero_or_pos (i - stores.length) with hi | hi
    · rw [hi]
      rfl
    · rw [List.getElem?_eq_none hi]

/-- **A call changes the registry of its handle**, and no other. -/
theorem store_call {c : Call} (hc : s.storeOf c.handle < s.stores.length) (k : Nat) :
    (s.call c).1.store k = if s.storeOf c.handle = k then c.effect (s.store k) else s.store k := by
  obtain ⟨handle, action, drawn⟩ := c
  cases action with
  | register peer path => exact getD_modify hc _ k
  | remove id => exact getD_modify hc _ k
  | recordEcho id => exact getD_modify hc _ k
  | create => exact (getD_concat_empty s.stores k).trans (ite_self _).symm
  | _ => exact (ite_self _).symm

/-- The handles after a call. -/
theorem handles_call (c : Call) :
    (s.call c).1.handles = s.handles ++
      match c.action with
      | .clone => [s.storeOf c.handle]
      | .create => [s.stores.length]
      | _ => [] := by
  obtain ⟨handle, action, drawn⟩ := c
  cases action with
  | clone => rfl
  | create => rfl
  | _ => exact (List.append_nil _).symm

theorem length_stores_call (c : Call) :
    (s.call c).1.stores.length
      = s.stores.length + match c.action with
        | .create => 1
        | _ => 0 := by
  obtain ⟨handle, action, drawn⟩ := c
  cases action with
  | register peer path => exact List.length_modify _ _ _
  | remove id => exact List.length_modify _ _ _
  | recordEcho id => exact List.length_modify _ _ _
  | create => exact List.length_append
  | _ => rfl

/-- A handle is of the same registry for ever. -/
theorem storeOf_call {g : Nat} (hg : g < s.handles.length) (c : Call) :
    (s.call c).1.storeOf g = s.storeOf g := by
  rw [storeOf, handles_call, List.getD_eq_getElem?_getD, List.getElem?_append_left hg]
  rfl

/-- The handle that a call makes. -/
theorem storeOf_call_length (c : Call) (h : c.makesHandle) :
    (s.call c).1.storeOf s.handles.length
      = if c.action = .clone then s.storeOf c.handle else s.stores.length := by
  rw [storeOf, handles_call, List.getD_eq_getElem?_getD, List.getElem?_append_right (Nat.le_refl _),
    Nat.sub_self]
  obtain ⟨handle, action, drawn⟩ := c
  cases action with
  | clone => rfl
  | create => rfl
  | _ => nomatch h

end Registries

/-! ## Histories -/

/-- **How many handles there are** after these calls. -/
def handleCount (cs : List Call) : Nat := 1 + cs.countP Call.makesHandle

theorem handleCount_concat (cs : List Call) (c : Call) :
    handleCount (cs ++ [c]) = handleCount cs + if c.makesHandle then 1 else 0 := by
  rw [handleCount, List.countP_append, List.countP_singleton, ← Nat.add_assoc, handleCount]

/-- **Calls that can be made one after another**: each through a handle that there
is, and no number is drawn twice for a connection. -/
inductive IsHistory : List Call → Prop
  | nil : IsHistory []
  | concat {cs : List Call} (c : Call) (h : IsHistory cs) (hhandle : c.handle < handleCount cs)
      (hnew : ∀ id, c.entered? = some id → ∀ d ∈ cs, d.entered? ≠ some id) : IsHistory (cs ++ [c])

/-- **One handle was made as a copy of the other.** -/
def Copied (cs : List Call) (original copy : Nat) : Prop :=
  Somewhere cs fun before c _ =>
    c.action = .clone ∧ c.handle = original ∧ copy = handleCount before

/-- **Two handles share a registry** if copying leads from one to the other. -/
def Shares (cs : List Call) : Nat → Nat → Prop := Relation.EqvGen (Copied cs)

variable {cs : List Call} {c : Call} {g h : Nat}

theorem copied_concat_iff :
    Copied (cs ++ [c]) g h ↔
      Copied cs g h ∨ c.action = .clone ∧ c.handle = g ∧ h = handleCount cs :=
  somewhere_concat_iff cs c _

theorem Shares.concat (hshares : Shares cs g h) (c : Call) : Shares (cs ++ [c]) g h :=
  hshares.mono fun _ _ hcopied => copied_concat_iff.mpr (.inl hcopied)

/-- **The handles are laid out as they were made**: with one registry for those that
share. -/
structure LaidOut (cs : List Call) (s : Registries) : Prop where
  /-- There are the handles that were made. -/
  length : s.handles.length = handleCount cs
  /-- Each has a registry. -/
  lt (g : Nat) (hg : g < handleCount cs) : s.storeOf g < s.stores.length
  /-- A copy has the registry of its original. -/
  copied (g h : Nat) (hcopied : Copied cs g h) :
    g < handleCount cs ∧ h < handleCount cs ∧ s.storeOf g = s.storeOf h
  /-- Only copies have one registry. -/
  shares (g h : Nat) (hg : g < handleCount cs) (hh : h < handleCount cs)
    (heq : s.storeOf g = s.storeOf h) : Shares cs g h

namespace LaidOut

variable {s : Registries}

/-- Copying leads from a handle to handles of the same registry. -/
theorem storeOf_eq (hs : LaidOut cs s) (hshares : Shares cs g h) : s.storeOf g = s.storeOf h := by
  induction hshares with
  | rel g h hcopied => exact (hs.copied g h hcopied).2.2
  | refl g => rfl
  | symm g h _ ih => exact ih.symm
  | trans g h i _ _ ih ih' => exact ih.trans ih'

/-- **To share is to have one registry.** -/
theorem storeOf_eq_iff (hs : LaidOut cs s) (hg : g < handleCount cs) (hh : h < handleCount cs) :
    s.storeOf g = s.storeOf h ↔ Shares cs g h :=
  ⟨hs.shares g h hg hh, hs.storeOf_eq⟩

theorem start : LaidOut [] .start where
  length := rfl
  lt g hg := by
    obtain rfl := Nat.lt_one_iff.mp hg
    decide
  copied g h hcopied := absurd hcopied (not_somewhere_nil _)
  shares g h hg hh _ := by
    obtain rfl := Nat.lt_one_iff.mp hg
    obtain rfl := Nat.lt_one_iff.mp hh
    exact .refl 0

theorem storeOf_call (hs : LaidOut cs s) (hg : g < handleCount cs) (c : Call) :
    (s.call c).1.storeOf g = s.storeOf g :=
  Registries.storeOf_call (hs.length ▸ hg) c

/-- A call that makes no handle leaves the layout as it is. -/
theorem call_of_not_makesHandle (hs : LaidOut cs s) (hc : c.makesHandle = false) :
    LaidOut (cs ++ [c]) (s.call c).1 := by
  have hcount : handleCount (cs ++ [c]) = handleCount cs := by
    rw [handleCount_concat, hc]
    rfl
  have hcopied : ∀ g h, Copied (cs ++ [c]) g h ↔ Copied cs g h := by
    intro g h
    rw [copied_concat_iff, or_iff_left]
    rintro ⟨hclone, -⟩
    rw [Call.makesHandle, hclone] at hc
    cases hc
  constructor
  · rw [hcount, ← hs.length, Registries.handles_call]
    obtain ⟨handle, action, drawn⟩ := c
    cases action with
    | clone => cases hc
    | create => cases hc
    | _ => exact congrArg List.length (List.append_nil _)
  · intro g hg
    rw [hcount] at hg
    rw [hs.storeOf_call hg, Registries.length_stores_call]
    exact Nat.lt_add_right _ (hs.lt g hg)
  · intro g h hgh
    obtain ⟨hg, hh, heq⟩ := hs.copied g h ((hcopied g h).mp hgh)
    rw [hcount, hs.storeOf_call hg, hs.storeOf_call hh]
    exact ⟨hg, hh, heq⟩
  · intro g h hg hh heq
    rw [hcount] at hg hh
    rw [hs.storeOf_call hg, hs.storeOf_call hh] at heq
    exact (hs.shares g h hg hh heq).concat c

/-- A handle that is made is a copy of the handle of the call, or has a registry that
no handle has. -/
theorem call_of_makesHandle (hs : LaidOut cs s) (hhandle : c.handle < handleCount cs)
    (hc : c.makesHandle) : LaidOut (cs ++ [c]) (s.call c).1 := by
  have hcount : handleCount (cs ++ [c]) = handleCount cs + 1 := by
    rw [handleCount_concat, if_pos hc]
  have hmade : (s.call c).1.storeOf (handleCount cs)
      = if c.action = .clone then s.storeOf c.handle else s.stores.length := by
    rw [← hs.length]
    exact Registries.storeOf_call_length c hc
  have hlength : s.stores.length ≤ (s.call c).1.stores.length := by
    rw [Registries.length_stores_call]
    exact Nat.le_add_right _ _
  -- the registry of an older handle leads to the new one only over the call itself
  have hmeets : ∀ g < handleCount cs, s.storeOf g = (s.call c).1.storeOf (handleCount cs) →
      Shares (cs ++ [c]) g (handleCount cs) := by
    intro g hg heq
    rw [hmade] at heq
    split at heq
    · next hclone =>
      have hcopied : Copied (cs ++ [c]) c.handle (handleCount cs) :=
        copied_concat_iff.mpr (.inr ⟨hclone, rfl, rfl⟩)
      exact ((hs.shares g c.handle hg hhandle heq).concat c).trans _ _ _ (.rel _ _ hcopied)
    · exact absurd heq (Nat.ne_of_lt (hs.lt g hg))
  constructor
  · rw [hcount, ← hs.length, Registries.handles_call]
    obtain ⟨handle, action, drawn⟩ := c
    cases action with
    | clone => exact List.length_append
    | create => exact List.length_append
    | _ => nomatch hc
  · intro g hg
    rw [hcount] at hg
    rcases Nat.lt_succ_iff_lt_or_eq.mp hg with hg | rfl
    · rw [hs.storeOf_call hg]
      exact Nat.lt_of_lt_of_le (hs.lt g hg) hlength
    · rw [hmade]
      split
      · exact Nat.lt_of_lt_of_le (hs.lt _ hhandle) hlength
      · next hclone =>
        rw [Registries.length_stores_call]
        obtain ⟨handle, action, drawn⟩ := c
        cases action with
        | clone => exact absurd rfl hclone
        | create => exact Nat.lt_succ_self _
        | _ => nomatch hc
  · intro g h hgh
    rcases copied_concat_iff.mp hgh with hgh | ⟨hclone, rfl, rfl⟩
    · obtain ⟨hg, hh, heq⟩ := hs.copied g h hgh
      rw [hcount, hs.storeOf_call hg, hs.storeOf_call hh]
      exact ⟨Nat.lt_succ_of_lt hg, Nat.lt_succ_of_lt hh, heq⟩
    · rw [hcount, hs.storeOf_call hhandle, hmade, if_pos hclone]
      exact ⟨Nat.lt_succ_of_lt hhandle, Nat.lt_succ_self _, rfl⟩
  · intro g h hg hh heq
    rw [hcount] at hg hh
    rcases Nat.lt_succ_iff_lt_or_eq.mp hg with hg | rfl <;>
      rcases Nat.lt_succ_iff_lt_or_eq.mp hh with hh | rfl
    · rw [hs.storeOf_call hg, hs.storeOf_call hh] at heq
      exact (hs.shares g h hg hh heq).concat c
    · rw [hs.storeOf_call hg] at heq
      exact hmeets g hg heq
    · rw [hs.storeOf_call hh] at heq
      exact (hmeets h hh heq.symm).symm
    · exact .refl _

/-- **Every call leaves the handles laid out.** -/
theorem call (hs : LaidOut cs s) (hhandle : c.handle < handleCount cs) :
    LaidOut (cs ++ [c]) (s.call c).1 := by
  cases hc : c.makesHandle with
  | false => exact hs.call_of_not_makesHandle hc
  | true => exact hs.call_of_makesHandle hhandle hc

end LaidOut

/-- After every history the handles are laid out as they were made. -/
theorem IsHistory.laidOut (h : IsHistory cs) : LaidOut cs (Registries.start.calls cs) := by
  induction h with
  | nil => exact .start
  | concat c _ hhandle _ ih =>
    rw [Registries.calls_concat]
    exact ih.call hhandle

/-! ## The numbers that are counted -/

/-- Things that are done in a row, each through a handle. -/
def Registries.run (s : Registries) (doings : List (Nat × Registry.Action)) : Registries :=
  doings.foldl (fun s doing => (s.step doing.1 doing.2).1) s

theorem Registries.run_concat (s : Registries) (doings : List (Nat × Registry.Action))
    (doing : Nat × Registry.Action) :
    s.run (doings ++ [doing]) = ((s.run doings).step doing.1 doing.2).1 :=
  List.foldl_append

theorem Registries.nextId_le_step (s : Registries) (handle : Nat) (action : Registry.Action) :
    s.nextId ≤ (s.step handle action).1.nextId := by
  cases action with
  | register peer path => exact Nat.le_succ _
  | _ => exact Nat.le_refl _

/-- A call does what the registries do when they draw its number. -/
theorem Registries.call_of_drawing {s t : Registries} (c : Call)
    (h : { s with nextId := c.drawn } = t) :
    { (s.call c).1 with nextId := (t.step c.handle c.action).1.nextId }
      = (t.step c.handle c.action).1 := by
  subst h
  rfl

/-- **The calls are what was done**, with the numbers that were counted. -/
structure Counts (doings : List (Nat × Registry.Action)) (cs : List Call) : Prop where
  /-- They are calls that can be made one after another. -/
  isHistory : IsHistory cs
  /-- They do the same through the same handles. -/
  map_eq : cs.map (fun c => (c.handle, c.action)) = doings
  /-- They lead to the same registries and the same handles. -/
  calls_eq : { Registries.start.calls cs with nextId := (Registries.start.run doings).nextId }
    = Registries.start.run doings
  /-- The next number is greater than all that have been given. -/
  lt (c : Call) (hc : c ∈ cs) (id : ConnectionId) (hid : c.entered? = some id) :
    id < (Registries.start.run doings).nextId

/-- **What is done with counted numbers is a history of calls**, if the handles are
there when they are used. -/
theorem exists_isHistory (doings : List (Nat × Registry.Action))
    (hhandles : ∀ before doing after, doings = before ++ doing :: after →
      doing.1 < (Registries.start.run before).handles.length) : ∃ cs, Counts doings cs := by
  induction doings using List.reverseRecOn with
  | nil => exact ⟨[], .nil, rfl, rfl, fun c hc => absurd hc List.not_mem_nil⟩
  | append_singleton doings doing ih =>
    obtain ⟨cs, hcs⟩ := ih fun before doing' after heq =>
      hhandles before doing' (after ++ [doing]) (by rw [heq, List.append_assoc, List.cons_append])
    have hhandle := hhandles doings doing [] rfl
    have hrun := hcs.calls_eq
    rw [← hrun] at hhandle
    refine ⟨cs ++ [⟨doing.1, doing.2, (Registries.start.run doings).nextId⟩], ?_, ?_, ?_, ?_⟩
    · refine hcs.isHistory.concat _ (hcs.isHistory.laidOut.length ▸ hhandle) ?_
      intro id hid d hd hid'
      refine absurd (hcs.lt d hd id hid') (Nat.not_lt.mpr (Nat.le_of_eq ?_))
      obtain ⟨handle, action⟩ := doing
      cases action with
      | register peer path => exact Option.some.inj hid
      | _ => nomatch hid
    · rw [List.map_append, hcs.map_eq]
      rfl
    · rw [Registries.calls_concat, Registries.run_concat]
      exact Registries.call_of_drawing ⟨doing.1, doing.2, _⟩ hrun
    · intro d hd id hid
      rw [Registries.run_concat]
      rcases List.mem_append.mp hd with hd | hd
      · exact Nat.lt_of_lt_of_le (hcs.lt d hd id hid) (Registries.nextId_le_step _ _ _)
      · obtain rfl := List.mem_singleton.mp hd
        obtain ⟨handle, action⟩ := doing
        cases action with
        | register peer path => exact Nat.lt_succ_of_le (Nat.le_of_eq (Option.some.inj hid).symm)
        | _ => nomatch hid

end EchoProbe.Echo
