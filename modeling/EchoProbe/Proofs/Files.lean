import EchoProbe.Files

/-!
# Files by their names

A file of the working directory is found under its name (`entry_eq_file`). A file that is
looked for upwards is the one of the nearest directory that has one (`Nearest`), and the
directories that a tree knows of are all that have to be searched for it
(`nearest_findSome?`).
-/

namespace EchoProbe.FileTree

variable {files : FileTree} {name : String}

/-- A file of the working directory, by its name. -/
theorem entry_eq_file {content : List UInt8}
    (hfile : files.at? [name] = some (.file content)) (hzero : Char.ofNat 0 ∉ name.toList)
    (hparts : name.splitOn "/" = [name]) (hname : name ≠ "" ∧ name ≠ "." ∧ name ≠ "..")
    (hends : name.startsWith "/" = false ∧ name.endsWith "/" = false)
    (hlength : name.utf8ByteSize ≤ 255) : files.entry name = .ok (.file content) := by
  have hplain : parts name = [name] := by
    have hkept : (name != "" && name != ".") = true := by
      rw [bne_iff_ne.mpr hname.1, bne_iff_ne.mpr hname.2.1, Bool.and_true]
    rw [parts, hparts]
    exact List.filter_eq_self.mpr (List.forall_mem_singleton.mpr hkept)
  have horigin : origin name = [] := by
    rw [origin, hends.1]
    rfl
  have hfollow : files.follow [] [name] = .ok (.file content) := by
    rw [follow, show files.at? [] = some .directory from rfl]
    dsimp only
    rw [if_neg (Nat.not_lt.mpr hlength), if_neg hname.2.2, List.nil_append, follow, hfile]
  rw [entry, String.contains_char_eq, decide_eq_false hzero, if_neg Bool.false_ne_true,
    if_neg hname.1, horigin, hplain, hfollow]
  dsimp only
  rw [hends.2, if_neg Bool.false_ne_true]

/-! ### Looking upwards -/

/-- The file of a name in a directory. -/
def fileIn? (files : FileTree) (name : String) (directory : List String) : Option (List UInt8) :=
  match files.at? (directory ++ [name]) with
  | some (.file content) => some content
  | _ => none

/-- **The file of a name that is nearest**: in the working directory, else in the directory above
it, and so on, and in the root last. -/
inductive Nearest (files : FileTree) (name : String) : Option (List UInt8) → Prop
  /-- So many steps above the working directory, and not in between. -/
  | above {n : Nat} {content : List UInt8} (hfile : files.fileIn? name (up n) = some content)
    (hnearer : ∀ m < n, files.fileIn? name (up m) = none) : Nearest files name (some content)
  /-- In the root alone. -/
  | root {content : List UInt8} (hfile : files.fileIn? name root = some content)
    (hnearer : ∀ n, files.fileIn? name (up n) = none) : Nearest files name (some content)
  /-- Nowhere. -/
  | nowhere (hroot : files.fileIn? name root = none)
    (hnearer : ∀ n, files.fileIn? name (up n) = none) : Nearest files name none

/-- There is only one. -/
theorem Nearest.unique {found found' : Option (List UInt8)} (h : files.Nearest name found)
    (h' : files.Nearest name found') : found = found' := by
  cases h with
  | @above n content hfile hnearer =>
    cases h' with
    | @above n' content' hfile' hnearer' =>
      rcases Nat.lt_trichotomy n n' with hlt | rfl | hlt
      · rw [hnearer' n hlt] at hfile
        cases hfile
      · rw [← hfile, hfile']
      · rw [hnearer n' hlt] at hfile'
        cases hfile'
    | root _ hnone => rw [hnone n] at hfile; cases hfile
    | nowhere _ hnone => rw [hnone n] at hfile; cases hfile
  | root hfile hnearer =>
    cases h' with
    | @above n' content' hfile' hnearer' => rw [hnearer n'] at hfile'; cases hfile'
    | root hfile' _ => rw [← hfile, hfile']
    | nowhere hroot _ => rw [hroot] at hfile; cases hfile
  | nowhere hroot hnearer =>
    cases h' with
    | @above n' content' hfile' hnearer' => rw [hnearer n'] at hfile'; cases hfile'
    | root hfile' _ => rw [hroot] at hfile'; cases hfile'
    | nowhere _ _ => rfl

theorem isGiven_of_mem_ancestors {directory : List String} (h : directory ∈ files.ancestors) :
    isGiven directory = true := by
  rcases List.mem_append.mp h with h | h
  · obtain ⟨n, -, rfl⟩ := List.mem_map.mp h
    simp [isGiven, up]
  · rw [List.mem_singleton.mp h]
    rfl

/-- What a given directory holds under a name. -/
theorem follow_name {directory : List String} (hdirectory : isGiven directory = true)
    (hname : name ≠ "..") (hlength : name.utf8ByteSize ≤ 255) :
    files.follow directory [name]
      = (files.at? (directory ++ [name])).elim (.error .noSuchFile) .ok := by
  have hat : files.at? directory = some .directory := if_pos hdirectory
  rw [follow, hat]
  dsimp only
  rw [if_neg (Nat.not_lt.mpr hlength), if_neg hname, follow]
  cases files.at? (directory ++ [name]) <;> rfl

/-- **Above all entries there is nothing.** -/
theorem fileIn?_up_of_height_lt {n : Nat} (hname : name ≠ "..") (h : files.height < n) :
    files.fileIn? name (up n) = none := by
  have hgiven : isGiven (up n ++ [name]) = false := by
    obtain ⟨n, rfl⟩ := Nat.exists_eq_succ_of_ne_zero (Nat.ne_zero_of_lt h)
    simp [isGiven, up, List.replicate_succ, root, hname]
  have hmissing : files.entries.lookup (up n ++ [name]) = none := by
    rw [List.lookup_eq_none_iff]
    rintro ⟨place, entry⟩ hmem
    rw [bne_iff_ne]
    rintro rfl
    have hsteps : ((up n ++ [name]).takeWhile (· == "..")).length = n := by
      simp [up, hname]
    have hle : n ≤ files.height :=
      hsteps ▸ List.le_max?_getD_of_mem (List.mem_map_of_mem hmem)
    exact absurd hle (Nat.not_le.mpr h)
  unfold fileIn? at?
  rw [hgiven, if_neg Bool.false_ne_true, hmissing]
  dsimp only
  -- at best something stands below, and then there is a directory
  by_cases hbelow : files.entries.any fun e => (up n ++ [name]).isPrefixOf e.1
  · rw [if_pos hbelow]
  · rw [if_neg hbelow]

/-- **The first file in the directories that the tree knows of is the nearest one.** -/
theorem nearest_findSome? (files : FileTree) (hname : name ≠ "..") :
    files.Nearest name (files.ancestors.findSome? (files.fileIn? name)) := by
  rw [ancestors, List.findSome?_append, List.findSome?_map]
  cases hsearch : (List.range (files.height + 1)).findSome? (files.fileIn? name ∘ up) with
  | some content =>
    obtain ⟨nearer, n, further, hrange, hfile, hnearer⟩ := List.findSome?_eq_some_iff.mp hsearch
    refine .above hfile fun m hm => hnearer m ?_
    have hn : n < files.height + 1 :=
      List.mem_range.mp (hrange ▸ List.mem_append_right _ List.mem_cons_self)
    have hmem : m ∈ nearer ++ n :: further := hrange ▸ List.mem_range.mpr (Nat.lt_trans hm hn)
    have hsorted : (nearer ++ n :: further).Pairwise (· < ·) := hrange ▸ List.pairwise_lt_range
    have hfurther : ∀ k ∈ further, n < k := fun _ =>
      List.rel_of_pairwise_cons (List.pairwise_append.mp hsorted).2.1
    rcases List.mem_append.mp hmem with hmem | hmem
    · exact hmem
    · rcases List.mem_cons.mp hmem with rfl | hmem
      · exact absurd hm (Nat.lt_irrefl m)
      · exact absurd hm (Nat.lt_asymm (hfurther m hmem))
  | none =>
    have hnone : ∀ n, files.fileIn? name (up n) = none := by
      intro n
      rcases Nat.lt_or_ge files.height n with hlt | hle
      · exact fileIn?_up_of_height_lt hname hlt
      · exact List.findSome?_eq_none_iff.mp hsearch n (List.mem_range.mpr (Nat.lt_succ_of_le hle))
    rw [Option.none_or, List.findSome?_singleton]
    cases hroot : files.fileIn? name root with
    | some content => exact .root hroot hnone
    | none => exact .nowhere hroot hnone

end EchoProbe.FileTree
