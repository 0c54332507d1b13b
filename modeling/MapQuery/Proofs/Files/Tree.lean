import MapQuery.Files.Tree
import MapQuery.Proofs.Fallible
import Mathlib.Data.List.Basic

/-!
# What was written to a tree is there

A file that is written at a path from the root is found there with its bytes. On the way are folders
only: those that were there, and those that are made for the file.

* `walk_of_folders` -- what stands at the end of a way of folders is found;
* `noFile_of_walk` -- no file stands on a way that leads to a folder or to nothing;
* `folders_of_makeFolder`, `look_of_write` -- folders that are made, and a file that is written;
* `write_bind` -- what follows a write.
-/

namespace MapQuery.Tree

variable {t t' : Tree} {place names : List Rough}

/-! ## 1. Following a path -/

theorem stored_eq_directory_iff :
    t.stored place = .directory ↔ t.files.lookup place = none ∧ t.isFolder place = true := by
  unfold stored
  cases t.files.lookup place with
  | some bytes => simp
  | none =>
    cases t.isFolder place with
    | true => simp
    | false => simp

/-- Where nothing stands, no file stands below. -/
theorem noFile_below (h : t.stored place = .nothing) (below : List Rough) :
    t.files.lookup (place ++ below) = none := by
  unfold stored at h
  cases hplace : t.files.lookup place with
  | some bytes =>
    rw [hplace] at h
    cases h
  | none =>
    rw [hplace] at h
    cases hbelow : t.files.lookup (place ++ below) with
    | none => rfl
    | some bytes =>
      -- a file below makes the place a folder
      obtain ⟨before, after, hfiles, -⟩ := List.lookup_eq_some_iff.mp hbelow
      have hne : place ++ below ≠ place := by
        intro heq
        rw [heq, hplace] at hbelow
        cases hbelow
      have hfolder : t.isFolder place = true := by
        unfold isFolder
        simp [hfiles, hne]
      rw [hfolder] at h
      cases h

/-- **What stands at the end of a way of folders is found.** -/
theorem walk_of_folders (hdots : (".." : Rough) ∉ names)
    (h : ∀ above, above <+: names → above ≠ names → t.stored (place ++ above) = .directory) :
    t.walk place names = t.stored (place ++ names) := by
  induction names generalizing place with
  | nil =>
    rw [List.append_nil]
    rfl
  | cons name rest ih =>
    rw [List.mem_cons, not_or] at hdots
    obtain ⟨hname, hrest⟩ := hdots
    have hhere : t.stored place = .directory := by
      have hstored := h [] (List.nil_prefix) (List.cons_ne_nil name rest).symm
      rwa [List.append_nil] at hstored
    unfold walk
    rw [hhere]
    simp only
    rw [if_neg (Ne.symm hname), ih hrest, List.append_assoc]
    · rfl
    · intro above hprefix hne
      rw [List.append_assoc]
      exact h (name :: above) (List.cons_prefix_cons.mpr ⟨rfl, hprefix⟩) (by simpa using hne)

/-- **No file stands on a way that leads to a folder or to nothing.** If it leads to a folder, all
    places on it are folders. -/
theorem noFile_of_walk (hdots : (".." : Rough) ∉ names)
    (h : t.walk place names = .directory ∨ t.walk place names = .nothing) :
    ∀ above, above <+: names → t.files.lookup (place ++ above) = none ∧
      (t.walk place names = .directory → t.stored (place ++ above) = .directory) := by
  intro above habove
  induction names generalizing place above with
  | nil =>
    rw [List.prefix_nil.mp habove, List.append_nil]
    refine ⟨?_, fun hwalk => hwalk⟩
    rcases h with h | h
    · exact (stored_eq_directory_iff.mp h).1
    · have hnone := noFile_below h []
      rwa [List.append_nil] at hnone
  | cons name rest ih =>
    rw [List.mem_cons, not_or] at hdots
    obtain ⟨hname, hrest⟩ := hdots
    unfold walk at h ⊢
    cases hhere : t.stored place with
    | nothing => exact ⟨noFile_below hhere above, nofun⟩
    | directory =>
      rw [hhere] at h
      simp only at h ⊢
      rw [if_neg (Ne.symm hname)] at h ⊢
      cases above with
      | nil =>
        rw [List.append_nil]
        exact ⟨(stored_eq_directory_iff.mp hhere).1, fun _ => hhere⟩
      | cons first more =>
        obtain ⟨rfl, hmore⟩ := List.cons_prefix_cons.mp habove
        have hdeeper := ih hrest h more hmore
        rwa [List.append_assoc] at hdeeper
    | file bytes =>
      rw [hhere] at h
      rcases h with h | h <;> cases h
    | blocked =>
      rw [hhere] at h
      rcases h with h | h <;> cases h

/-- A path from the root is followed from there. -/
theorem look_eq_walk (t : Tree) {p : Path} (hstart : p.start ≠ .here) :
    t.look p = t.walk [] p.names := by
  unfold look
  rw [if_neg hstart]

/-! ## 2. Writing -/

/-- **A folder that was made is one, and so are all above it.** -/
theorem folders_of_makeFolder {p : Path} (hstart : p.start ≠ .here)
    (hdots : (".." : Rough) ∉ p.names) (h : t.makeFolder p = .ok t') :
    ∀ above, above <+: p.names → t'.stored above = .directory := by
  intro above habove
  have hway : t.walk [] p.names = .directory ∨ t.walk [] p.names = .nothing →
      t.files.lookup above = none ∧
        (t.walk [] p.names = .directory → t.stored above = .directory) :=
    fun hwalk => noFile_of_walk hdots hwalk above habove
  unfold makeFolder at h
  rw [look_eq_walk t hstart] at h
  split at h
  · next hwalk =>
    cases h
    exact (hway (.inl hwalk)).2 hwalk
  · cases h
  · cases h
  · next hwalk =>
    cases h
    refine stored_eq_directory_iff.mpr ⟨(hway (.inr hwalk)).1, ?_⟩
    unfold isFolder
    simp [List.isPrefixOf_iff_prefix.mpr habove]

theorem lookup_putFile_of_ne {bytes : List UInt8} {files : List (List Rough × List UInt8)}
    {other : List Rough} (hne : other ≠ place) :
    (putFile place bytes files).lookup other = files.lookup other := by
  have hother : (other == place) = false := beq_eq_false_iff_ne.mpr hne
  induction files with
  | nil =>
    unfold putFile
    rw [List.lookup_cons, hother]
  | cons f rest ih =>
    unfold putFile
    split
    · next hf => rw [List.lookup_cons, List.lookup_cons, hf, hother]
    · rw [List.lookup_cons, List.lookup_cons, ih]

theorem mem_putFile (place : List Rough) (bytes : List UInt8)
    (files : List (List Rough × List UInt8)) : (place, bytes) ∈ putFile place bytes files := by
  obtain ⟨before, after, hfiles, -⟩ :=
    List.lookup_eq_some_iff.mp (lookup_putFile place bytes files)
  rw [hfiles]
  simp

/-- **What was written is found.** -/
theorem look_of_write {p : Path} {bytes : List UInt8} (hstart : p.start ≠ .here)
    (hdots : (".." : Rough) ∉ p.names) (h : t.write p bytes = .ok t') :
    t'.look p = .file bytes := by
  unfold write at h
  obtain ⟨made, hmade, h⟩ := bind_eq_ok.mp h
  have hfolders := folders_of_makeFolder (p := p.parent) hstart
    (fun hmem => hdots (List.dropLast_subset _ hmem)) hmade
  have habove : ∀ above, above <+: p.names → above ≠ p.names → made.stored above = .directory := by
    intro above hprefix hne
    obtain ⟨rest, hrest⟩ := hprefix
    have hrestNe : rest ≠ [] := by
      intro hnil
      rw [hnil, List.append_nil] at hrest
      exact hne hrest
    refine hfolders above ⟨rest.dropLast, ?_⟩
    show above ++ rest.dropLast = p.names.dropLast
    rw [← hrest, List.dropLast_append_of_ne_nil hrestNe]
  split at h
  · cases h
  · cases h
    have hput : ∀ above, above <+: p.names → above ≠ p.names →
        ({ made with files := putFile p.names bytes made.files } : Tree).stored ([] ++ above) =
          .directory := by
      intro above hprefix hne
      obtain ⟨hnone, -⟩ := stored_eq_directory_iff.mp (habove above hprefix hne)
      refine stored_eq_directory_iff.mpr ⟨(lookup_putFile_of_ne hne).trans hnone, ?_⟩
      have hbelow : (putFile p.names bytes made.files).any
          (fun f => f.1 != above && above.isPrefixOf f.1) = true :=
        List.any_eq_true.mpr ⟨_, mem_putFile p.names bytes made.files, by
          simp [Ne.symm hne, List.isPrefixOf_iff_prefix.mpr hprefix]⟩
      unfold isFolder
      simp [hbelow]
    rw [look_eq_walk _ hstart, walk_of_folders hdots hput]
    unfold stored
    rw [List.nil_append, lookup_putFile]

/-- **A write to a tree that is a storage is one of the tree**, and what follows goes on from
    there. -/
theorem write_bind {α : Type} (t : Tree) (p : Path) (bytes : List UInt8)
    (f : Except StorageFault Unit → StateM Tree α) :
    ((Storage.write p bytes : StateM Tree (Except StorageFault Unit)) >>= f) t =
      match t.write p bytes with
      | .ok t' => f (.ok ()) t'
      | .error e => f (.error e) t := by
  have hwrite : (Storage.write p bytes : StateM Tree (Except StorageFault Unit)) t =
      match t.write p bytes with
      | .ok t' => (.ok (), t')
      | .error e => (.error e, t) := rfl
  show f ((Storage.write p bytes : StateM Tree (Except StorageFault Unit)) t).1
    ((Storage.write p bytes : StateM Tree (Except StorageFault Unit)) t).2 = _
  rw [hwrite]
  cases t.write p bytes with
  | ok t' => rfl
  | error e => rfl

end MapQuery.Tree
