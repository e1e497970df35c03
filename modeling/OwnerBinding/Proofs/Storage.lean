import OwnerBinding.Storage

/-!
# Where artifacts are found

A file that was written is found with its content at the place that its path leads to. The way there
leads through directories, and none of them is replaced by a file. A way that never steps back ends
below the place where it begins, so an artifact whose path does not step back behind the output
directory is found below the place that this directory leads to (`find?_of_store`).
-/

namespace OwnerBinding

namespace Storage

variable {storage other written : Storage} {place reached location : List String}
  {content : String}

theorem directoryAt_mono {components : List String}
    (hkept : ∀ location, storage.find? location = some .directory →
      other.find? location = some .directory)
    (h : storage.directoryAt place components = .ok reached) :
    other.directoryAt place components = .ok reached := by
  fun_induction directoryAt storage place components with
  | case1 place => exact h
  | case2 place rest ih =>
      rw [directoryAt, if_pos rfl]
      exact ih h
  | case3 => cases h
  | case4 => cases h
  | case5 place component rest hup hfind ih =>
      rw [directoryAt, if_neg hup, hkept _ hfind]
      exact ih h

theorem directoryAt_put {components : List String}
    (h : storage.directoryAt place components = .ok reached)
    (hlocation : storage.find? location ≠ some .directory) (entry : StorageEntry) :
    (storage.put location entry).directoryAt place components = .ok reached := by
  have hroot : location ≠ [] := by
    intro hnil
    rw [hnil] at hlocation
    exact hlocation rfl
  refine directoryAt_mono (fun kept hkept => ?_) h
  have hne : kept ≠ location := by
    intro heq
    rw [heq] at hkept
    exact hlocation hkept
  rw [find?_put _ _ _ _ hroot, if_neg hne, hkept]

/-- A file is written into a directory that exists, where no directory is. -/
theorem exists_put_of_writeFile {components : List String}
    (h : storage.writeFile components content = .ok written) :
    ∃ above last place, components = above ++ [last] ∧
      storage.directoryAt [] above = .ok place ∧ last ≠ ".." ∧
      storage.find? (place ++ [last]) ≠ some .directory ∧
      written = storage.put (place ++ [last]) (.file content) := by
  rw [writeFile] at h
  cases hlast : components.getLast? with
  | none => simp [hlast] at h
  | some last =>
      obtain ⟨above, rfl⟩ := List.getLast?_eq_some_iff.1 hlast
      cases hplace : storage.directoryAt [] above with
      | error fault => simp [hplace, bind, Except.bind] at h
      | ok place =>
          refine ⟨above, last, place, rfl, hplace, ?_⟩
          simp only [hlast, List.dropLast_concat, hplace, bind, Except.bind] at h
          grind

theorem directoryAt_append (storage : Storage) (place first second : List String) :
    storage.directoryAt place (first ++ second) =
      storage.directoryAt place first >>= fun next => storage.directoryAt next second := by
  fun_induction directoryAt storage place first with
  | case1 place => rfl
  | case2 place rest ih => rw [List.cons_append, directoryAt, if_pos rfl, ih]
  | case3 place component rest hup hfind =>
      rw [List.cons_append, directoryAt, if_neg hup, hfind]
      rfl
  | case4 place component rest hup content hfind =>
      rw [List.cons_append, directoryAt, if_neg hup, hfind]
      rfl
  | case5 place component rest hup hfind ih =>
      rw [List.cons_append, directoryAt, if_neg hup, hfind]
      exact ih

/-- A way that never steps back ends below the place where it begins. -/
theorem eq_append_of_directoryAt {components : List String}
    (h : storage.directoryAt place components = .ok reached) (hup : ".." ∉ components) :
    reached = place ++ components := by
  fun_induction directoryAt storage place components with
  | case1 place => simpa using h.symm
  | case2 => simp at hup
  | case3 => cases h
  | case4 => cases h
  | case5 place component rest _ hfind ih =>
      rw [ih h fun hmem => hup (List.mem_cons_of_mem component hmem), List.append_assoc,
        List.singleton_append]

theorem exists_writeFile_of_store {artifact : Artifact} {outputDirectory path : Path}
    {notices : List Notice}
    (h : storage.store artifact outputDirectory = (written, ⟨notices, .ok path⟩)) :
    path = artifact.pathUnder outputDirectory ∧
      ∃ made : Storage, made.writeFile path.components artifact.source = .ok written := by
  rw [store] at h
  split at h
  · cases h
  · next left hbelow =>
      cases h
      refine ⟨rfl, ?_⟩
      rw [writeBelow] at hbelow
      split at hbelow
      · cases hbelow
      · next made _ =>
          split at hbelow
          · next hwrite =>
              cases hbelow
              exact ⟨made, hwrite⟩
          · cases hbelow

/-- What is stored is found below the place that the output directory leads to, if the way from there
never steps back. -/
theorem find?_of_store {artifact : Artifact} {outputDirectory path : Path}
    {notices : List Notice} {above : List String} {last : String}
    (h : storage.store artifact outputDirectory = (written, ⟨notices, .ok path⟩))
    (hcomponents : (artifact.pathUnder outputDirectory).components =
      outputDirectory.components ++ (above ++ [last]))
    (hup : ".." ∉ above) :
    ∃ place, written.directoryAt [] outputDirectory.components = .ok place ∧
      written.find? (place ++ (above ++ [last])) = some (.file artifact.source) := by
  obtain ⟨rfl, made, hwrite⟩ := exists_writeFile_of_store h
  obtain ⟨way, name, reached, hway, hreached, _, hfree, rfl⟩ := exists_put_of_writeFile hwrite
  rw [hcomponents, ← List.append_assoc] at hway
  obtain ⟨rfl, hname⟩ := List.append_inj' hway rfl
  obtain rfl := List.cons.inj hname |>.1
  rw [directoryAt_append] at hreached
  cases hplace : made.directoryAt [] outputDirectory.components with
  | error fault =>
      rw [hplace] at hreached
      cases hreached
  | ok place =>
      rw [hplace] at hreached
      obtain rfl : reached = place ++ above := eq_append_of_directoryAt hreached hup
      refine ⟨place, directoryAt_put hplace hfree _, ?_⟩
      rw [← List.append_assoc, find?_put _ _ _ _ (by simp), if_pos rfl]

end Storage

end OwnerBinding
