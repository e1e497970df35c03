import OwnerBinding.Proofs.Storage

/-!
# What writing leaves alone

To write below a path is to make the directories above it that are missing and then to replace one
file. Directories are only ever added, each of them at a place that the path leads through and where
nothing was (`KeptOrMade`). They stay, and so does every way along a path (`directoryAt_mono`).

Making directories ends in a directory, or meets a file on the way (`makesDirectories`). So nothing
but the target of the path is written to (`Writes`), and where a file stands in the way or a directory
at the target, no file is touched at all (`Refuses`).
-/

namespace OwnerBinding

namespace Storage

variable {storage made left other : Storage} {components location target place : List String}

/-- Where the last step of a path ends, below the directory that the steps before it lead to. -/
def LeadsTo (storage : Storage) (components location : List String) : Prop :=
  ∃ above last place, components = above ++ [last] ∧ last ≠ ".." ∧
    storage.directoryAt [] above = .ok place ∧ location = place ++ [last]

/-- A file stands at the end of a path or on the way there. -/
def MeetsFile (storage : Storage) (components : List String) : Prop :=
  ∃ above location content, above <+: components ∧ storage.LeadsTo above location ∧
    storage.find? location = some (.file content)

/-- What is found at a location is kept, or nothing was there and a directory was made, through which
a path leads. -/
def KeptOrMade (storage left : Storage) (components location : List String) : Prop :=
  left.find? location = storage.find? location ∨
    storage.find? location = none ∧ left.find? location = some .directory ∧
      ∃ above, above <+: components ∧ left.directoryAt [] above = .ok location

/-! ## Ways along paths -/

theorem LeadsTo.mono
    (hkept : ∀ location, storage.find? location = some .directory →
      other.find? location = some .directory)
    (h : storage.LeadsTo components location) : other.LeadsTo components location := by
  obtain ⟨above, last, place, rfl, hup, hplace, rfl⟩ := h
  exact ⟨above, last, place, rfl, hup, directoryAt_mono hkept hplace, rfl⟩

theorem directoryAt_append_eq_ok_iff {first second reached : List String} :
    storage.directoryAt place (first ++ second) = .ok reached ↔
      ∃ middle, storage.directoryAt place first = .ok middle ∧
        storage.directoryAt middle second = .ok reached := by
  rw [directoryAt_append]
  cases storage.directoryAt place first with
  | ok middle =>
      constructor
      · intro h
        exact ⟨middle, rfl, h⟩
      · rintro ⟨_, hmiddle, h⟩
        cases hmiddle
        exact h
  | error fault => exact ⟨nofun, nofun⟩

theorem exists_directoryAt_of_isPrefix {above reached : List String}
    (h : storage.directoryAt [] components = .ok reached) (habove : above <+: components) :
    ∃ place, storage.directoryAt [] above = .ok place := by
  obtain ⟨rest, rfl⟩ := habove
  obtain ⟨place, hplace, _⟩ := directoryAt_append_eq_ok_iff.1 h
  exact ⟨place, hplace⟩

/-- A path that goes on without a step back leads below the place that its beginning leads to. -/
theorem LeadsTo.exists_eq_append {beginning above : List String} {last : String}
    (h : storage.LeadsTo (beginning ++ (above ++ [last])) location) (hup : ".." ∉ above) :
    ∃ place, storage.directoryAt [] beginning = .ok place ∧
      location = place ++ (above ++ [last]) := by
  obtain ⟨way, name, reached, hway, _, hreached, rfl⟩ := h
  rw [← List.append_assoc] at hway
  obtain ⟨rfl, hname⟩ := List.append_inj' hway rfl
  obtain rfl := (List.cons.inj hname).1
  obtain ⟨place, hplace, hrest⟩ := directoryAt_append_eq_ok_iff.1 hreached
  refine ⟨place, hplace, ?_⟩
  rw [eq_append_of_directoryAt hrest hup, List.append_assoc]

theorem directoryAt_concat {above : List String} {last : String}
    (h : storage.directoryAt [] above = .ok place) :
    storage.directoryAt [] (above ++ [last]) = storage.directoryAt place [last] := by
  rw [directoryAt_append, h]
  rfl

theorem directoryAt_singleton_of_directory {last : String} (hup : last ≠ "..")
    (h : storage.find? (place ++ [last]) = some .directory) :
    storage.directoryAt place [last] = .ok (place ++ [last]) := by
  rw [directoryAt, if_neg hup, h]
  rfl

/-- A way ends early where nothing is, or below a file. -/
theorem eq_notFound_or_notADirectory {fault : StorageFault}
    (h : storage.directoryAt place components = .error fault) :
    fault = .notFound ∨ fault = .notADirectory := by
  fun_induction directoryAt storage place components with
  | case1 => cases h
  | case2 place rest ih => exact ih h
  | case3 => exact .inl (Except.error.inj h).symm
  | case4 => exact .inr (Except.error.inj h).symm
  | case5 place component rest hup hfind ih => exact ih h

theorem MeetsFile.of_isPrefix {above : List String} (habove : above <+: components)
    (h : storage.MeetsFile above) : storage.MeetsFile components := by
  obtain ⟨beginning, location, content, hbeginning, hleads, hfile⟩ := h
  exact ⟨beginning, location, content, hbeginning.trans habove, hleads, hfile⟩

/-- A way that cannot go below a file meets this file. -/
theorem meetsFile_of_directoryAt {beginning : List String}
    (hplace : storage.directoryAt [] beginning = .ok place)
    (h : storage.directoryAt place components = .error .notADirectory) :
    storage.MeetsFile (beginning ++ components) := by
  fun_induction directoryAt storage place components generalizing beginning with
  | case1 => cases h
  | case2 place rest ih =>
      rw [List.append_cons]
      refine ih ?_ h
      rw [directoryAt_concat hplace, directoryAt, if_pos rfl]
      rfl
  | case3 => cases h
  | case4 place component rest hup content hfile =>
      refine ⟨beginning ++ [component], place ++ [component], content, ?_, ?_, hfile⟩
      · rw [List.append_cons beginning component rest]
        exact List.prefix_append _ _
      · exact ⟨beginning, component, place, rfl, hup, hplace, rfl⟩
  | case5 place component rest hup hfind ih =>
      rw [List.append_cons]
      refine ih ?_ h
      rw [directoryAt_concat hplace]
      exact directoryAt_singleton_of_directory hup hfind

theorem readFile_eq_ok_iff {content : String} :
    storage.readFile components = .ok content ↔
      ∃ location, storage.LeadsTo components location ∧
        storage.find? location = some (.file content) := by
  constructor
  · intro h
    rw [readFile] at h
    cases hlast : components.getLast? with
    | none => simp [hlast] at h
    | some last =>
        obtain ⟨above, rfl⟩ := List.getLast?_eq_some_iff.1 hlast
        cases hplace : storage.directoryAt [] above with
        | error fault => simp [hplace, bind, Except.bind] at h
        | ok place =>
            refine ⟨place ++ [last], ?_⟩
            simp only [hlast, List.dropLast_concat, hplace, bind, Except.bind] at h
            split at h
            · cases h
            · next hup =>
                refine ⟨⟨above, last, place, rfl, hup, hplace, rfl⟩, ?_⟩
                split at h <;> simp_all
  · rintro ⟨_, ⟨above, last, place, rfl, hup, hplace, rfl⟩, hfile⟩
    simp [readFile, hplace, hup, hfile, bind, Except.bind]

/-! ## Directories that are added -/

theorem KeptOrMade.find?_of_some {entry : StorageEntry}
    (h : storage.KeptOrMade left components location)
    (hentry : storage.find? location = some entry) : left.find? location = some entry := by
  rcases h with hkept | ⟨hnone, _, _⟩
  · rw [hkept, hentry]
  · simp [hnone] at hentry

theorem KeptOrMade.file_iff {content : String} (h : storage.KeptOrMade left components location) :
    left.find? location = some (.file content) ↔
      storage.find? location = some (.file content) := by
  rcases h with hkept | ⟨hnone, hmade, _⟩
  · rw [hkept]
  · simp [hnone, hmade]

theorem KeptOrMade.of_isPrefix {above : List String} (habove : above <+: components)
    (h : storage.KeptOrMade left above location) :
    storage.KeptOrMade left components location := by
  rcases h with hkept | ⟨hnone, hmade, beginning, hbeginning, hplace⟩
  · exact .inl hkept
  · exact .inr ⟨hnone, hmade, beginning, hbeginning.trans habove, hplace⟩

theorem KeptOrMade.trans (hmade : ∀ location, storage.KeptOrMade made components location)
    (hleft : ∀ location, made.KeptOrMade left components location) (location : List String) :
    storage.KeptOrMade left components location := by
  rcases hleft location with hkept | ⟨hnone, hdirectory, hway⟩
  · rcases hmade location with hfirst | ⟨hnone, hdirectory, above, habove, hplace⟩
    · exact .inl (hkept.trans hfirst)
    · refine .inr ⟨hnone, hkept.trans hdirectory, above, habove, ?_⟩
      exact directoryAt_mono (fun _ => (hleft _).find?_of_some) hplace
  · refine .inr ⟨?_, hdirectory, hway⟩
    cases hentry : storage.find? location with
    | none => rfl
    | some entry =>
        rw [(hmade location).find?_of_some hentry] at hnone
        cases hnone

/-- The outcome of making the directory of a path and those above it: they are made and the path ends in
one, or a file is met on the way. -/
structure MakesDirectories (storage : Storage) (components : List String)
    (outcome : Storage × Except StorageFault Unit) : Prop where
  kept : ∀ location, storage.KeptOrMade outcome.1 components location
  reached : outcome.2 = .ok () → ∃ place, outcome.1.directoryAt [] components = .ok place
  met : ∀ fault, outcome.2 = .error fault → outcome.1.MeetsFile components

theorem makeDirectory_of_ok {above : List String} (h : storage.directoryAt [] above = .ok place)
    (last : String) :
    storage.makeDirectory above last =
      if last = ".." then .error .exists
      else
        match storage.find? (place ++ [last]) with
        | some _ => .error .exists
        | none => .ok (storage.put (place ++ [last]) .directory) := by
  rw [makeDirectory, h]
  rfl

theorem makeDirectory_of_error {above : List String} {fault : StorageFault}
    (h : storage.directoryAt [] above = .error fault) (last : String) :
    storage.makeDirectory above last = .error fault := by
  rw [makeDirectory, h]
  rfl

/-- A directory that was missing is made in one that is there. -/
theorem makesDirectories_put {above : List String} {last : String}
    (hplace : storage.directoryAt [] above = .ok place) (hup : last ≠ "..")
    (hfree : storage.find? (place ++ [last]) = none) :
    storage.MakesDirectories (above ++ [last])
      (storage.put (place ++ [last]) .directory, .ok ()) := by
  have hfind := fun location =>
    storage.find?_put (place ++ [last]) location .directory (by simp)
  have hreached : (storage.put (place ++ [last]) .directory).directoryAt [] (above ++ [last]) =
      .ok (place ++ [last]) := by
    rw [directoryAt_concat (directoryAt_put hplace (by simp [hfree]) _)]
    exact directoryAt_singleton_of_directory hup (by rw [hfind, if_pos rfl])
  refine ⟨fun location => ?_, fun _ => ⟨_, hreached⟩, nofun⟩
  by_cases hlocation : location = place ++ [last]
  · rw [hlocation]
    refine .inr ⟨hfree, ?_, _, List.prefix_rfl, hreached⟩
    rw [hfind, if_pos rfl]
  · refine .inl ?_
    rw [hfind, if_neg hlocation]

/-- A path that goes on from a directory to something that is there ends in a directory, or meets a
file. -/
theorem makesDirectories_tolerate {fault : StorageFault}
    (h : storage.directoryAt [] components ≠ .error .notFound) :
    storage.MakesDirectories components (storage.tolerate components fault) := by
  rw [tolerate, isDirectory]
  cases hreached : storage.directoryAt [] components with
  | ok place => exact ⟨fun _ => .inl rfl, fun _ => ⟨place, hreached⟩, nofun⟩
  | error early =>
      refine ⟨fun _ => .inl rfl, nofun, fun _ _ => ?_⟩
      rcases eq_notFound_or_notADirectory hreached with rfl | rfl
      · exact absurd hreached h
      · have hroot : storage.directoryAt [] [] = .ok [] := rfl
        exact meetsFile_of_directoryAt hroot hreached

/-- Where the directory above is there, the last one can be made, or is tolerated. -/
theorem makeDirectory_cases {above : List String} (last : String)
    (hplace : storage.directoryAt [] above = .ok place) :
    (∃ made, storage.makeDirectory above last = .ok made ∧
        storage.MakesDirectories (above ++ [last]) (made, .ok ())) ∨
      storage.makeDirectory above last = .error .exists ∧
        storage.directoryAt [] (above ++ [last]) ≠ .error .notFound := by
  rw [makeDirectory_of_ok hplace, directoryAt_concat hplace]
  by_cases hup : last = ".."
  · rw [if_pos hup, hup]
    exact .inr ⟨rfl, nofun⟩
  · rw [if_neg hup]
    cases hfind : storage.find? (place ++ [last]) with
    | none => exact .inl ⟨_, rfl, makesDirectories_put hplace hup hfind⟩
    | some entry =>
        refine .inr ⟨rfl, ?_⟩
        cases entry <;> simp [directoryAt, hup, hfind]

theorem MakesDirectories.trans {above : List String} {outcome : Storage × Except StorageFault Unit}
    (habove : above <+: components) (hmade : storage.MakesDirectories above (made, .ok ()))
    (h : made.MakesDirectories components outcome) :
    storage.MakesDirectories components outcome where
  kept := KeptOrMade.trans (fun location => (hmade.kept location).of_isPrefix habove) h.kept
  reached := h.reached
  met := h.met

/-- By induction on the path from its end: what is above comes first where it is missing. -/
theorem makesDirectories_reversed (storage : Storage) (reversed : List String) :
    storage.MakesDirectories reversed.reverse (storage.makeDirectoriesReversed reversed) := by
  induction reversed with
  | nil => exact ⟨fun _ => .inl rfl, fun _ => ⟨[], rfl⟩, nofun⟩
  | cons last above ih =>
      rw [List.reverse_cons]
      have habove : above.reverse <+: above.reverse ++ [last] := List.prefix_append _ _
      cases hplace : storage.directoryAt [] above.reverse with
      | ok place =>
          rcases makeDirectory_cases last hplace with
            ⟨made, hmade, hmakes⟩ | ⟨hthere, hway⟩
          · simpa only [makeDirectoriesReversed, hmade] using hmakes
          · simpa only [makeDirectoriesReversed, hthere, List.reverse_cons]
              using makesDirectories_tolerate hway
      | error fault =>
          have hmake := makeDirectory_of_error hplace last
          rcases eq_notFound_or_notADirectory hplace with rfl | rfl
          · -- The directories above are made first. After that, the last one can be made.
            rcases hrest : storage.makeDirectoriesReversed above with ⟨made, fault | _⟩
            · rw [hrest] at ih
              simp only [makeDirectoriesReversed, hmake, hrest]
              exact ⟨fun location => (ih.kept location).of_isPrefix habove, nofun,
                fun _ _ => (ih.met fault rfl).of_isPrefix habove⟩
            · rw [hrest] at ih
              obtain ⟨place, hreached⟩ := ih.reached rfl
              refine ih.trans habove ?_
              rcases makeDirectory_cases last hreached with
                ⟨all, hall, hmakes⟩ | ⟨hthere, hway⟩
              · simpa only [makeDirectoriesReversed, hmake, hrest, hall] using hmakes
              · simpa only [makeDirectoriesReversed, hmake, hrest, hthere, List.reverse_cons]
                  using makesDirectories_tolerate hway
          · have hway : storage.directoryAt [] (above.reverse ++ [last]) ≠ .error .notFound := by
              rw [directoryAt_append, hplace]
              exact nofun
            simpa only [makeDirectoriesReversed, hmake, List.reverse_cons]
              using makesDirectories_tolerate hway

theorem makesDirectories (storage : Storage) (components : List String) :
    storage.MakesDirectories components (storage.makeDirectories components) := by
  simpa only [makeDirectories, List.reverse_reverse] using
    makesDirectories_reversed storage components.reverse

/-! ## One file that is written -/

/-- A storage in which a file was written below a path: it stands at the target of the path, and apart
from it nothing but missing directories was made. -/
structure Writes (storage left : Storage) (components : List String) (content : String)
    (target : List String) : Prop where
  leads : left.LeadsTo components target
  holds : left.find? target = some (.file content)
  /-- A file that was there is replaced, and a directory never is. -/
  replaced : storage.find? target ≠ some .directory
  /-- Each path above leads to a directory. -/
  above : ∀ ancestor, ancestor <+: components.dropLast →
    ∃ place, left.directoryAt [] ancestor = .ok place
  kept : ∀ location, location ≠ target →
    storage.KeptOrMade left components.dropLast location

/-- A storage in which no file was written, since a file stands on the way to the target of the path or
a directory at the target itself. -/
structure Refuses (storage left : Storage) (components : List String) : Prop where
  cause : left.MeetsFile components.dropLast ∨
    ∃ place, left.directoryAt [] components = .ok place
  files : ∀ location content, left.find? location = some (.file content) ↔
    storage.find? location = some (.file content)
  kept : ∀ location, storage.KeptOrMade left components.dropLast location

theorem Writes.readFile {content : String} (h : storage.Writes left components content target) :
    left.readFile components = .ok content :=
  readFile_eq_ok_iff.2 ⟨target, h.leads, h.holds⟩

theorem Writes.find?_of_some {content : String} {entry : StorageEntry}
    (h : storage.Writes left components content target) (hne : location ≠ target)
    (hentry : storage.find? location = some entry) : left.find? location = some entry :=
  (h.kept location hne).find?_of_some hentry

theorem Writes.directory {content : String} (h : storage.Writes left components content target)
    (hdirectory : storage.find? location = some .directory) :
    left.find? location = some .directory := by
  refine h.find?_of_some ?_ hdirectory
  rintro rfl
  exact h.replaced hdirectory

theorem refuses_of_kept
    (hcause : left.MeetsFile components.dropLast ∨
      ∃ place, left.directoryAt [] components = .ok place)
    (hkept : ∀ location, storage.KeptOrMade left components.dropLast location) :
    storage.Refuses left components where
  cause := hcause
  files := fun location _ => (hkept location).file_iff
  kept := hkept

/-- Where the directories above are there, a file is written, or a directory is its target. -/
theorem writeFile_cases (content : String)
    (hplace : storage.directoryAt [] components.dropLast = .ok place) :
    (∃ target, storage.writeFile components content = .ok (storage.put target (.file content)) ∧
        storage.LeadsTo components target ∧ storage.find? target ≠ some .directory) ∨
      storage.writeFile components content = .error .isADirectory ∧
        ∃ reached, storage.directoryAt [] components = .ok reached := by
  rcases List.eq_nil_or_concat components with rfl | ⟨above, last, rfl⟩
  · exact .inr ⟨rfl, [], rfl⟩
  · rw [List.concat_eq_append] at hplace ⊢
    rw [List.dropLast_concat] at hplace
    rw [directoryAt_concat hplace]
    by_cases hup : last = ".."
    · have hwrite : storage.writeFile (above ++ [last]) content = .error .isADirectory := by
        simp [writeFile, hplace, hup, bind, Except.bind]
      rw [hup, directoryAt, if_pos rfl]
      exact .inr ⟨hup ▸ hwrite, place.dropLast, rfl⟩
    · by_cases hdirectory : storage.find? (place ++ [last]) = some .directory
      · have hwrite : storage.writeFile (above ++ [last]) content = .error .isADirectory := by
          simp [writeFile, hplace, hup, hdirectory, bind, Except.bind]
        exact .inr ⟨hwrite, _, directoryAt_singleton_of_directory hup hdirectory⟩
      · have hwrite : storage.writeFile (above ++ [last]) content =
            .ok (storage.put (place ++ [last]) (.file content)) := by
          simp [writeFile, hplace, hup, bind, Except.bind]
        exact .inl ⟨_, hwrite, ⟨above, last, place, rfl, hup, hplace, rfl⟩, hdirectory⟩

theorem writes_put {content : String}
    (hmakes : storage.MakesDirectories components.dropLast (made, .ok ()))
    (hleads : made.LeadsTo components target) (hfree : made.find? target ≠ some .directory) :
    storage.Writes (made.put target (.file content)) components content target := by
  have htarget : target ≠ [] := by
    rintro rfl
    exact hfree rfl
  have hfind := fun location => made.find?_put target location (.file content) htarget
  have hdirectories : ∀ location, made.find? location = some .directory →
      (made.put target (.file content)).find? location = some .directory := by
    intro location hdirectory
    rw [hfind, if_neg, hdirectory]
    rintro rfl
    exact hfree hdirectory
  obtain ⟨place, hplace⟩ := hmakes.reached rfl
  refine ⟨hleads.mono hdirectories, ?_, ?_, ?_, ?_⟩
  · rw [hfind, if_pos rfl]
  · intro hdirectory
    exact hfree ((hmakes.kept target).find?_of_some hdirectory)
  · intro ancestor hancestor
    exact exists_directoryAt_of_isPrefix (directoryAt_mono hdirectories hplace) hancestor
  · intro location hne
    have hsame : (made.put target (.file content)).find? location = made.find? location := by
      rw [hfind, if_neg hne]
    rcases hmakes.kept location with hkept | ⟨hnone, hmade, above, habove, hway⟩
    · exact .inl (hsame.trans hkept)
    · exact .inr ⟨hnone, hsame.trans hmade, above, habove, directoryAt_mono hdirectories hway⟩

/-- To write below a path is to write one file, or none. -/
theorem writeBelow_cases (storage : Storage) (path : Path) (content : String) :
    (∃ left target, storage.writeBelow path content = (left, .ok ()) ∧
        storage.Writes left path.components content target) ∨
      ∃ left fault, storage.writeBelow path content = (left, .error fault) ∧
        storage.Refuses left path.components := by
  have hmakes := makesDirectories storage path.components.dropLast
  rw [writeBelow]
  rcases hmake : storage.makeDirectories path.components.dropLast with ⟨made, fault | _⟩ <;>
    rw [hmake] at hmakes
  · exact .inr ⟨made, fault, rfl, refuses_of_kept (.inl (hmakes.met fault rfl)) hmakes.kept⟩
  · obtain ⟨place, hplace⟩ := hmakes.reached rfl
    rcases writeFile_cases content hplace with ⟨target, hwrite, hleads, hfree⟩ | ⟨hrefuse, hdirectory⟩
    · simp only [hwrite]
      exact .inl ⟨_, target, rfl, writes_put hmakes hleads hfree⟩
    · simp only [hrefuse]
      exact .inr ⟨made, _, rfl, refuses_of_kept (.inr hdirectory) hmakes.kept⟩

end Storage

end OwnerBinding
