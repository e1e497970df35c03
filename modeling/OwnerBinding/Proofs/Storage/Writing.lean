import OwnerBinding.Proofs.Placement
import OwnerBinding.Proofs.Storage.Frame

/-!
# Artifacts that are stored one after the other

Storing an artifact touches one file, or none (`storesOneFile`). Two artifacts whose names settings
accept have one target under an output directory only if they have the same names. So a file that was
stored stays until an artifact with its names is stored again (`readFile_of_store`), and after any
number of artifacts each path holds the last one with its names (`exists_isLastOf_of_storesEach`).
-/

namespace OwnerBinding

/-- Whether two artifacts are the same module, whatever their texts. -/
def Artifact.SameModule (first second : Artifact) : Prop :=
  first.package = second.package ∧ first.module = second.module

theorem Artifact.SameModule.pathUnder_eq {first second : Artifact} (h : first.SameModule second)
    (outputDirectory : Path) :
    first.pathUnder outputDirectory = second.pathUnder outputDirectory := by
  rw [pathUnder, pathUnder, relativePath, relativePath, h.1, h.2]

theorem Artifact.SameModule.symm {first second : Artifact} (h : first.SameModule second) :
    second.SameModule first :=
  ⟨h.1.symm, h.2.symm⟩

theorem Artifact.SameModule.trans {first second third : Artifact} (h : first.SameModule second)
    (hsecond : second.SameModule third) : first.SameModule third :=
  ⟨h.1.trans hsecond.1, h.2.trans hsecond.2⟩

/-- The last of some artifacts that are the same module as the given one. -/
def Artifact.IsLastOf (artifacts : List Artifact) (artifact last : Artifact) : Prop :=
  last.SameModule artifact ∧ ∃ before after, artifacts = before ++ last :: after ∧
    ∀ later ∈ after, ¬ later.SameModule artifact

namespace Storage

variable {storage left : Storage} {artifact other : Artifact} {artifacts : List Artifact}
  {outputDirectory path : Path} {notices : List Notice} {content : String}

/-- What is found at the path of an artifact under an output directory after it was stored, and that
nothing else was touched; or that no file was touched, and why. -/
inductive StoresOneFile (storage : Storage) (artifact : Artifact) (outputDirectory : Path) : Prop
  | written (left : Storage) (target : List String)
      (eq : storage.store artifact outputDirectory =
        (left, ⟨[.stored artifact.dottedName (artifact.pathUnder outputDirectory).toString],
          .ok (artifact.pathUnder outputDirectory)⟩))
      (writes : storage.Writes left (artifact.pathUnder outputDirectory).components
        artifact.source target)
  | refused (left : Storage) (fault : StorageFault)
      (eq : storage.store artifact outputDirectory = (left, ⟨[], .error fault⟩))
      (refuses : storage.Refuses left (artifact.pathUnder outputDirectory).components)

theorem storesOneFile (storage : Storage) (artifact : Artifact) (outputDirectory : Path) :
    storage.StoresOneFile artifact outputDirectory := by
  rcases storage.writeBelow_cases (artifact.pathUnder outputDirectory) artifact.source with
    ⟨left, target, hbelow, hwrites⟩ | ⟨left, fault, hbelow, hrefuses⟩
  · refine .written left target ?_ hwrites
    rw [store, hbelow]
    rfl
  · refine .refused left fault ?_ hrefuses
    rw [store, hbelow]
    rfl

theorem exists_writes_of_store
    (h : storage.store artifact outputDirectory = (left, ⟨notices, .ok path⟩)) :
    ∃ target, storage.Writes left (artifact.pathUnder outputDirectory).components
      artifact.source target := by
  rcases storage.storesOneFile artifact outputDirectory with
    ⟨stored, target, heq, hwrites⟩ | ⟨stored, fault, heq, _⟩ <;>
    rw [heq, Prod.mk.injEq] at h
  · exact ⟨target, h.1 ▸ hwrites⟩
  · cases h.2

/-- Where the path of a module leads, below the place of the output directory. -/
theorem exists_eq_append_of_placed {location : List String} (h : artifact.PlacedByNames)
    (hleads : storage.LeadsTo (artifact.pathUnder outputDirectory).components location) :
    ∃ place, storage.directoryAt [] outputDirectory.components = .ok place ∧
      location = place ++
        (Artifact.directories artifact.package ++ [Artifact.fileName artifact.module]) := by
  rw [h.pathUnder_eq, h.relativePath_eq] at hleads
  refine hleads.exists_eq_append fun hup => (h.plain ".." ?_).ne_parent rfl
  rw [h.relativePath_eq]
  exact List.mem_append_left _ hup

theorem target_ne {location target : List String} (hartifact : artifact.PlacedByNames)
    (hother : other.PlacedByNames) (hne : ¬ other.SameModule artifact)
    (hlocation : storage.LeadsTo (artifact.pathUnder outputDirectory).components location)
    (htarget : storage.LeadsTo (other.pathUnder outputDirectory).components target) :
    location ≠ target := by
  obtain ⟨place, hplace, rfl⟩ := exists_eq_append_of_placed hartifact hlocation
  obtain ⟨place', hplace', rfl⟩ := exists_eq_append_of_placed hother htarget
  obtain rfl : place = place' := Except.ok.inj (hplace.symm.trans hplace')
  intro heq
  obtain ⟨hpackage, hfile⟩ :=
    Artifact.eq_of_directories_append_eq (List.append_cancel_left heq)
  refine hne ⟨hpackage.symm, ?_⟩
  simpa [Artifact.fileName] using hfile.symm

theorem readFile_of_store (hartifact : artifact.PlacedByNames) (hother : other.PlacedByNames)
    (hne : ¬ other.SameModule artifact)
    (h : storage.store other outputDirectory = (left, ⟨notices, .ok path⟩))
    (hread : storage.readFile (artifact.pathUnder outputDirectory).components = .ok content) :
    left.readFile (artifact.pathUnder outputDirectory).components = .ok content := by
  obtain ⟨target, hwrites⟩ := exists_writes_of_store h
  obtain ⟨location, hleads, hfile⟩ := readFile_eq_ok_iff.1 hread
  have hleft := hleads.mono fun _ => hwrites.directory
  have hapart := target_ne hartifact hother hne hleft hwrites.leads
  exact readFile_eq_ok_iff.2 ⟨location, hleft, hwrites.find?_of_some hapart hfile⟩

/-- Artifacts are stored one after the other under an output directory, each with success. -/
inductive StoresEach (outputDirectory : Path) : Storage → List Artifact → Storage → Prop
  | nil (storage : Storage) : StoresEach outputDirectory storage [] storage
  | cons {storage next left : Storage} {artifact : Artifact} {rest : List Artifact}
      {notices : List Notice} {path : Path}
      (first : storage.store artifact outputDirectory = (next, ⟨notices, .ok path⟩))
      (others : StoresEach outputDirectory next rest left) :
      StoresEach outputDirectory storage (artifact :: rest) left

theorem readFile_of_storesEach (hartifact : artifact.PlacedByNames)
    (hplaced : ∀ other ∈ artifacts, other.PlacedByNames)
    (hne : ∀ other ∈ artifacts, ¬ other.SameModule artifact)
    (h : StoresEach outputDirectory storage artifacts left)
    (hread : storage.readFile (artifact.pathUnder outputDirectory).components = .ok content) :
    left.readFile (artifact.pathUnder outputDirectory).components = .ok content := by
  induction h with
  | nil => exact hread
  | cons first others ih =>
      rw [List.forall_mem_cons] at hplaced hne
      exact ih hplaced.2 hne.2 (readFile_of_store hartifact hplaced.1 hne.1 first hread)

/-- Each path that was stored holds the last artifact with its names. -/
theorem exists_isLastOf_of_storesEach (hplaced : ∀ other ∈ artifacts, other.PlacedByNames)
    (h : StoresEach outputDirectory storage artifacts left) (hmem : artifact ∈ artifacts) :
    ∃ last, Artifact.IsLastOf artifacts artifact last ∧
      left.readFile (artifact.pathUnder outputDirectory).components = .ok last.source := by
  induction h generalizing artifact with
  | nil => cases hmem
  | @cons storage next left own rest notices path first others ih =>
      rw [List.forall_mem_cons] at hplaced
      by_cases hlater : ∃ later ∈ rest, later.SameModule artifact
      · obtain ⟨later, hrest, hsame⟩ := hlater
        obtain ⟨last, ⟨hlast, before, after, rfl, hafter⟩, hread⟩ := ih hplaced.2 hrest
        refine ⟨last, ⟨hlast.trans hsame, own :: before, after, rfl, ?_⟩, ?_⟩
        · intro next hnext hnextSame
          exact hafter next hnext (hnextSame.trans hsame.symm)
        · rw [← hsame.pathUnder_eq]
          exact hread
      · have hown : own = artifact := by
          rcases List.mem_cons.1 hmem with heq | hrest
          · exact heq.symm
          · exact absurd ⟨artifact, hrest, rfl, rfl⟩ hlater
        subst hown
        have hnone : ∀ later ∈ rest, ¬ later.SameModule own := fun later hrest hsame =>
          hlater ⟨later, hrest, hsame⟩
        obtain ⟨target, hwrites⟩ := exists_writes_of_store first
        exact ⟨own, ⟨⟨rfl, rfl⟩, [], rest, rfl, hnone⟩,
          readFile_of_storesEach hplaced.1 hplaced.2 hnone others hwrites.readFile⟩

/-- Storing an artifact whose names settings accept touches one file or none, and after any number of
them each path holds the last one with its names. -/
theorem store_touches_one_file
    (haccepted : ∀ artifact ∈ artifacts, Settings.Accepts artifact.package artifact.module)
    (storage : Storage) (outputDirectory : Path) :
    (∀ artifact ∈ artifacts, storage.StoresOneFile artifact outputDirectory) ∧
      ∀ left, StoresEach outputDirectory storage artifacts left →
        ∀ artifact ∈ artifacts, ∃ last, Artifact.IsLastOf artifacts artifact last ∧
          left.readFile (artifact.pathUnder outputDirectory).components = .ok last.source := by
  refine ⟨fun artifact _ => storage.storesOneFile artifact outputDirectory, ?_⟩
  intro left heach artifact hmem
  refine exists_isLastOf_of_storesEach (fun other hother => ?_) heach hmem
  obtain ⟨hpackage, hmodule⟩ := (haccepted other hother).names
  exact Artifact.placedByNames_of_names hpackage hmodule

/-! ## A module that is stored again

The output directory is reached by a step back from a directory that has to be made. -/

namespace StoredAgain

def buildDirectory : Path := { root := .here, components := ["out", "..", "build"] }

def occupied : Storage where
  entries :=
    [(["build"], .directory), (["build", "größe.py"], .file "old"), (["notes"], .file "kept")]

def stored : List Artifact :=
  [{ Artifact.screensModule with source := "first" }, Artifact.sizeModule,
    { Artifact.screensModule with source := "second" }]

def written : Storage where
  entries :=
    [(["build", "größe", "screens", "match.py"], .file "second"),
      (["build", "größe.py"], .file ""),
      (["build", "größe", "screens"], .directory),
      (["build", "größe"], .directory),
      (["out"], .directory),
      (["build"], .directory),
      (["notes"], .file "kept")]

theorem storesEach_stored : StoresEach buildDirectory occupied stored written :=
  .cons rfl (.cons rfl (.cons rfl (.nil _)))

theorem touches_one_file_stored :
    (∀ artifact ∈ stored, Settings.Accepts artifact.package artifact.module) ∧
      StoresEach buildDirectory occupied stored written ∧
      (∀ artifact ∈ stored, occupied.StoresOneFile artifact buildDirectory) ∧
      ∀ artifact ∈ stored, ∃ last, Artifact.IsLastOf stored artifact last ∧
        written.readFile (artifact.pathUnder buildDirectory).components = .ok last.source := by
  have haccepted : ∀ artifact ∈ stored,
      Settings.Accepts artifact.package artifact.module := by
    simp only [stored, List.forall_mem_cons]
    exact ⟨Artifact.accepts_screensModule, Artifact.accepts_sizeModule,
      Artifact.accepts_screensModule, nofun⟩
  obtain ⟨hone, hlast⟩ := store_touches_one_file haccepted occupied buildDirectory
  exact ⟨haccepted, storesEach_stored, hone, hlast written storesEach_stored⟩

end StoredAgain

end Storage

end OwnerBinding
