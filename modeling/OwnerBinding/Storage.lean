import OwnerBinding.Generation

/-!
# Storage of artifacts

A storage is a tree of directories and files, kept as the list of what is found at each location
below the root. A location is a list of names; a path reaches a location step by step, and `..` goes
one step back from a directory that exists. The current place is the root, so it makes no difference
whether a path begins there. Limits on names are not part of a storage.

Storing an artifact first makes the directories above it that are missing and then replaces the
file. Each way in which this fails is found before any file is touched.
-/

namespace OwnerBinding

inductive StorageEntry where
  | directory
  | file (content : String)
  deriving DecidableEq, Repr

inductive StorageFault where
  /-- A step of the path is not there. -/
  | notFound
  | exists
  /-- A step of the path goes below a file. -/
  | notADirectory
  /-- A file was asked for where a directory is. -/
  | isADirectory
  deriving DecidableEq, Repr

/-- A tree of directories and files below a root directory. -/
structure Storage where
  entries : List (List String × StorageEntry)
  deriving DecidableEq, Repr

namespace Storage

def empty : Storage := { entries := [] }

/-- What is found at a location. The root is always a directory. -/
def find? (storage : Storage) (location : List String) : Option StorageEntry :=
  if location = [] then some .directory else storage.entries.lookup location

/-- Replaces what is found at a location. -/
def put (storage : Storage) (location : List String) (entry : StorageEntry) : Storage where
  entries := (location, entry) :: storage.entries.filter (·.1 ≠ location)

theorem lookup_filter_of_ne (entries : List (List String × StorageEntry))
    {location other : List String} (h : other ≠ location) :
    (entries.filter (·.1 ≠ location)).lookup other = entries.lookup other := by
  induction entries with
  | nil => rfl
  | cons head rest ih =>
      obtain ⟨own, entry⟩ := head
      by_cases hk : own = location
      · have hb : (other == own) = false := by simpa [hk] using h
        rw [List.filter_cons_of_neg (by simp [hk]), ih]
        simp [List.lookup_cons, hb]
      · rw [List.filter_cons_of_pos (by simp [hk])]
        simp only [List.lookup_cons, ih]

/-- Replacing what is found at one location changes no other. -/
theorem find?_put (storage : Storage) (location other : List String) (entry : StorageEntry)
    (h : location ≠ []) :
    (storage.put location entry).find? other =
      if other = location then some entry else storage.find? other := by
  by_cases ho : other = location
  · subst ho
    simp [find?, put, h]
  · by_cases hr : other = []
    · simp [find?, hr, Ne.symm h]
    · have hb : (other == location) = false := by simpa using ho
      simp only [find?, hr, ↓reduceIte, put, List.lookup_cons, hb, ho, lookup_filter_of_ne _ ho]

/-- The directory reached from a directory along the components of a path. -/
def directoryAt (storage : Storage) : (place : List String) → (components : List String) →
    Except StorageFault (List String)
  | place, [] => .ok place
  | place, component :: rest =>
      if component = ".." then storage.directoryAt place.dropLast rest
      else
        match storage.find? (place ++ [component]) with
        | none => .error .notFound
        | some (.file _) => .error .notADirectory
        | some .directory => storage.directoryAt (place ++ [component]) rest

/-- Makes the directory that a path ends in, given the components of the path before its last. What
is there already is not replaced. -/
def makeDirectory (storage : Storage) (parent : List String) (last : String) :
    Except StorageFault Storage := do
  let place ← storage.directoryAt [] parent
  if last = ".." then .error .exists
  else
    match storage.find? (place ++ [last]) with
    | some _ => .error .exists
    | none => .ok (storage.put (place ++ [last]) .directory)

def isDirectory (storage : Storage) (components : List String) : Bool :=
  match storage.directoryAt [] components with
  | .ok _ => true
  | .error _ => false

/-- A fault that does not matter where the path ends in a directory after all. -/
def tolerate (storage : Storage) (components : List String) (fault : StorageFault) :
    Storage × Except StorageFault Unit :=
  if storage.isDirectory components then (storage, .ok ()) else (storage, .error fault)

/-- Makes the directory of a path and those above it that are missing, given the components from the
last to the first. -/
def makeDirectoriesReversed (storage : Storage) :
    List String → Storage × Except StorageFault Unit
  | [] => (storage, .ok ())
  | last :: above =>
      let components := (last :: above).reverse
      match storage.makeDirectory above.reverse last with
      | .ok made => (made, .ok ())
      | .error .notFound =>
          match storage.makeDirectoriesReversed above with
          | (made, .error fault) => (made, .error fault)
          | (made, .ok ()) =>
              match made.makeDirectory above.reverse last with
              | .ok all => (all, .ok ())
              | .error .notFound => (made, .error .notFound)
              | .error fault => made.tolerate components fault
      | .error fault => storage.tolerate components fault

/-- Makes the directory of a path and those above it that are missing. -/
def makeDirectories (storage : Storage) (components : List String) :
    Storage × Except StorageFault Unit :=
  storage.makeDirectoriesReversed components.reverse

/-- Writes the file that a path ends in, in a directory that exists. -/
def writeFile (storage : Storage) (components : List String) (content : String) :
    Except StorageFault Storage := do
  match components.getLast? with
  | none => .error .isADirectory
  | some last =>
      let place ← storage.directoryAt [] components.dropLast
      if last = ".." then .error .isADirectory
      else
        match storage.find? (place ++ [last]) with
        | some .directory => .error .isADirectory
        | _ => .ok (storage.put (place ++ [last]) (.file content))

/-- The content of the file that a path ends in. -/
def readFile (storage : Storage) (components : List String) : Except StorageFault String := do
  match components.getLast? with
  | none => .error .isADirectory
  | some last =>
      let place ← storage.directoryAt [] components.dropLast
      if last = ".." then .error .isADirectory
      else
        match storage.find? (place ++ [last]) with
        | some (.file content) => .ok content
        | some .directory => .error .isADirectory
        | none => .error .notFound

/-- Writes the file that a path ends in, and makes the directories above it that are missing. -/
def writeBelow (storage : Storage) (path : Path) (content : String) :
    Storage × Except StorageFault Unit :=
  match storage.makeDirectories path.components.dropLast with
  | (made, .error fault) => (made, .error fault)
  | (made, .ok ()) =>
      match made.writeFile path.components content with
      | .ok written => (written, .ok ())
      | .error fault => (made, .error fault)

/-- Stores an artifact under an output directory. The path is reported and given back. -/
def store (storage : Storage) (artifact : Artifact) (outputDirectory : Path) :
    Storage × Reported Notice StorageFault Path :=
  let path := artifact.pathUnder outputDirectory
  match storage.writeBelow path artifact.source with
  | (left, .error fault) => (left, .fail fault)
  | (left, .ok ()) => (left, do
      .report (.stored artifact.dottedName path.toString)
      return path)

inductive StoringFailure where
  | run (failure : Failure)
  | storage (fault : StorageFault)
  deriving DecidableEq, Repr

/-- What a run does, done to a storage. A fault in storing ends it. -/
def perform (storage : Storage) :
    List RunEvent → Storage × Reported Notice StorageFault Unit
  | [] => (storage, pure ())
  | .noticed notice :: rest =>
      let (left, performed) := storage.perform rest
      (left, ⟨notice :: performed.reports, performed.result⟩)
  | .delivered artifact outputDirectory :: rest =>
      match storage.store artifact outputDirectory with
      | (stored, ⟨notices, .ok _⟩) =>
          let (left, performed) := stored.perform rest
          (left, ⟨notices ++ performed.reports, performed.result⟩)
      | (stored, ⟨notices, .error fault⟩) => (stored, ⟨notices, .error fault⟩)

/-- A whole run that stores its artifact. -/
def generate (storage : Storage) (settings : Settings) (graph : DeclarationGraph) :
    Storage × Reported Notice StoringFailure (Option Artifact) :=
  let run := Generation.run settings graph
  match storage.perform run.reports with
  | (left, ⟨notices, .ok ()⟩) => (left, ⟨notices, run.result.mapError .run⟩)
  | (left, ⟨notices, .error fault⟩) => (left, ⟨notices, .error (.storage fault)⟩)

/-- The directories below the root, by the texts of their paths in order. -/
def directories (storage : Storage) : List String :=
  (storage.entries.filterMap fun entry =>
    match entry.2 with
    | .directory => some ("/".intercalate entry.1)
    | .file _ => none).mergeSort (· ≤ ·)

/-- The files below the root with their contents, in the order of the texts of their paths. -/
def files (storage : Storage) : List (String × String) :=
  (storage.entries.filterMap fun entry =>
    match entry.2 with
    | .directory => none
    | .file content => some ("/".intercalate entry.1, content)).mergeSort (·.1 ≤ ·.1)

end Storage

end OwnerBinding
