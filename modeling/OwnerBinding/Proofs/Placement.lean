import OwnerBinding.Proofs.Generation
import OwnerBinding.Proofs.Settings
import OwnerBinding.Proofs.Storage
import OwnerBinding.Proofs.Text.Package

/-!
# Where a factory module is placed

The names that settings accept become components of a path: one directory for each identifier of the
package, and a file for the module. No such component means nothing, goes one step back or is cut in
two (`Path.IsPlain`), so a path that is read from them has exactly these components, and under any
output directory it leads below this directory. The names are got back from the path, and so no two
modules are placed at one path or imported by one name.
-/

namespace OwnerBinding

namespace Path

/-- A component that is a name, and is kept as it is when a path is read. -/
structure IsPlain (component : String) : Prop where
  ne_empty : component ≠ ""
  ne_current : component ≠ "."
  ne_parent : component ≠ ".."
  slash_notMem : '/' ∉ component.toList

theorem rootOf_of_slash_notMem {text : List Char} (h : '/' ∉ text) : rootOf text = .here := by
  cases text with
  | nil => rfl
  | cons first rest =>
      have hfirst : first ≠ '/' := by
        rintro rfl
        exact h List.mem_cons_self
      simp [rootOf, hfirst]

theorem ofString_of_isPlain {component : String} (h : IsPlain component) :
    ofString component = { root := .here, components := [component] } := by
  have hmeaningful : isMeaningful component = true := by
    simp [isMeaningful, h.ne_empty, h.ne_current]
  rw [ofString, rootOf_of_slash_notMem h.slash_notMem, List.splitOn_eq_singleton h.slash_notMem]
  simp [hmeaningful]

theorem foldl_join_of_isPlain (path : Path) {segments : List String}
    (h : ∀ segment ∈ segments, IsPlain segment) :
    segments.foldl (fun path segment => path.join (ofString segment)) path =
      { path with components := path.components ++ segments } := by
  induction segments generalizing path with
  | nil => simp
  | cons segment rest ih =>
      rw [List.forall_mem_cons] at h
      rw [List.foldl_cons, ofString_of_isPlain h.1, ih _ h.2]
      simp [join]

theorem ofSegments_of_isPlain {segments : List String}
    (h : ∀ segment ∈ segments, IsPlain segment) :
    ofSegments segments = { root := .here, components := segments } :=
  foldl_join_of_isPlain current h

theorem isPlain_of_isIdentifier {name : String} (h : Text.isIdentifier name = true) :
    IsPlain name where
  ne_empty := Text.ne_empty_of_isIdentifier h
  ne_current := by
    rintro rfl
    exact Text.dot_notMem_of_isIdentifier h (by decide)
  ne_parent := by
    rintro rfl
    exact Text.dot_notMem_of_isIdentifier h (by decide)
  slash_notMem := Text.slash_notMem_of_isIdentifier h

end Path

/-- The names that settings can have for the package and the module, from some sources. -/
def Settings.Accepts (package module : String) : Prop :=
  ∃ sources settings, Settings.ofSources sources = .ok settings ∧
    settings.factoryPackage = package ∧ settings.factoryModule = module

/-- The artifact of any run has names that settings accept. -/
theorem Settings.accepts_of_run {sources : SettingSources} {settings : Settings}
    {graph : DeclarationGraph} {artifact : Artifact} (hsettings : ofSources sources = .ok settings)
    (hrun : (Generation.run settings graph).result = .ok (some artifact)) :
    Accepts artifact.package artifact.module := by
  obtain ⟨found, outputDirectory, hplan, rfl⟩ :=
    (Generation.result_run_eq_ok_some_iff artifact).1 hrun
  obtain ⟨_, _, _, rfl⟩ := (Generation.result_plan_eq_ok_some_iff _ _).1 hplan
  exact ⟨sources, settings, hsettings, rfl, rfl⟩

theorem Settings.Accepts.names {package module : String} (h : Settings.Accepts package module) :
    Text.isPackageName package = true ∧ Text.isIdentifier module = true := by
  obtain ⟨sources, settings, hsettings, rfl, rfl⟩ := h
  exact ⟨Settings.isPackageName_factoryPackage hsettings,
    Settings.isIdentifier_factoryModule hsettings⟩

namespace Artifact

/-- The components of a package, each of which is a directory. -/
def directories (package : String) : List String :=
  if package.isEmpty then [] else Text.components package

variable {artifact first second : Artifact}

theorem intercalate_directories (package : String) :
    ".".intercalate (directories package) = package := by
  rw [directories]
  split
  · next h => rw [String.isEmpty_iff.1 h]; rfl
  · exact Text.intercalate_components package

/-- A package is known by its directories, whatever stands in them. -/
theorem eq_of_directories_append_eq {package other : String} {name otherName : String}
    (h : directories package ++ [name] = directories other ++ [otherName]) :
    package = other ∧ name = otherName := by
  obtain ⟨hdirectories, hname⟩ := List.append_inj' h rfl
  constructor
  · rw [← intercalate_directories package, hdirectories, intercalate_directories]
  · simpa using hname

theorem isIdentifier_of_mem_directories {package component : String}
    (h : Text.isPackageName package = true) (hmem : component ∈ directories package) :
    Text.isIdentifier component = true := by
  rw [directories] at hmem
  split at hmem
  · cases hmem
  · next hne =>
      rw [Text.isPackageName, Bool.or_eq_true, List.all_eq_true] at h
      exact h.resolve_left hne component hmem

theorem isPlain_fileName {module : String} (h : Text.isIdentifier module = true) :
    Path.IsPlain (fileName module) := by
  have hne : ∀ text : String, text.length < 3 → fileName module ≠ text := by
    rintro _ hlength rfl
    rw [fileName, String.length_append, show ".py".length = 3 from rfl] at hlength
    omega
  refine ⟨hne _ (by decide), hne _ (by decide), hne _ (by decide), ?_⟩
  have hmodule := Text.slash_notMem_of_isIdentifier h
  simp [fileName, hmodule]

theorem isPlain_of_mem_segments {package module component : String}
    (hpackage : Text.isPackageName package = true) (hmodule : Text.isIdentifier module = true)
    (hmem : component ∈ directories package ++ [fileName module]) : Path.IsPlain component := by
  rcases List.mem_append.1 hmem with hdirectory | hfile
  · exact Path.isPlain_of_isIdentifier (isIdentifier_of_mem_directories hpackage hdirectory)
  · rw [List.mem_singleton.1 hfile]
    exact isPlain_fileName hmodule

theorem relativePath_eq_of_names (hpackage : Text.isPackageName artifact.package = true)
    (hmodule : Text.isIdentifier artifact.module = true) :
    artifact.relativePath =
      { root := .here
        components := directories artifact.package ++ [fileName artifact.module] } :=
  Path.ofSegments_of_isPlain fun _ => isPlain_of_mem_segments hpackage hmodule

theorem components_dottedName (hmodule : Text.isIdentifier artifact.module = true) :
    Text.components artifact.dottedName = directories artifact.package ++ [artifact.module] := by
  have hdot := Text.dot_notMem_of_isIdentifier hmodule
  rw [dottedName, directories]
  by_cases h : artifact.package = ""
  · simp [h, Text.components_of_dot_notMem hdot]
  · simp [h, Text.components_append artifact.package hdot]

theorem intercalate_segments (artifact : Artifact) :
    ".".intercalate (directories artifact.package ++ [fileName artifact.module]) =
      artifact.dottedName ++ ".py" := by
  by_cases h : artifact.package = ""
  · simp [dottedName, directories, fileName, h]
  · have hne : directories artifact.package ≠ [] := by
      rw [directories, if_neg (by simpa using h)]
      exact Text.components_ne_nil _
    rw [String.intercalate_append_of_ne_nil hne (List.cons_ne_nil _ _), intercalate_directories]
    simp [dottedName, fileName, h, String.append_assoc]

/-- A module is placed by its names: it has a path of its own that leads below any output
directory. -/
structure PlacedByNames (artifact : Artifact) : Prop where
  relativePath_eq : artifact.relativePath =
    { root := .here
      components := directories artifact.package ++ [fileName artifact.module] }
  plain : ∀ component ∈ artifact.relativePath.components, Path.IsPlain component
  pathUnder_eq : ∀ outputDirectory : Path, artifact.pathUnder outputDirectory =
    { outputDirectory with
      components := outputDirectory.components ++ artifact.relativePath.components }
  /-- Wherever the output directory leads to, the module is stored below this place. -/
  stored : ∀ (storage stored : Storage) (outputDirectory path : Path) (notices : List Notice),
    storage.store artifact outputDirectory = (stored, ⟨notices, .ok path⟩) →
      path = artifact.pathUnder outputDirectory ∧
        ∃ place, stored.directoryAt [] outputDirectory.components = .ok place ∧
          stored.find? (place ++ artifact.relativePath.components) = some (.file artifact.source)
  dottedName_eq : ".".intercalate artifact.relativePath.components = artifact.dottedName ++ ".py"

theorem placedByNames_of_names (hpackage : Text.isPackageName artifact.package = true)
    (hmodule : Text.isIdentifier artifact.module = true) : artifact.PlacedByNames := by
  have hpath := relativePath_eq_of_names hpackage hmodule
  have hplain : ∀ component ∈ artifact.relativePath.components, Path.IsPlain component := by
    rw [hpath]
    exact fun _ => isPlain_of_mem_segments hpackage hmodule
  have hunder : ∀ outputDirectory : Path, artifact.pathUnder outputDirectory =
      { outputDirectory with
        components := outputDirectory.components ++ artifact.relativePath.components } := by
    intro outputDirectory
    rw [pathUnder, hpath]
    rfl
  refine ⟨hpath, hplain, hunder, ?_, ?_⟩
  · intro storage stored outputDirectory path notices h
    have hup : ".." ∉ directories artifact.package := by
      intro hmem
      refine (hplain ".." ?_).ne_parent rfl
      rw [hpath]
      exact List.mem_append_left _ hmem
    have hcomponents := congrArg Path.components (hunder outputDirectory)
    simp only [hpath] at hcomponents ⊢
    exact ⟨(Storage.exists_writeFile_of_store h).1, Storage.find?_of_store h hcomponents hup⟩
  · rw [hpath]
    exact intercalate_segments artifact

/-- The artifact of a run is placed by the names in its settings. -/
theorem placedByNames_of_run {sources : SettingSources} {settings : Settings}
    {graph : DeclarationGraph} (hsettings : Settings.ofSources sources = .ok settings)
    (hrun : (Generation.run settings graph).result = .ok (some artifact)) :
    artifact.PlacedByNames := by
  obtain ⟨hpackage, hmodule⟩ := (Settings.accepts_of_run hsettings hrun).names
  exact placedByNames_of_names hpackage hmodule

theorem names_eq_of_relativePath_eq (hfirst : first.PlacedByNames) (hsecond : second.PlacedByNames)
    (h : first.relativePath = second.relativePath) :
    first.package = second.package ∧ first.module = second.module := by
  rw [hfirst.relativePath_eq, hsecond.relativePath_eq, Path.mk.injEq] at h
  obtain ⟨hpackage, hfile⟩ := eq_of_directories_append_eq h.2
  exact ⟨hpackage, by simpa [fileName] using hfile⟩

theorem names_eq_of_dottedName_eq (hfirst : Text.isIdentifier first.module = true)
    (hsecond : Text.isIdentifier second.module = true)
    (h : first.dottedName = second.dottedName) :
    first.package = second.package ∧ first.module = second.module := by
  have hcomponents := congrArg Text.components h
  rw [components_dottedName hfirst, components_dottedName hsecond] at hcomponents
  exact eq_of_directories_append_eq hcomponents

/-- Modules whose names settings accept are placed by these names, no two of them at one path or by
one name, and a text is accepted for a package if it names one. -/
theorem placedByNames_of_accepts
    (hfirst : Settings.Accepts first.package first.module)
    (hsecond : Settings.Accepts second.package second.module) :
    first.PlacedByNames ∧
      ((first.package, first.module) ≠ (second.package, second.module) →
        first.relativePath ≠ second.relativePath ∧ first.dottedName ≠ second.dottedName) ∧
      ∀ text name, Setting.readPackageName (.string text) = .ok name ↔
        name = text ∧ (text = "" ∨ ∃ parts : List String, parts ≠ [] ∧
          (∀ part ∈ parts, Text.isIdentifier part = true) ∧ text = ".".intercalate parts) := by
  obtain ⟨hpackage, hmodule⟩ := hfirst.names
  obtain ⟨hpackage', hmodule'⟩ := hsecond.names
  have hplaced := placedByNames_of_names hpackage hmodule
  have hplaced' := placedByNames_of_names hpackage' hmodule'
  refine ⟨hplaced, ?_, ?_⟩
  · intro hne
    constructor
    · intro hpath
      exact hne (Prod.ext_iff.2 (names_eq_of_relativePath_eq hplaced hplaced' hpath))
    · intro hname
      exact hne (Prod.ext_iff.2 (names_eq_of_dottedName_eq hmodule hmodule' hname))
  · intro text name
    rw [Setting.readPackageName_eq_ok_iff, ← Text.isPackageName_iff, Json.string.injEq]
    constructor
    · rintro ⟨rfl, hname⟩
      exact ⟨rfl, hname⟩
    · rintro ⟨rfl, hname⟩
      exact ⟨rfl, hname⟩

/-! ## A module in a package, and one called like the package -/

def screensModule : Artifact where
  package := "größe.screens"
  module := "match"
  source := ""
  fragmentBranches := 0
  activityBranches := 0

def sizeModule : Artifact where
  package := ""
  module := "größe"
  source := ""
  fragmentBranches := 0
  activityBranches := 0

def screensSources : SettingSources where
  options := []
  overrides :=
    [("factory_package", .string "größe.screens"), ("factory_module", .string "match")]
  environment := []

def sizeSources : SettingSources where
  options := []
  overrides := [("factory_module", .string "größe")]
  environment := [("BINDWIRE_FACTORY_PACKAGE", ""), ("BINDWIRE_FACTORY_MODULE", "no name")]

theorem accepts_screensModule : Settings.Accepts screensModule.package screensModule.module :=
  ⟨screensSources, { Settings.default with
    factoryPackage := "größe.screens"
    factoryModule := "match" }, rfl, rfl, rfl⟩

theorem accepts_sizeModule : Settings.Accepts sizeModule.package sizeModule.module :=
  ⟨sizeSources, { Settings.default with
    factoryPackage := ""
    factoryModule := "größe" }, rfl, rfl, rfl⟩

theorem placedByNames_screensModule :
    Settings.Accepts screensModule.package screensModule.module ∧
      Settings.Accepts sizeModule.package sizeModule.module ∧
      screensModule.PlacedByNames ∧
      screensModule.relativePath ≠ sizeModule.relativePath ∧
      screensModule.dottedName ≠ sizeModule.dottedName := by
  obtain ⟨hplaced, happart, _⟩ :=
    placedByNames_of_accepts accepts_screensModule accepts_sizeModule
  exact ⟨accepts_screensModule, accepts_sizeModule, hplaced, happart (by decide)⟩

end Artifact

end OwnerBinding
