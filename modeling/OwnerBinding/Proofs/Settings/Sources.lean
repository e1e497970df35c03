import Mathlib.Logic.ExistsUnique
import OwnerBinding.Proofs.Settings
import OwnerBinding.Proofs.Text.Package

/-!
# Settings by their sources

`SettingSources.Wins` says which source wins for a setting, by what the sources have and not by how
they are searched, and `Setting.Means` says which values a setting can be given and what they stand
for. With these two, `settledBySource` says what comes of any sources: settings if what wins is valid
for each of them, and else one fault for each setting for which it is not. Each setting follows from
what wins for it alone.
-/

namespace OwnerBinding

namespace Setting

/-- The values that a setting has. -/
def Value : Setting → Type
  | .outputDirectory => Option Path
  | .factoryPackage => String
  | .factoryModule => String
  | .factoryName => String
  | .bindingContract => String
  | .allowOwnerOverrides => Bool

/-- The settings in the order in which their faults are told. -/
def all : List Setting :=
  [.outputDirectory, .factoryPackage, .factoryModule, .factoryName, .bindingContract,
    .allowOwnerOverrides]

theorem mem_all (s : Setting) : s ∈ all := by
  cases s <;> decide

end Setting

def Settings.get (settings : Settings) : (s : Setting) → s.Value
  | .outputDirectory => settings.outputDirectory
  | .factoryPackage => settings.factoryPackage
  | .factoryModule => settings.factoryModule
  | .factoryName => settings.factoryName
  | .bindingContract => settings.bindingContract
  | .allowOwnerOverrides => settings.allowOwnerOverrides

namespace Setting

/-! ## What a value stands for -/

inductive IsPath : Json → Option Path → Prop where
  | null : IsPath .null none
  | text (text : String) : IsPath (.string text) (some (Path.ofString text))

/-- The words for a truth value. -/
def words : Bool → List String
  | true => trueWords
  | false => falseWords

inductive IsTruth : Json → Bool → Prop where
  | bool (value : Bool) : IsTruth (.bool value) value
  | word {text : String} {value : Bool}
      (h : String.ofList (text.toList.map Char.toLower) ∈ words value) :
      IsTruth (.string text) value
  | number {number : Json.Number} {value : Bool} (h : number.toInt? = some value.toNat) :
      IsTruth (.number number) value

/-- Which values can be given to a setting, and what they stand for. -/
def Means : (s : Setting) → Json → s.Value → Prop
  | .outputDirectory, given, path => IsPath given path
  | .factoryPackage, given, (name : String) => given = .string name ∧
      (name = "" ∨ ∃ parts : List String, parts ≠ [] ∧
        (∀ part ∈ parts, Text.isIdentifier part = true) ∧ name = ".".intercalate parts)
  | .factoryModule, given, (name : String) => given = .string name ∧ Text.isIdentifier name = true
  | .factoryName, given, (name : String) => given = .string name ∧ Text.isIdentifier name = true
  | .bindingContract, given, (name : String) => given = .string name
  | .allowOwnerOverrides, given, value => IsTruth given value

/-- The reader of a setting. -/
def read : (s : Setting) → Json → Except SettingFault s.Value
  | .outputDirectory => readPath
  | .factoryPackage => readPackageName
  | .factoryModule => readIdentifier
  | .factoryName => readIdentifier
  | .bindingContract => readString
  | .allowOwnerOverrides => readBool

theorem readPath_eq_ok_iff (given : Json) (path : Option Path) :
    readPath given = .ok path ↔ IsPath given path := by
  constructor
  · intro h
    cases given with
    | null =>
        cases h
        exact .null
    | string text =>
        cases h
        exact .text text
    | _ => cases h
  · rintro (_ | text) <;> rfl

theorem readString_eq_ok_iff (given : Json) (text : String) :
    readString given = .ok text ↔ given = .string text := by
  cases given <;> simp [readString]

theorem notMem_trueWords_of_mem_falseWords : ∀ word ∈ falseWords, word ∉ trueWords := by decide

theorem readBool_eq_ok_iff (given : Json) (value : Bool) :
    readBool given = .ok value ↔ IsTruth given value := by
  constructor
  · intro h
    cases given with
    | bool own =>
        cases h
        exact .bool _
    | string text =>
        simp only [readBool] at h
        split at h
        · next htrue =>
            cases h
            exact .word (by simpa [words] using htrue)
        · split at h
          · next hfalse =>
              cases h
              exact .word (by simpa [words] using hfalse)
          · cases h
    | number own =>
        simp only [readBool] at h
        split at h
        · next hone =>
            cases h
            exact .number hone
        · next hzero =>
            cases h
            exact .number hzero
        · cases h
        · cases h
    | _ => cases h
  · rintro (_ | hword | hnumber)
    · rfl
    · cases value with
      | true =>
          rw [words] at hword
          simp [readBool, hword]
      | false =>
          rw [words] at hword
          have hnot := notMem_trueWords_of_mem_falseWords _ hword
          simp [readBool, hword, hnot]
    · cases value <;> simp [readBool, hnumber]

/-- A reader gives what the value stands for, and refuses the value if it stands for nothing. -/
theorem read_eq_ok_iff (s : Setting) (given : Json) (value : s.Value) :
    s.read given = .ok value ↔ s.Means given value := by
  cases s with
  | outputDirectory => exact readPath_eq_ok_iff given value
  | factoryPackage =>
      exact (readPackageName_eq_ok_iff given value).trans
        (and_congr_right fun _ => Text.isPackageName_iff value)
  | factoryModule => exact readIdentifier_eq_ok_iff given value
  | factoryName => exact readIdentifier_eq_ok_iff given value
  | bindingContract => exact readString_eq_ok_iff given value
  | allowOwnerOverrides => exact readBool_eq_ok_iff given value

end Setting

/-! ## Which source wins -/

namespace SettingSources

variable {sources other : SettingSources} {s : Setting} {given : Option Json}

/-- The build option gives the output directory, if it is there and not null. -/
def ByOption (sources : SettingSources) (s : Setting) (value : Json) : Prop :=
  s = .outputDirectory ∧ Json.member? outputOption sources.options = some value ∧ value ≠ .null

/-- An override gives its value, null or not. -/
def ByOverride (sources : SettingSources) (s : Setting) (value : Json) : Prop :=
  Json.member? s.key sources.overrides = some value

/-- The environment gives the text of the last variable that has the name of the setting in any case,
empty or not. -/
def ByEnvironment (sources : SettingSources) (s : Setting) (value : Json) : Prop :=
  ∃ before entry after, sources.environment = before ++ entry :: after ∧
    isNamed (environmentStem ++ s.key) entry = true ∧
    (∀ later ∈ after, isNamed (environmentStem ++ s.key) later = false) ∧ value = .string entry.2

/-- What the winning source gives to a setting, or nothing if none gives it anything. -/
inductive Wins (sources : SettingSources) (s : Setting) : Option Json → Prop where
  | option {value : Json} (h : sources.ByOption s value) : Wins sources s (some value)
  | override {value : Json} (hoption : ∀ value, ¬ sources.ByOption s value)
      (h : sources.ByOverride s value) : Wins sources s (some value)
  | environment {value : Json} (hoption : ∀ value, ¬ sources.ByOption s value)
      (hoverride : ∀ value, ¬ sources.ByOverride s value) (h : sources.ByEnvironment s value) :
      Wins sources s (some value)
  | default (hoption : ∀ value, ¬ sources.ByOption s value)
      (hoverride : ∀ value, ¬ sources.ByOverride s value)
      (henvironment : ∀ value, ¬ sources.ByEnvironment s value) : Wins sources s none

theorem option?_eq_some_iff {value : Json} :
    sources.option? s = some value ↔ sources.ByOption s value := by
  cases s with
  | outputDirectory =>
      rw [option?, ByOption]
      split
      · next hnull =>
          rw [hnull]
          simp only [reduceCtorEq, false_iff, Option.some.injEq, true_and]
          rintro ⟨rfl, hne⟩
          exact hne rfl
      · next hnotNull =>
          rw [eq_self, true_and]
          exact ⟨fun h => ⟨h, fun hnull => hnotNull (by rw [h, hnull])⟩, And.left⟩
  | _ => simp [option?, ByOption]

theorem environmentValue?_eq_some_iff {value : Json} :
    (sources.environmentValue? (environmentStem ++ s.key)).map Json.string = some value ↔
      sources.ByEnvironment s value := by
  rw [environmentValue?, Option.map_map, Option.map_eq_some_iff, ByEnvironment]
  constructor
  · rintro ⟨entry, hfound, rfl⟩
    obtain ⟨hnamed, after, before, henvironment, hafter⟩ :=
      List.find?_eq_some_iff_append.1 hfound
    rw [List.reverse_eq_iff, List.reverse_append, List.reverse_cons, List.append_assoc,
      List.singleton_append] at henvironment
    refine ⟨before.reverse, entry, after.reverse, henvironment, hnamed, fun later hlater => ?_, rfl⟩
    simpa using hafter later (List.mem_reverse.1 hlater)
  · rintro ⟨before, entry, after, henvironment, hnamed, hafter, rfl⟩
    refine ⟨entry, List.find?_eq_some_iff_append.2
      ⟨hnamed, after.reverse, before.reverse, ?_, ?_⟩, rfl⟩
    · simp [henvironment]
    · simpa using hafter

/-- A search that finds what a source gives finds nothing if the source gives nothing. -/
theorem eq_none_iff_of_eq_some_iff {α : Type} {found : Option α} {P : α → Prop}
    (h : ∀ value, found = some value ↔ P value) : found = none ↔ ∀ value, ¬ P value := by
  simp only [Option.eq_none_iff_forall_ne_some, ne_eq, h]

/-- The search through the sources finds what wins. -/
theorem wins_iff : sources.Wins s given ↔ sources.winner? s = given := by
  have hsearch : sources.winner? s = (sources.option? s).or
      ((Json.member? s.key sources.overrides).or
        ((sources.environmentValue? (environmentStem ++ s.key)).map .string)) := by
    rw [winner?]
    cases sources.option? s <;> cases Json.member? s.key sources.overrides <;> rfl
  have hoption : sources.option? s = none ↔ ∀ value, ¬ sources.ByOption s value :=
    eq_none_iff_of_eq_some_iff fun _ => option?_eq_some_iff
  have hoverride : Json.member? s.key sources.overrides = none ↔
      ∀ value, ¬ sources.ByOverride s value :=
    eq_none_iff_of_eq_some_iff fun _ => Iff.rfl
  have henvironment : (sources.environmentValue? (environmentStem ++ s.key)).map Json.string = none ↔
      ∀ value, ¬ sources.ByEnvironment s value :=
    eq_none_iff_of_eq_some_iff fun _ => environmentValue?_eq_some_iff
  rw [hsearch]
  constructor
  · rintro (hgiven | ⟨hno, hgiven⟩ | ⟨hno, hnot, hgiven⟩ | ⟨hno, hnot, hnever⟩)
    · rw [option?_eq_some_iff.2 hgiven, Option.some_or]
    · rw [hoption.2 hno, Option.none_or, Option.or_eq_some_iff]
      exact .inl hgiven
    · rw [hoption.2 hno, hoverride.2 hnot, Option.none_or, Option.none_or]
      exact environmentValue?_eq_some_iff.2 hgiven
    · rw [hoption.2 hno, hoverride.2 hnot, Option.none_or, Option.none_or]
      exact henvironment.2 hnever
  · rintro hfound
    cases given with
    | none =>
        rw [Option.or_eq_none_iff, Option.or_eq_none_iff] at hfound
        obtain ⟨hno, hnot, hnever⟩ := hfound
        exact .default (hoption.1 hno) (hoverride.1 hnot) (henvironment.1 hnever)
    | some value =>
        rw [Option.or_eq_some_iff, Option.or_eq_some_iff] at hfound
        rcases hfound with hgiven | ⟨hno, hgiven | ⟨hnot, hgiven⟩⟩
        · exact .option (option?_eq_some_iff.1 hgiven)
        · exact .override (hoption.1 hno) hgiven
        · exact .environment (hoption.1 hno) (hoverride.1 hnot)
            (environmentValue?_eq_some_iff.1 hgiven)

/-! ## What comes of the sources -/

/-- What wins for a setting is valid for it. A default always is. -/
def IsValid (sources : SettingSources) (s : Setting) : Prop :=
  ∀ given, sources.Wins s (some given) → ∃ value, s.Means given value

/-- The value that the winning source gives to a setting. -/
def Determines (sources : SettingSources) (s : Setting) (value : s.Value) : Prop :=
  (sources.Wins s none ∧ Settings.default.get s = value) ∨
    ∃ given, sources.Wins s (some given) ∧ s.Means given value

end SettingSources

namespace Settings

variable {sources other : SettingSources}

/-- One setting, by its own reader and default. -/
def readOne (sources : SettingSources) (s : Setting) : Checked SettingError s.Value :=
  readSetting sources s s.read (default.get s)

theorem readOne_eq_ok_iff {s : Setting} {value : s.Value} :
    readOne sources s = .ok value ↔ sources.Determines s value := by
  rw [readOne, readSetting_eq_ok_iff, SettingSources.Determines]
  simp only [SettingSources.wins_iff, Setting.read_eq_ok_iff]

theorem readOne_of_error {s : Setting} {given : Json} {fault : SettingFault}
    (hwinner : sources.winner? s = some given) (hread : s.read given = .error fault) :
    readOne sources s = .error [{ setting := s, fault }] := by
  rw [readOne, readSetting, hwinner]
  dsimp only
  rw [hread]
  rfl

theorem readOne_cases (sources : SettingSources) (s : Setting) :
    (∃ value, readOne sources s = .ok value) ∨
      ∃ given fault, sources.winner? s = some given ∧ s.read given = .error fault ∧
        readOne sources s = .error [{ setting := s, fault }] := by
  cases hwinner : sources.winner? s with
  | none => exact .inl ⟨_, readOne_eq_ok_iff.2 (.inl ⟨SettingSources.wins_iff.2 hwinner, rfl⟩)⟩
  | some given =>
      have hwins := SettingSources.wins_iff.2 hwinner
      cases hread : s.read given with
      | ok value =>
          have hmeans := (s.read_eq_ok_iff given value).1 hread
          exact .inl ⟨value, readOne_eq_ok_iff.2 (.inr ⟨given, hwins, hmeans⟩)⟩
      | error fault => exact .inr ⟨given, fault, rfl, hread, readOne_of_error hwinner hread⟩

theorem mem_faults_readOne_iff {s : Setting} {error : SettingError} :
    error ∈ (readOne sources s).faults ↔ error.setting = s ∧
      ∃ given, sources.Wins s (some given) ∧ s.read given = .error error.fault := by
  constructor
  · intro herror
    rcases readOne_cases sources s with ⟨value, hvalue⟩ | ⟨given, fault, hwinner, hread, hone⟩
    · rw [hvalue] at herror
      cases herror
    · rw [hone] at herror
      rw [List.mem_singleton.1 herror]
      exact ⟨rfl, given, SettingSources.wins_iff.2 hwinner, hread⟩
  · rintro ⟨rfl, given, hwins, hread⟩
    rw [readOne_of_error (SettingSources.wins_iff.1 hwins) hread]
    exact List.mem_singleton.2 rfl

theorem exists_readOne_eq_ok_iff {s : Setting} :
    (∃ value, readOne sources s = .ok value) ↔ sources.IsValid s := by
  simp only [readOne_eq_ok_iff, SettingSources.Determines, SettingSources.IsValid,
    SettingSources.wins_iff]
  cases sources.winner? s <;> simp

theorem ofSources_eq_ok_iff_forall {settings : Settings} :
    ofSources sources = .ok settings ↔ ∀ s, readOne sources s = .ok (settings.get s) := by
  rw [ofSources_eq_ok_iff]
  constructor
  · rintro ⟨houtput, hpackage, hmodule, hname, hcontract, hoverrides⟩ s
    cases s <;> assumption
  · intro h
    exact ⟨h .outputDirectory, h .factoryPackage, h .factoryModule, h .factoryName,
      h .bindingContract, h .allowOwnerOverrides⟩

theorem faults_ofSources :
    (ofSources sources).faults = Setting.all.flatMap fun s => (readOne sources s).faults := by
  simp only [ofSources, Checked.faults_map, Checked.faults_both, Setting.all, List.flatMap_cons,
    List.flatMap_nil, List.append_nil]
  rfl

theorem exists_ofSources_eq_ok_iff :
    (∃ settings, ofSources sources = .ok settings) ↔ ∀ s, sources.IsValid s := by
  simp only [ofSources_eq_ok_iff_forall, ← exists_readOne_eq_ok_iff]
  constructor
  · rintro ⟨settings, hsettings⟩ s
    exact ⟨_, hsettings s⟩
  · intro h
    let value := fun s => (h s).choose
    have hvalue : ∀ s, readOne sources s = .ok (value s) := fun s => (h s).choose_spec
    refine ⟨⟨value .outputDirectory, value .factoryPackage, value .factoryModule,
      value .factoryName, value .bindingContract, value .allowOwnerOverrides⟩, fun s => ?_⟩
    rw [hvalue s]
    cases s <;> rfl

open Classical in
/-- One fault is told about each setting that is not valid, in the order of the settings. -/
theorem map_setting_faults (sources : SettingSources) :
    (ofSources sources).faults.map SettingError.setting =
      Setting.all.filter fun s => ¬ sources.IsValid s := by
  have hone : ∀ s, (readOne sources s).faults.map SettingError.setting =
      [s].filter fun s => ¬ sources.IsValid s := by
    intro s
    rcases readOne_cases sources s with ⟨value, hvalue⟩ | ⟨_, fault, _, _, herror⟩
    · have hvalid : sources.IsValid s := exists_readOne_eq_ok_iff.1 ⟨value, hvalue⟩
      simp [hvalue, hvalid]
    · have hinvalid : ¬ sources.IsValid s := by
        rw [← exists_readOne_eq_ok_iff, herror]
        simp
      simp [herror, hinvalid]
  rw [faults_ofSources, List.map_flatMap]
  simp only [hone]
  rw [← List.filter_flatMap, List.flatMap_singleton']

/-- What is told about a setting is what is wrong with it by itself. -/
theorem filter_faults (sources : SettingSources) (s : Setting) :
    ((ofSources sources).faults.filter fun error => error.setting = s) =
      (readOne sources s).faults := by
  have hone : ∀ t, ((readOne sources t).faults.filter fun error => error.setting = s) =
      if t = s then (readOne sources t).faults else [] := by
    intro t
    rcases readOne_cases sources t with ⟨value, hvalue⟩ | ⟨_, fault, _, _, herror⟩
    · simp [hvalue]
    · by_cases h : t = s <;> simp [herror, h]
  rw [faults_ofSources, List.filter_flatMap]
  simp only [hone]
  cases s <;> simp [Setting.all]

theorem mem_faults_iff {error : SettingError} :
    error ∈ (ofSources sources).faults ↔ ∃ given,
      sources.Wins error.setting (some given) ∧ error.setting.read given = .error error.fault := by
  rw [faults_ofSources, List.mem_flatMap]
  constructor
  · rintro ⟨s, _, herror⟩
    obtain ⟨rfl, hgiven⟩ := mem_faults_readOne_iff.1 herror
    exact hgiven
  · intro hgiven
    exact ⟨error.setting, Setting.mem_all _, mem_faults_readOne_iff.2 ⟨rfl, hgiven⟩⟩

theorem winner?_eq_of_wins_iff {s : Setting}
    (h : ∀ given, other.Wins s given ↔ sources.Wins s given) :
    other.winner? s = sources.winner? s :=
  SettingSources.wins_iff.1 ((h _).2 (SettingSources.wins_iff.2 rfl))

theorem readOne_eq_of_wins_iff {s : Setting}
    (h : ∀ given, other.Wins s given ↔ sources.Wins s given) :
    readOne other s = readOne sources s := by
  rw [readOne, readOne, readSetting, readSetting, winner?_eq_of_wins_iff h]

open Classical in
/-- How settings follow from what wins for each of them. -/
structure SettledBySource (sources : SettingSources) : Prop where
  wins : ∀ s, ∃! given, sources.Wins s given
  succeeds_iff : (∃ settings, ofSources sources = .ok settings) ↔ ∀ s, sources.IsValid s
  determines_iff : ∀ settings, ofSources sources = .ok settings →
    ∀ s value, sources.Determines s value ↔ settings.get s = value
  /-- There is one fault for each setting that is not valid, in the order of the settings. -/
  map_setting : ∀ errors, ofSources sources = .error errors →
    errors.map SettingError.setting = Setting.all.filter fun s => ¬ sources.IsValid s
  /-- A fault is what the reader of the setting has against what wins for it. -/
  mem_iff : ∀ errors, ofSources sources = .error errors → ∀ error, error ∈ errors ↔ ∃ given,
    sources.Wins error.setting (some given) ∧ error.setting.read given = .error error.fault
  /-- What wins for the other settings does not show in a setting. -/
  setting : ∀ (other : SettingSources) (s : Setting),
    (∀ given, other.Wins s given ↔ sources.Wins s given) →
    ((ofSources other).faults.filter fun error => error.setting = s) =
        ((ofSources sources).faults.filter fun error => error.setting = s) ∧
      ∀ settings settings', ofSources sources = .ok settings → ofSources other = .ok settings' →
        settings'.get s = settings.get s
  /-- What loses does not show at all. -/
  eq : ∀ other : SettingSources, (∀ s given, other.Wins s given ↔ sources.Wins s given) →
    ofSources other = ofSources sources

/-- Settings are settled one by one, each by the source that wins for it. -/
theorem settled_by_source (sources : SettingSources) : SettledBySource sources where
  wins s := ⟨_, SettingSources.wins_iff.2 rfl, fun _ h => (SettingSources.wins_iff.1 h).symm⟩
  succeeds_iff := exists_ofSources_eq_ok_iff
  determines_iff := by
    intro settings hsettings s value
    rw [← readOne_eq_ok_iff, ofSources_eq_ok_iff_forall.1 hsettings s, Except.ok.injEq]
  map_setting := by
    intro errors herrors
    have hfaults := map_setting_faults sources
    rwa [herrors] at hfaults
  mem_iff := by
    intro errors herrors error
    rw [← mem_faults_iff, herrors, Checked.faults_error]
  setting := by
    intro other s h
    have hone := readOne_eq_of_wins_iff h
    refine ⟨by rw [filter_faults, filter_faults, hone], ?_⟩
    intro settings settings' hsettings hsettings'
    rw [ofSources_eq_ok_iff_forall] at hsettings hsettings'
    have hvalues := (hsettings' s).symm.trans (hone.trans (hsettings s))
    exact Except.ok.inj hvalues
  eq := by
    intro other h
    simp only [ofSources, readSetting, winner?_eq_of_wins_iff (h _)]

/-- The build option hides an override that is no path, and a null hides a name in the environment. -/
example : ofSources
    { options := [("bindwire.generated", .string "out")]
      overrides := [("output_dir", .bool true), ("factory_name", .null)]
      environment := [("BINDWIRE_FACTORY_NAME", "Screens")] } =
    .error [{ setting := .factoryName, fault := .notAString }] := rfl

end Settings

end OwnerBinding
