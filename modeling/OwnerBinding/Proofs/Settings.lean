import OwnerBinding.Settings

/-!
# What settings are accepted

Settings are accepted if each of them is its default or was read from the value of its winning source
(`ofSources_eq_ok_iff`). So whatever holds of a default and of every value that is read holds of an
accepted setting (`of_readSetting`): its names are names, wherever they come from.
-/

namespace OwnerBinding

namespace Setting

theorem readChecked_eq_ok_iff (given : Json) (check : String → Bool)
    (fault : String → SettingFault) (text : String) :
    (readString given >>= fun read => if check read then .ok read else .error (fault read)) =
      .ok text ↔ given = .string text ∧ check text = true := by
  cases given with
  | string written =>
      change (if check written then _ else _) = _ ↔ _
      by_cases hcheck : check written = true <;> grind
  | _ => simp [readString, bind, Except.bind]

theorem readIdentifier_eq_ok_iff (given : Json) (name : String) :
    readIdentifier given = .ok name ↔ given = .string name ∧ Text.isIdentifier name = true :=
  readChecked_eq_ok_iff given Text.isIdentifier .notAnIdentifier name

theorem readPackageName_eq_ok_iff (given : Json) (name : String) :
    readPackageName given = .ok name ↔ given = .string name ∧ Text.isPackageName name = true :=
  readChecked_eq_ok_iff given Text.isPackageName .notAPackageName name

end Setting

namespace Settings

variable {sources : SettingSources} {settings : Settings}

/-- What was read stays read, however the faults are told. -/
theorem mapError_eq_ok_iff {ε ε' α : Type} (f : ε → ε') (result : Except ε α) (value : α) :
    result.mapError f = .ok value ↔ result = .ok value := by
  cases result with
  | ok found =>
      have hmap : (Except.ok found : Except ε α).mapError f = .ok found := rfl
      simp [hmap]
  | error fault =>
      have hmap : (Except.error fault : Except ε α).mapError f = .error (f fault) := rfl
      simp [hmap]

theorem readSetting_eq_ok_iff {α : Type} {setting : Setting} {read : Json → Except SettingFault α}
    {default value : α} :
    readSetting sources setting read default = .ok value ↔
      sources.winner? setting = none ∧ default = value ∨
        ∃ given, sources.winner? setting = some given ∧ read given = .ok value := by
  rw [readSetting]
  cases sources.winner? setting with
  | none => simp
  | some given => simp [mapError_eq_ok_iff]

/-- What holds of the default and of all values that are read holds of the setting. -/
theorem of_readSetting {α : Type} {setting : Setting} {read : Json → Except SettingFault α}
    {default value : α} (P : α → Prop) (h : readSetting sources setting read default = .ok value)
    (hdefault : P default) (hread : ∀ given, read given = .ok value → P value) : P value := by
  rcases readSetting_eq_ok_iff.1 h with ⟨_, rfl⟩ | ⟨given, _, hgiven⟩
  · exact hdefault
  · exact hread given hgiven

theorem ofSources_eq_ok_iff : ofSources sources = .ok settings ↔
    readSetting sources .outputDirectory Setting.readPath default.outputDirectory =
        .ok settings.outputDirectory ∧
      readSetting sources .factoryPackage Setting.readPackageName default.factoryPackage =
        .ok settings.factoryPackage ∧
      readSetting sources .factoryModule Setting.readIdentifier default.factoryModule =
        .ok settings.factoryModule ∧
      readSetting sources .factoryName Setting.readIdentifier default.factoryName =
        .ok settings.factoryName ∧
      readSetting sources .bindingContract Setting.readString default.bindingContract =
        .ok settings.bindingContract ∧
      readSetting sources .allowOwnerOverrides Setting.readBool default.allowOwnerOverrides =
        .ok settings.allowOwnerOverrides := by
  rw [ofSources, Checked.map_eq_ok_iff]
  constructor
  · rintro ⟨⟨output, package, module, name, contract, overrides⟩, hboth, rfl⟩
    simpa only [Checked.both_eq_ok_iff] using hboth
  · intro h
    refine ⟨⟨settings.outputDirectory, settings.factoryPackage, settings.factoryModule,
      settings.factoryName, settings.bindingContract, settings.allowOwnerOverrides⟩, ?_, rfl⟩
    simpa only [Checked.both_eq_ok_iff] using h

theorem isPackageName_factoryPackage (h : ofSources sources = .ok settings) :
    Text.isPackageName settings.factoryPackage = true := by
  obtain ⟨_, hpackage, _⟩ := ofSources_eq_ok_iff.1 h
  refine of_readSetting (Text.isPackageName · = true) hpackage (by decide +kernel) ?_
  intro given hgiven
  exact ((Setting.readPackageName_eq_ok_iff _ _).1 hgiven).2

theorem isIdentifier_factoryModule (h : ofSources sources = .ok settings) :
    Text.isIdentifier settings.factoryModule = true := by
  obtain ⟨_, _, hmodule, _⟩ := ofSources_eq_ok_iff.1 h
  refine of_readSetting (Text.isIdentifier · = true) hmodule (by decide +kernel) ?_
  intro given hgiven
  exact ((Setting.readIdentifier_eq_ok_iff _ _).1 hgiven).2

end Settings

end OwnerBinding
