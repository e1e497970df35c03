import OwnerBinding.Checked
import OwnerBinding.Factory.Plan
import OwnerBinding.Json.Number
import OwnerBinding.Path
import OwnerBinding.Text.Identifier

/-!
# Settings of a run

Each setting has one winning source: a build option for the output directory, else an explicit
override, else an environment variable, else the default. The value of the winning source alone
decides what the setting becomes, or what is wrong with it. All faults are told, in the order of the
settings.
-/

namespace OwnerBinding

structure Settings where
  outputDirectory : Option Path
  factoryPackage : String
  factoryModule : String
  factoryName : String
  bindingContract : String
  allowOwnerOverrides : Bool
  deriving DecidableEq, Repr

/-- The settings without any source. -/
def Settings.default : Settings where
  outputDirectory := none
  factoryPackage := FactoryOptions.default.package
  factoryModule := FactoryOptions.default.module
  factoryName := FactoryOptions.default.className
  bindingContract := FactoryOptions.default.contract
  allowOwnerOverrides := false

inductive Setting where
  | outputDirectory
  | factoryPackage
  | factoryModule
  | factoryName
  | bindingContract
  | allowOwnerOverrides
  deriving DecidableEq, Repr

def Setting.key : Setting → String
  | .outputDirectory => "output_dir"
  | .factoryPackage => "factory_package"
  | .factoryModule => "factory_module"
  | .factoryName => "factory_name"
  | .bindingContract => "binding_contract"
  | .allowOwnerOverrides => "allow_owner_overrides"

/-- What can be wrong with the value of a setting. -/
inductive SettingFault where
  | notAPath
  | notAString
  | notAnIdentifier (value : String)
  | notAPackageName (value : String)
  /-- A value of a kind that no truth value is written with. -/
  | notABoolean
  /-- A text or a number that is not one of those for a truth value. -/
  | unreadableBoolean
  deriving DecidableEq, Repr

namespace SettingFault

def code : SettingFault → String
  | .notAPath => "path_type"
  | .notAString => "string_type"
  | .notAnIdentifier _ => "value_error"
  | .notAPackageName _ => "value_error"
  | .notABoolean => "bool_type"
  | .unreadableBoolean => "bool_parsing"

def message : SettingFault → String
  | .notAPath => "Input is not a valid path for <class 'pathlib.Path'>"
  | .notAString => "Input should be a valid string"
  | .notAnIdentifier value => "Value error, '" ++ value ++ "' is not a valid Python identifier."
  | .notAPackageName value =>
      "Value error, '" ++ value ++ "' is not a valid dotted package name."
  | .notABoolean => "Input should be a valid boolean"
  | .unreadableBoolean => "Input should be a valid boolean, unable to interpret input"

end SettingFault

/-- A fault with the setting that it is about. -/
structure SettingError where
  setting : Setting
  fault : SettingFault
  deriving DecidableEq, Repr

/-- Where the values of settings come from. Overrides and options are members of an object, and the
environment lists variables with their values. -/
structure SettingSources where
  options : List (String × Json)
  overrides : List (String × Json)
  environment : List (String × String)

namespace SettingSources

def outputOption : String := "bindwire.generated"

/-- What the environment variable of a setting starts with. -/
def environmentStem : String := "bindwire_"

/-- The lower case of a character, as far as it is an ASCII letter: the Kelvin sign is the one
character outside ASCII whose lower case is inside. -/
def lowerChar (c : Char) : Char := if c = Char.ofNat 0x212A then 'k' else c.toLower

/-- Whether a variable has a given name in lower case. -/
def isNamed (name : String) (entry : String × String) : Bool :=
  entry.1.toList.map lowerChar == name.toList

/-- The value of a variable of the environment, whatever the case of its name. Of several, the last
one counts. -/
def environmentValue? (sources : SettingSources) (name : String) : Option String :=
  (sources.environment.reverse.find? (isNamed name)).map Prod.snd

/-- The build option for a setting, if there is one and it is given. -/
def option? (sources : SettingSources) : Setting → Option Json
  | .outputDirectory =>
      match Json.member? outputOption sources.options with
      | some .null => none
      | given => given
  | _ => none

/-- The value that the winning source gives to a setting, or nothing if the default stands. -/
def winner? (sources : SettingSources) (setting : Setting) : Option Json :=
  match sources.option? setting with
  | some value => some value
  | none =>
      match Json.member? setting.key sources.overrides with
      | some value => some value
      | none => (sources.environmentValue? (environmentStem ++ setting.key)).map .string

end SettingSources

namespace Setting

def readPath : Json → Except SettingFault (Option Path)
  | .null => .ok none
  | .string text => .ok (some (Path.ofString text))
  | _ => .error .notAPath

def readString : Json → Except SettingFault String
  | .string text => .ok text
  | _ => .error .notAString

/-- A text that can name a class or module. -/
def readIdentifier (value : Json) : Except SettingFault String := do
  let text ← readString value
  if Text.isIdentifier text then .ok text else .error (.notAnIdentifier text)

def readPackageName (value : Json) : Except SettingFault String := do
  let text ← readString value
  if Text.isPackageName text then .ok text else .error (.notAPackageName text)

def trueWords : List String := ["1", "true", "t", "yes", "y", "on"]

def falseWords : List String := ["0", "false", "f", "no", "n", "off"]

/-- A truth value, the numbers one and zero, or a word in any case. -/
def readBool : Json → Except SettingFault Bool
  | .bool value => .ok value
  | .string text =>
      let word := String.ofList (text.toList.map Char.toLower)
      if trueWords.contains word then .ok true
      else if falseWords.contains word then .ok false
      else .error .unreadableBoolean
  | .number value =>
      match value.toInt? with
      | some 1 => .ok true
      | some 0 => .ok false
      | some _ => .error .unreadableBoolean
      | none => .error .notABoolean
  | _ => .error .notABoolean

end Setting

namespace Settings

/-- One setting from the value of its winning source, or its default. -/
def readSetting {α : Type} (sources : SettingSources) (setting : Setting)
    (read : Json → Except SettingFault α) (default : α) : Checked SettingError α :=
  match sources.winner? setting with
  | none => .ok default
  | some value => (read value).mapError fun fault => [{ setting, fault }]

/-- The settings that sources give, or every fault of their winning values in order. -/
def ofSources (sources : SettingSources) : Checked SettingError Settings :=
  let outputDirectory :=
    readSetting sources .outputDirectory Setting.readPath default.outputDirectory
  let factoryPackage :=
    readSetting sources .factoryPackage Setting.readPackageName default.factoryPackage
  let factoryModule :=
    readSetting sources .factoryModule Setting.readIdentifier default.factoryModule
  let factoryName :=
    readSetting sources .factoryName Setting.readIdentifier default.factoryName
  let bindingContract :=
    readSetting sources .bindingContract Setting.readString default.bindingContract
  let allowOwnerOverrides :=
    readSetting sources .allowOwnerOverrides Setting.readBool default.allowOwnerOverrides
  (Checked.both outputDirectory (Checked.both factoryPackage (Checked.both factoryModule
    (Checked.both factoryName (Checked.both bindingContract allowOwnerOverrides))))).map
    fun values =>
      { outputDirectory := values.1
        factoryPackage := values.2.1
        factoryModule := values.2.2.1
        factoryName := values.2.2.2.1
        bindingContract := values.2.2.2.2.1
        allowOwnerOverrides := values.2.2.2.2.2 }

/-- The output directory, or the failure to have one. -/
def requireOutputDirectory (settings : Settings) : Except Failure Path :=
  match settings.outputDirectory with
  | some path => .ok path
  | none => .error (.missingOutputDirectory SettingSources.outputOption)

/-- How the factory module is named under these settings. -/
def factoryOptions (settings : Settings) : FactoryOptions where
  className := settings.factoryName
  package := settings.factoryPackage
  module := settings.factoryModule
  contract := settings.bindingContract

end Settings

end OwnerBinding
