import OwnerBinding.Live.Dispatch
import OwnerBinding.Proofs.Factory.Closed
import OwnerBinding.Proofs.Settings
import OwnerBinding.Proofs.Text.Identifier

/-!
# What the class of a factory module shadows

A call of a dispatch method looks up the aliases of the imports and the test for instances. Neither
its parameters nor its variable hide one of these names, and no statement binds one of them again,
with a single exception: the class of the factory, which comes after the imports. So a name keeps
its meaning exactly if the name of the class is another one once it is normalized
(`FactoryModule.unshadowed_iff`).

The settings accept every one of these names for the class. A class that is named like an alias takes
the place of the imported module (`Live.Program.lookupName_aliasAt`), and references through the alias
are looked up in the class. All others start at what the import gives, which is the module wherever its
packages lead to it (`Live.Program.importModule_of_leadsTo`).
-/

namespace OwnerBinding

/-! ## Bindings of a name -/

namespace DispatchMethod

/-- The names of a method's own: its parameters and its variable. -/
def localNames : List String := ["view_owner", "container", "msg"]

/-- The references that a call of the method comes to: those in the tests of the branches and in the
calls behind them, and that of the failure. -/
def bodyReferences (method : DispatchMethod) : List Reference :=
  method.branches.flatMap (fun branch => [branch.owner, branch.binding]) ++ [method.failure]

end DispatchMethod

namespace FactoryModule

/-- The names outside of a dispatch method that a call of it looks up. -/
def calledNames (m : FactoryModule) : List String := "isinstance" :: m.imports.map Prod.snd

/-- What the statements of the module bind a name to, in their order. -/
def bindings (m : FactoryModule) (name : String) : List GlobalBinding :=
  (m.globals.filter (·.1 == name)).map Prod.snd

/-- Nothing in a method hides the name, and no statement but its imports binds it. -/
structure Unshadowed (m : FactoryModule) (name : String) : Prop where
  notLocal : name ∉ DispatchMethod.localNames
  bindings_eq : m.bindings name =
    (m.imports.filter (·.2 == name)).map fun entry => .importedModule entry.1

/-- The names that a module binds whatever is imported and whatever its class is called, and those
that a method binds. -/
def fixedNames : List String :=
  ["annotations", "Any", "overload", "__all__"] ++ DispatchMethod.localNames

theorem lookup_reverse {α : Type} (entries : List (String × α)) (name : String) :
    entries.reverse.lookup name = ((entries.filter (·.1 == name)).map Prod.snd).getLast? := by
  induction entries with
  | nil => rfl
  | cons entry rest ih =>
      rw [List.reverse_cons, List.lookup_append, ih]
      by_cases h : entry.1 = name
      · subst h
        have hself : [entry].lookup entry.1 = some entry.2 := List.lookup_cons_self
        rw [List.filter_cons_of_pos (by simp), List.map_cons, List.getLast?_cons, hself]
        cases ((rest.filter (·.1 == entry.1)).map Prod.snd).getLast? <;> rfl
      · rw [List.filter_cons_of_neg (by simpa using h)]
        have hnone : [entry].lookup name = none := by
          rw [List.lookup_eq_none_iff]
          simpa using Ne.symm h
        rw [hnone, Option.or_none]

theorem global?_eq (m : FactoryModule) (name : String) :
    m.global? name = (m.bindings name).getLast? :=
  lookup_reverse m.globals name

/-- A name that is not fixed is bound by its imports, and by the class if it is called so. -/
theorem bindings_of_notMem (m : FactoryModule) {name : String} (h : name ∉ fixedNames) :
    m.bindings name =
      ((m.imports.filter (·.2 == name)).map fun entry => .importedModule entry.1) ++
        if name = m.className then [.factory] else [] := by
  have hne : ∀ other ∈ fixedNames, ¬ (other == name) = true := by
    intro other hother heq
    exact h (beq_iff_eq.1 heq ▸ hother)
  have hbefore : (("annotations", GlobalBinding.other) ::
      m.typingNames.map fun other => (other, GlobalBinding.other)).filter (·.1 == name) = [] := by
    rw [List.filter_eq_nil_iff]
    intro entry hentry
    refine hne entry.1 ?_
    rcases List.mem_cons.1 hentry with rfl | htyping
    · decide
    · obtain ⟨other, hother, rfl⟩ := List.mem_map.1 htyping
      have hmem := m.typingNames_subset hother
      simp only [List.mem_cons, List.not_mem_nil, or_false] at hmem
      rcases hmem with rfl | rfl <;> decide
  have himports : (m.imports.map fun entry =>
      (entry.2, GlobalBinding.importedModule entry.1)).filter (·.1 == name) =
        (m.imports.filter (·.2 == name)).map fun entry => (entry.2, .importedModule entry.1) := by
    rw [List.filter_map]
    rfl
  have hbehind : [(m.className, GlobalBinding.factory), ("__all__", .other)].filter (·.1 == name) =
      if name = m.className then [(m.className, .factory)] else [] := by
    have hall : ([("__all__", .other)] : List (String × GlobalBinding)).filter (·.1 == name) = [] :=
      List.filter_cons_of_neg (hne "__all__" (by decide))
    by_cases hclass : name = m.className
    · rw [if_pos hclass, List.filter_cons_of_pos (by simp [hclass]), hall]
    · rw [if_neg hclass, List.filter_cons_of_neg (by simpa using Ne.symm hclass), hall]
  rw [bindings, globals, List.filter_append, List.filter_append, hbefore, himports, hbehind,
    List.nil_append, List.map_append, List.map_map]
  congr 1
  split <;> rfl

theorem notMem_fixedNames {m : FactoryModule} (haliases : ∀ short ∈ m.imports.map Prod.snd,
    ∃ index, short = ModuleAliases.aliasAt index) {name : String} (h : name ∈ m.calledNames) :
    name ∉ fixedNames := by
  rcases List.mem_cons.1 h with rfl | hshort
  · decide
  · obtain ⟨index, rfl⟩ := haliases name hshort
    exact ModuleAliases.aliasAt_notMem (by decide) index

theorem unshadowed_iff {m : FactoryModule} (haliases : ∀ short ∈ m.imports.map Prod.snd,
    ∃ index, short = ModuleAliases.aliasAt index) {name : String} (h : name ∈ m.calledNames) :
    m.Unshadowed name ↔ name ≠ m.className := by
  have hfixed := notMem_fixedNames haliases h
  have hbindings := m.bindings_of_notMem hfixed
  constructor
  · rintro ⟨_, himports⟩ rfl
    rw [himports, if_pos rfl] at hbindings
    simpa using congrArg List.length hbindings
  · intro hclass
    rw [if_neg hclass, List.append_nil] at hbindings
    exact ⟨fun hlocal => hfixed (List.mem_append_right _ hlocal), hbindings⟩

end FactoryModule

/-! ## References -/

theorem ModuleAliases.normalized_aliasAt (index : Nat) :
    Text.normalized (aliasAt index) = aliasAt index := by
  apply Text.normalized_of_isAscii
  rw [Text.isAscii, toList_aliasAt, List.all_cons, List.all_cons, Bool.and_eq_true,
    Bool.and_eq_true, List.all_eq_true]
  refine ⟨by decide, by decide, fun c hc => ?_⟩
  have hdigit : c.isDigit = true := Nat.isDigit_of_mem_toDigits (by decide) (by decide) hc
  simp only [Char.isDigit, Bool.and_eq_true, decide_eq_true_eq] at hdigit
  simp only [decide_eq_true_eq]
  have hle : c.val.toNat ≤ '9'.val.toNat := hdigit.2
  exact Nat.lt_of_le_of_lt hle (by decide)

/-- All types of the association belong to modules. -/
def Association.HasModules (association : Association) : Prop :=
  ∀ entry ∈ association.entries, entry.1.module ≠ "" ∧ entry.2.module ≠ ""

namespace ModuleAliases

theorem filter_imports {aliases : ModuleAliases} {module : String} {index : Nat}
    (h : aliases.modules.toList[index]? = some module) :
    aliases.imports.filter (·.2 == aliasAt index) = [(module, aliasAt index)] := by
  have hentry : (module, aliasAt index) ∈ aliases.imports.filter (·.2 == aliasAt index) := by
    rw [List.mem_filter, imports]
    exact ⟨List.mem_map.2 ⟨(module, index), List.mem_zipIdx_iff_getElem?.2 h, rfl⟩, by simp⟩
  have hshort : aliasAt index ∈ aliases.imports.map Prod.snd :=
    List.mem_map.2 ⟨_, (List.mem_filter.1 hentry).1, rfl⟩
  have hlength : (aliases.imports.filter (·.2 == aliasAt index)).length = 1 := by
    have hcount := List.count_eq_one_of_mem aliases.nodup_map_snd_imports hshort
    rw [List.count_eq_countP, List.countP_map, List.countP_eq_length_filter] at hcount
    exact hcount
  obtain ⟨only, honly⟩ := List.length_eq_one_iff.1 hlength
  rw [honly, List.mem_singleton] at hentry
  rw [honly, hentry]

end ModuleAliases

namespace FactoryModule

theorem privateName_aliasAt (m : FactoryModule) (index : Nat) :
    m.privateName (ModuleAliases.aliasAt index) = ModuleAliases.aliasAt index := by
  simp [privateName, ModuleAliases.normalized_aliasAt, ModuleAliases.toList_aliasAt,
    List.isPrefixOf]

variable (options : FactoryOptions) (version : Option String) (fragments activities : Association)

theorem exists_eq_aliasAt : ∀ short ∈
    (ofAssociations options version fragments activities).imports.map Prod.snd,
      ∃ index, short = ModuleAliases.aliasAt index := by
  intro short hshort
  rw [imports_ofAssociations] at hshort
  obtain ⟨entry, hentry, rfl⟩ := List.mem_map.1 hshort
  exact (ModuleAliases.exists_of_mem_imports hentry).2

theorem className_ofAssociations :
    (ofAssociations options version fragments activities).className =
      Text.normalized options.className :=
  rfl

/-- An alias stands for its module, unless it is the name of the class. -/
theorem global?_aliasAt {module : String} {index : Nat}
    (h : (aliases options.contract fragments activities).modules.toList[index]? = some module) :
    (ofAssociations options version fragments activities).global? (ModuleAliases.aliasAt index) =
      if ModuleAliases.aliasAt index = Text.normalized options.className then some .factory
      else some (.importedModule module) := by
  have hfilter := ModuleAliases.filter_imports h
  rw [← imports_ofAssociations options version fragments activities] at hfilter
  have hcalled : ModuleAliases.aliasAt index ∈
      (ofAssociations options version fragments activities).calledNames := by
    have hmem : (module, ModuleAliases.aliasAt index) ∈
        (ofAssociations options version fragments activities).imports :=
      List.mem_of_mem_filter (hfilter ▸ List.mem_singleton_self _)
    exact List.mem_cons_of_mem "isinstance" (List.mem_map.2 ⟨_, hmem, rfl⟩)
  rw [global?_eq, bindings_of_notMem _ (notMem_fixedNames (exists_eq_aliasAt _ _ _ _) hcalled),
    hfilter, className_ofAssociations]
  split <;> rfl

/-- The test for instances is not imported, so it is a name of the module only if the class has it. -/
theorem global?_isinstance :
    (ofAssociations options version fragments activities).global? "isinstance" =
      if "isinstance" = Text.normalized options.className then some .factory else none := by
  have himports : (ofAssociations options version fragments activities).imports.filter
      (·.2 == "isinstance") = [] := by
    rw [List.filter_eq_nil_iff]
    intro entry hentry heq
    obtain ⟨index, hshort⟩ := exists_eq_aliasAt options version fragments activities entry.2
      (List.mem_map_of_mem hentry)
    have hne : ModuleAliases.aliasAt index ∉ ["isinstance"] :=
      ModuleAliases.aliasAt_notMem (by decide) index
    rw [← hshort, beq_iff_eq.1 heq] at hne
    exact hne (List.mem_singleton_self _)
  rw [global?_eq, bindings_of_notMem _ (by decide), himports, className_ofAssociations]
  split <;> rfl

end FactoryModule

namespace Live.Program

/-- Some names are those of a module that exists, and each package on the way has the next one as a
module below it. -/
structure LeadsTo (program : Program) (names : List String) : Prop where
  module?_ne_none : program.module? (".".intercalate names) ≠ none
  moduleAttribute?_eq : ∀ front next rest, names = front ++ next :: rest → front ≠ [] →
    program.moduleAttribute? (".".intercalate front) next =
      some (.module (".".intercalate (front ++ [next])))

theorem foldlM_importFrom_of_leadsTo {program : Program} (m : FactoryModule) {rest : List String}
    {front : List String} (hfront : front ≠ []) (h : program.LeadsTo (front ++ rest)) :
    rest.foldlM (program.importFrom m) (.module (".".intercalate front)) =
      .ok (.module (".".intercalate (front ++ rest))) := by
  induction rest generalizing front with
  | nil =>
      rw [List.append_nil]
      rfl
  | cons next rest ih =>
      have hstep : program.importFrom m (.module (".".intercalate front)) next =
          .ok (.module (".".intercalate (front ++ [next]))) := by
        simp [importFrom, select, h.moduleAttribute?_eq front next rest rfl hfront, Target.ofValue]
      have hsplit : front ++ next :: rest = front ++ [next] ++ rest := by simp
      rw [hsplit] at h ⊢
      rw [List.foldlM_cons, hstep]
      exact ih (by simp) h

/-- An import gives its module, if the packages lead to it. -/
theorem importModule_of_leadsTo {program : Program} (m : FactoryModule) {module : String}
    (h : program.LeadsTo (importNames module)) :
    program.importModule m module = .ok (.module (".".intercalate (importNames module))) := by
  obtain ⟨entries, hentries⟩ := Option.ne_none_iff_exists'.1 h.module?_ne_none
  have hne : importNames module ≠ [] := by simp [importNames, Text.components]
  rw [importModule]
  generalize importNames module = names at h hentries hne ⊢
  obtain ⟨package, rest, rfl⟩ := List.exists_cons_of_ne_nil hne
  simp only [hentries]
  exact foldlM_importFrom_of_leadsTo m (List.cons_ne_nil package []) h

/-- A reference through an alias is followed from what the alias stands for. -/
theorem evaluate_of_lookupName {program : Program} {m : FactoryModule} {reference : Reference}
    {index : Nat} {start : Except LiveFault Target}
    (halias : reference.alias? = some (ModuleAliases.aliasAt index))
    (hstart : program.lookupName m (ModuleAliases.aliasAt index) = start) :
    program.evaluate m reference = start.bind
      (((Text.components reference.name).map m.privateName).foldlM (program.select m)) := by
  rw [evaluate, halias]
  simp only [Option.toList_some, List.cons_append, List.nil_append, List.map_cons,
    m.privateName_aliasAt, hstart]
  rfl

theorem lookupName_aliasAt (program : Program) (options : FactoryOptions)
    (version : Option String) (fragments activities : Association) {module : String} {index : Nat}
    (h : (FactoryModule.aliases options.contract fragments activities).modules.toList[index]? =
      some module) :
    program.lookupName (.ofAssociations options version fragments activities)
      (ModuleAliases.aliasAt index) =
        if ModuleAliases.aliasAt index = Text.normalized options.className then .ok .factory
        else program.importModule (.ofAssociations options version fragments activities) module := by
  rw [lookupName, FactoryModule.global?_aliasAt options version fragments activities h]
  by_cases hclass : ModuleAliases.aliasAt index = Text.normalized options.className
  · rw [if_pos hclass, if_pos hclass]
  · rw [if_neg hclass, if_neg hclass]

end Live.Program

/-! ## Rendered modules -/

/-- A call of a method comes to references of types that belong to imported modules. -/
theorem DispatchMethod.exists_refer_of_mem_bodyReferences {aliases : ModuleAliases}
    {contract : String} {kind : OwnerKind} {association : Association}
    (hmodules : association.HasModules) (hcovers : aliases.CoversMethod contract kind association)
    {reference : Reference}
    (h : reference ∈ (ofAssociation aliases contract kind association).bodyReferences) :
    ∃ t : TypeName, t.module ≠ "" ∧ aliases.Covers t ∧ reference = aliases.refer t := by
  rcases List.mem_append.1 h with hbranch | hlast
  · obtain ⟨branch, hbranch, hreference⟩ := List.mem_flatMap.1 hbranch
    obtain ⟨entry, hentry, rfl⟩ := List.mem_map.1 hbranch
    simp only [List.mem_cons, List.not_mem_nil, or_false] at hreference
    rcases hreference with rfl | rfl
    · exact ⟨_, (hmodules entry hentry).1, (hcovers.entries entry hentry).1, rfl⟩
    · exact ⟨_, (hmodules entry hentry).2, (hcovers.entries entry hentry).2, rfl⟩
  · rw [List.mem_singleton.1 hlast]
    exact ⟨_, by decide, hcovers.failure, rfl⟩

/-- The sources that give the factory class a name and leave everything else to the defaults. -/
def SettingSources.ofFactoryName (name : String) : SettingSources where
  options := []
  overrides := [("factory_name", .string name)]
  environment := []

theorem Settings.ofSources_ofFactoryName {name : String} (h : Text.isIdentifier name = true) :
    ofSources (.ofFactoryName name) = .ok { Settings.default with factoryName := name } := by
  have hname : readSetting (.ofFactoryName name) .factoryName Setting.readIdentifier
      default.factoryName = .ok name :=
    readSetting_eq_ok_iff.2
      (.inr ⟨.string name, rfl, (Setting.readIdentifier_eq_ok_iff _ _).2 ⟨rfl, h⟩⟩)
  have hother : ∀ {α : Type} (setting : Setting) (read : Json → Except SettingFault α) (value : α),
      setting ≠ .factoryName → readSetting (.ofFactoryName name) setting read value = .ok value := by
    intro α setting read value hsetting
    refine readSetting_eq_ok_iff.2 (.inl ⟨?_, rfl⟩)
    cases setting
    case factoryName => exact absurd rfl hsetting
    all_goals rfl
  exact ofSources_eq_ok_iff.2 ⟨hother _ _ _ (by decide), hother _ _ _ (by decide),
    hother _ _ _ (by decide), hname, hother _ _ _ (by decide), hother _ _ _ (by decide)⟩

/-- What a reference comes to that starts at an alias, given what the alias stands for. -/
structure FactoryModule.Follows (m : FactoryModule) (className : String) (reference : Reference)
    (short : String) (t : TypeName) : Prop where
  alias?_eq : reference.alias? = some short
  denoted?_eq : reference.denoted? m.imports = some t
  /-- A call starts at what the import of the module gives, or at the class if that has the name of the
  alias. -/
  evaluate_eq : ∀ program : Live.Program, program.evaluate m reference =
    (if short = className then .ok .factory else program.importModule m t.module).bind
      (((Text.components t.name).map m.privateName).foldlM (program.select m))
  /-- So it starts at the module itself, where the class has another name and the packages lead to the
  module. -/
  evaluate_of_leadsTo : ∀ program : Live.Program, short ≠ className →
    program.LeadsTo (Live.Program.importNames t.module) → program.evaluate m reference =
      ((Text.components t.name).map m.privateName).foldlM (program.select m)
        (.module (".".intercalate (Live.Program.importNames t.module)))

/-- The class, under its normalized name, is all that can take a name away from the calls of a factory
module, and the settings accept every such name for it. -/
structure FactoryModule.ShadowedOnlyBy (m : FactoryModule) (className : String) : Prop where
  accepted : ∀ name ∈ m.calledNames, Text.normalized name = name ∧
    Settings.ofSources (.ofFactoryName name) = .ok { Settings.default with factoryName := name }
  unshadowed_iff : ∀ name ∈ m.calledNames, m.Unshadowed name ↔ name ≠ className
  /-- The test for instances is not a name of the module, or it is the class. -/
  isinstance_eq : m.global? "isinstance" = if "isinstance" = className then some .factory else none
  /-- Each reference of a call goes through the alias of the module of its type. -/
  follows : ∀ kind, ∀ reference ∈ (m.method kind).bodyReferences,
    ∃ short ∈ m.imports.map Prod.snd, ∃ t, m.Follows className reference short t

theorem ModuleAliases.isIdentifier_aliasAt (index : Nat) :
    Text.isIdentifier (aliasAt index) = true := by
  have hreserved : aliasAt index ∉ Text.reservedWords := aliasAt_notMem (by decide) index
  have hdigits : (Nat.toDigits 10 index).all Text.isIdentifierContinue = true := by
    rw [List.all_eq_true]
    intro c hc
    exact Text.isIdentifierContinue_of_isDigit
      (Nat.isDigit_of_mem_toDigits (by decide) (by decide) hc)
  have hstart : Text.isIdentifierStart '_' = true := by decide
  have hletter : Text.isIdentifierContinue 'm' = true := by decide +kernel
  simp [Text.isIdentifier, hreserved, toList_aliasAt, Text.hasIdentifierForm, hdigits, hstart,
    hletter]

theorem FactoryModule.shadowedOnlyBy_ofAssociations (options : FactoryOptions)
    (version : Option String) {fragments activities : Association}
    (hfragments : fragments.HasModules) (hactivities : activities.HasModules) :
    (ofAssociations options version fragments activities).ShadowedOnlyBy
      (Text.normalized options.className) where
  accepted := by
    intro name hname
    rcases List.mem_cons.1 hname with rfl | hshort
    · exact ⟨Text.normalized_of_isAscii (by decide),
        Settings.ofSources_ofFactoryName (by decide +kernel)⟩
    · obtain ⟨index, rfl⟩ := exists_eq_aliasAt options version fragments activities name hshort
      exact ⟨ModuleAliases.normalized_aliasAt index,
        Settings.ofSources_ofFactoryName (ModuleAliases.isIdentifier_aliasAt index)⟩
  unshadowed_iff name hname :=
    unshadowed_iff (exists_eq_aliasAt options version fragments activities) hname
  isinstance_eq := global?_isinstance options version fragments activities
  follows := by
    intro kind reference hreference
    obtain ⟨t, hmodule, hcovers, rfl⟩ : ∃ t : TypeName, t.module ≠ "" ∧
        (aliases options.contract fragments activities).Covers t ∧
          reference = (aliases options.contract fragments activities).refer t := by
      cases kind with
      | fragment =>
          exact DispatchMethod.exists_refer_of_mem_bodyReferences hfragments
            (coversMethod _ _ _ .fragment (.inl rfl)) hreference
      | activity =>
          exact DispatchMethod.exists_refer_of_mem_bodyReferences hactivities
            (coversMethod _ _ _ .activity (.inr rfl)) hreference
    obtain ⟨index, halias, hget⟩ := ModuleAliases.exists_alias?_eq (hcovers.resolve_left hmodule)
    have hrefer : ((aliases options.contract fragments activities).refer t).alias? =
        some (ModuleAliases.aliasAt index) := by
      simp [ModuleAliases.refer, hmodule, halias]
    have hevaluate : ∀ program : Live.Program, program.evaluate _ _ = _ := fun program =>
      Live.Program.evaluate_of_lookupName hrefer
        (program.lookupName_aliasAt options version fragments activities hget)
    refine ⟨ModuleAliases.aliasAt index, ?_, t, hrefer, ?_, hevaluate, ?_⟩
    · rw [imports_ofAssociations]
      exact List.count_pos_iff.1 (by simp [ModuleAliases.count_alias_refer hrefer])
    · rw [imports_ofAssociations]
      exact ModuleAliases.denoted?_refer hcovers
    · intro program hshort hleads
      rw [hevaluate, if_neg hshort, Live.Program.importModule_of_leadsTo _ hleads]
      rfl

namespace Generation

/-- Any two associations of types that belong to modules are rendered, under all settings, and only
the class can shadow what a call of the factory module looks up. -/
theorem render_shadowedOnlyBy (settings : Settings) (version : Option String)
    {fragments activities : Association} (hfragments : fragments.HasModules)
    (hactivities : activities.HasModules) :
    ∃ found, (render settings.factoryOptions version fragments activities).result = .ok found ∧
      found.ShadowedOnlyBy (Text.normalized settings.factoryName) :=
  ⟨_, result_render settings.factoryOptions version fragments activities,
    FactoryModule.shadowedOnlyBy_ofAssociations settings.factoryOptions version hfragments
      hactivities⟩

end Generation

/-! ## A class that is named like an alias -/

namespace AliasNamed

/-- A binding without structure. -/
def binding : Declaration where
  module := "app"
  name := "LoginBinding"
  typeParameters := []
  superclass := none
  interfaces := .ofList [defaultContract]
  markers := .empty

/-- One owner, in the first of the imported modules. -/
def fragments : Association :=
  .ofList [({ module := "app", name := "LoginScreen", arity := 0 }, binding)]

theorem hasModules_fragments : fragments.HasModules := by
  intro entry hentry
  have hentries : fragments.entries =
      [({ module := "app", name := "LoginScreen", arity := 0 }, binding)] := rfl
  rw [hentries, List.mem_singleton] at hentry
  subst hentry
  exact ⟨by decide, by decide⟩

theorem hasModules_empty : Association.empty.HasModules := by
  intro entry hentry
  cases hentry

theorem render_shadowedOnlyBy_loginScreen :
    fragments.HasModules ∧ Association.empty.HasModules ∧
      ∃ found, (Generation.render Settings.default.factoryOptions (some Generation.programVersion)
          fragments .empty).result = .ok found ∧
        found.ShadowedOnlyBy (Text.normalized Settings.default.factoryName) :=
  ⟨hasModules_fragments, hasModules_empty,
    Generation.render_shadowedOnlyBy Settings.default (some Generation.programVersion)
      hasModules_fragments hasModules_empty⟩

/-- The settings that name the class like the first alias. -/
def settings : Settings := { Settings.default with factoryName := "_m0" }

/-- The class takes the place of the module of the owner, so the test for the owner finds nothing. -/
theorem class_shadows_alias :
    Settings.ofSources (.ofFactoryName "_m0") = .ok settings ∧ fragments.HasModules ∧
      ∃ found, (Generation.render settings.factoryOptions (some Generation.programVersion)
          fragments .empty).result = .ok found ∧
        ("app", "_m0") ∈ found.imports ∧ "_m0" ∈ found.calledNames ∧ ¬ found.Unshadowed "_m0" ∧
        found.global? "_m0" = some .factory ∧
        ∀ branch ∈ found.fragment.branches, ∀ program : Live.Program,
          program.evaluate found branch.owner = .error (.attributeNotFound "LoginScreen") := by
  refine ⟨Settings.ofSources_ofFactoryName (by decide +kernel), hasModules_fragments, _,
    Generation.result_render _ _ _ _, ?_⟩
  generalize hfound : FactoryModule.ofAssociations settings.factoryOptions
    (some Generation.programVersion) fragments .empty = found
  have himports : found.imports =
      [("app", "_m0"), ("bindwire.contracts", "_m1"), ("bindwire.exceptions", "_m2")] := by
    rw [← hfound]
    decide +kernel
  have hbindings : found.bindings "_m0" = [.importedModule "app", .factory] := by
    rw [← hfound]
    decide +kernel
  have hglobal : found.global? "_m0" = some .factory := by
    rw [FactoryModule.global?_eq, hbindings]
    rfl
  have hbranches : found.fragment.branches.map Branch.owner =
      [{ alias? := some (ModuleAliases.aliasAt 0), name := "LoginScreen" }] := by
    rw [← hfound]
    decide +kernel
  have hname : (Text.components "LoginScreen").map found.privateName = ["LoginScreen"] := by
    rw [← hfound]
    decide +kernel
  have hmethod : (found.methods.any fun method => method.kind.methodName == "LoginScreen") =
      false := by
    rw [← hfound]
    decide +kernel
  refine ⟨by simp [himports], by simp [FactoryModule.calledNames, himports], ?_, hglobal, ?_⟩
  · rintro ⟨_, hunshadowed⟩
    rw [hbindings, himports] at hunshadowed
    revert hunshadowed
    decide
  · intro branch hbranch program
    have howner : branch.owner =
        { alias? := some (ModuleAliases.aliasAt 0), name := "LoginScreen" } :=
      List.mem_singleton.1 (hbranches ▸ List.mem_map_of_mem hbranch)
    have hstart : program.lookupName found (ModuleAliases.aliasAt 0) = .ok .factory := by
      have halias : ModuleAliases.aliasAt 0 = "_m0" := by decide
      rw [Live.Program.lookupName, halias, hglobal]
    rw [howner, Live.Program.evaluate_of_lookupName rfl hstart, hname, Except.bind,
      List.foldlM_cons, Live.Program.select]
    simp only [hmethod]
    rfl

/-- A class that is written in another way can be named like the alias as well. -/
example : Text.isIdentifier "_ｍ0" = true ∧ Text.normalized "_ｍ0" = ModuleAliases.aliasAt 0 := by
  decide +kernel

end AliasNamed

end OwnerBinding
