import Mathlib.Data.List.Basic
import OwnerBinding.Proofs.Manifest.Faults
import OwnerBinding.Proofs.Text.Lines

/-!
# Where the faults of a manifest stand

Checks run depth first, so the faults of a value that is looked at through keys and positions stand
together among the faults of the whole, and they are those of the value itself (`faultsAt_append_of_eq`).
What else is in the document has no part in them.

Two lists of a manifest have items that are checked in this way: the declarations, and the arguments
of a superclass. `reportsItems` says for both that the faults come item by item, that an item has the
faults that it would have as the only item, and that the keys which are not expected come last.
-/

namespace OwnerBinding

namespace Manifest

/-! ## Faults at a location -/

/-- A fault of the value at a location, or of something in this value. -/
def Fault.isAt (location : List Step) (fault : Fault) : Bool :=
  location.isPrefixOf fault.location

def faultsAt (location : List Step) (faults : List Fault) : List Fault :=
  faults.filter (Fault.isAt location)

/-- A fault of the value at a location, as a fault of the whole. -/
def Fault.within (location : List Step) (fault : Fault) : Fault :=
  { fault with location := location ++ fault.location }

/-- A fault at one location, as a fault at another one. -/
def Fault.moved (source target : List Step) (fault : Fault) : Fault :=
  { fault with location := target ++ fault.location.drop source.length }

theorem Fault.isAt_iff {location : List Step} {fault : Fault} :
    fault.isAt location = true ↔ ∃ rest, fault.location = location ++ rest := by
  rw [isAt, List.isPrefixOf_iff_prefix]
  exact exists_congr fun rest => eq_comm

theorem map_moved_map_within (source target : List Step) (faults : List Fault) :
    (faults.map (Fault.within source)).map (Fault.moved source target) =
      faults.map (Fault.within target) := by
  rw [List.map_map]
  refine List.map_congr_left fun fault _ => ?_
  simp [Fault.moved, Fault.within]

theorem map_within_map_within (outer inner : List Step) (faults : List Fault) :
    (faults.map (Fault.within inner)).map (Fault.within outer) =
      faults.map (Fault.within (outer ++ inner)) := by
  rw [List.map_map]
  refine List.map_congr_left fun fault _ => ?_
  simp [Fault.within]

theorem faultsAt_append (location : List Step) (faults more : List Fault) :
    faultsAt location (faults ++ more) = faultsAt location faults ++ faultsAt location more :=
  List.filter_append ..

theorem faultsAt_map_within (outer inner : List Step) (faults : List Fault) :
    faultsAt (outer ++ inner) (faults.map (Fault.within outer)) =
      (faultsAt inner faults).map (Fault.within outer) := by
  have hsame : Fault.isAt (outer ++ inner) ∘ Fault.within outer = Fault.isAt inner := by
    funext fault
    rw [Bool.eq_iff_iff, Function.comp_apply, Fault.isAt_iff, Fault.isAt_iff]
    simp [Fault.within]
  rw [faultsAt, List.filter_map, hsame, faultsAt]

/-- Further in there are only faults that are further out as well. -/
theorem faultsAt_faultsAt (outer inner : List Step) (faults : List Fault) :
    faultsAt (outer ++ inner) (faultsAt outer faults) = faultsAt (outer ++ inner) faults := by
  rw [faultsAt, faultsAt, faultsAt, List.filter_filter]
  refine List.filter_congr fun fault _ => ?_
  rw [Bool.and_eq_left_iff_imp, Fault.isAt_iff, Fault.isAt_iff]
  rintro ⟨rest, hrest⟩
  exact ⟨inner ++ rest, by rw [hrest, List.append_assoc]⟩

/-- If the faults at a location are those of some value, so are the faults further in. -/
theorem faultsAt_append_of_eq {outer : List Step} {faults own : List Fault}
    (h : faultsAt outer faults = own.map (Fault.within outer)) (inner : List Step) :
    faultsAt (outer ++ inner) faults = (faultsAt inner own).map (Fault.within outer) := by
  rw [← faultsAt_faultsAt, h, faultsAt_map_within]

/-- Faults that are all reached by one step. -/
def StartWith (step : Step) (faults : List Fault) : Prop :=
  ∀ fault ∈ faults, fault.isAt [step] = true

theorem StartWith.faultsAt_self {step : Step} {faults : List Fault} (h : StartWith step faults) :
    faultsAt [step] faults = faults :=
  List.filter_eq_self.2 h

theorem StartWith.faultsAt_of_ne {step other : Step} {faults : List Fault}
    (h : StartWith other faults) (hne : step ≠ other) : faultsAt [step] faults = [] := by
  refine List.filter_eq_nil_iff.2 fun fault hfault hat => hne ?_
  obtain ⟨rest, hrest⟩ := Fault.isAt_iff.1 (h fault hfault)
  obtain ⟨rest', hrest'⟩ := Fault.isAt_iff.1 hat
  rw [hrest, List.singleton_append, List.singleton_append, List.cons.injEq] at hrest'
  exact hrest'.1.symm

theorem startWith_map_within (step : Step) (location : List Step) (faults : List Fault) :
    StartWith step (faults.map (Fault.within (step :: location))) := by
  intro fault hfault
  obtain ⟨own, _, rfl⟩ := List.mem_map.1 hfault
  exact Fault.isAt_iff.2 ⟨location ++ own.location, rfl⟩

/-! ## Faults of lists and objects -/

section

variable {α : Type} {check : Check α} {key : String} {default : α}
  {members : List (String × Json)} {items : List Json}

theorem faults_below (step : Step) (checked : Checked Fault α) :
    (below step checked).faults = checked.faults.map (Fault.within [step]) := by
  rw [below, Checked.faults_mapFaults]
  rfl

theorem faults_listOf (check : Check α) (items : List Json) :
    (listOf check (.array items)).faults =
      items.zipIdx.flatMap fun item => (check item.1).faults.map (Fault.within [.index item.2]) := by
  rw [listOf, itemChecks_eq_map, Checked.faults_all, List.flatMap_map]
  simp only [faults_below]

theorem faultsAt_index {i : Nat} {item : Json} (h : items[i]? = some item) :
    faultsAt [.index i] (listOf check (.array items)).faults =
      (check item).faults.map (Fault.within [.index i]) := by
  -- The positions count from any number on, so that the list can be taken apart.
  suffices hfrom : ∀ start, faultsAt [.index (start + i)] ((items.zipIdx start).flatMap fun item =>
      (check item.1).faults.map (Fault.within [.index item.2])) =
        (check item).faults.map (Fault.within [.index (start + i)]) by
    simpa [faults_listOf] using hfrom 0
  intro start
  induction items generalizing i start with
  | nil => cases h
  | cons first rest ih =>
      rw [List.zipIdx_cons, List.flatMap_cons, faultsAt_append]
      cases i with
      | zero =>
          obtain rfl := Option.some.inj h
          have hrest : faultsAt [.index start] ((rest.zipIdx (start + 1)).flatMap fun item =>
              (check item.1).faults.map (Fault.within [.index item.2])) = [] := by
            rw [faultsAt, List.filter_flatMap, List.flatMap_eq_nil_iff]
            intro entry hentry
            have hle := (List.mem_zipIdx hentry).1
            exact (startWith_map_within _ [] _).faultsAt_of_ne (by simp; omega)
          rw [Nat.add_zero, (startWith_map_within _ [] _).faultsAt_self, hrest, List.append_nil]
      | succ i =>
          have hne : Step.index (start + (i + 1)) ≠ .index start := by simp
          have hsum : start + (i + 1) = start + 1 + i := by omega
          rw [(startWith_map_within _ [] _).faultsAt_of_ne hne, List.nil_append, hsum]
          exact ih h (start + 1)

theorem faults_optional {value : Json} (h : Json.member? key members = some value) :
    (optional key default check members).faults =
      (check value).faults.map (Fault.within [.key key]) := by
  rw [optional, h]
  exact faults_below _ _

theorem startWith_optional : StartWith (.key key) (optional key default check members).faults := by
  rw [optional]
  split
  · rw [faults_below]
    exact startWith_map_within _ [] _
  · simp [StartWith]

theorem startWith_required : StartWith (.key key) (required key check members).faults := by
  rw [required]
  split
  · rw [faults_below]
    exact startWith_map_within _ [] _
  · simp [StartWith, Checked.fault, Fault.isAt]

theorem faults_noOtherKeys (expected : List String) (members : List (String × Json)) :
    (noOtherKeys expected members).faults = unknownKeyFaults expected members := by
  rw [noOtherKeys]
  split
  · next h => rw [h, Checked.faults_ok]
  · rfl

theorem faults_objectOf (part : Part) (expected : List String)
    (check : List (String × Json) → Checked Fault α) (members : List (String × Json)) :
    (objectOf part expected check (.object members)).faults =
      (check members).faults ++ unknownKeyFaults expected members := by
  rw [objectOf, Checked.faults_map, Checked.faults_both, faults_noOtherKeys]

theorem faultsAt_unknownKeyFaults {expected : List String} (h : key ∈ expected) :
    faultsAt [.key key] (unknownKeyFaults expected members) = [] := by
  refine List.filter_eq_nil_iff.2 fun fault hfault hat => ?_
  obtain ⟨member, hmember, rfl⟩ := List.mem_map.1 hfault
  obtain ⟨rest, hrest⟩ := Fault.isAt_iff.1 hat
  obtain ⟨hkey, _⟩ := List.cons.inj hrest
  have hunknown := (List.mem_filter.1 hmember).2
  rw [Step.key.injEq] at hkey
  simp [hkey, h] at hunknown

/-- The faults of a list in an object, between faults elsewhere. -/
structure ListsAt (key : String) (check : Check α) (items : List Json)
    (before after faults : List Fault) : Prop where
  eq : faults = before ++ (listOf check (.array items)).faults.map (Fault.within [.key key]) ++ after
  before_eq_nil : faultsAt [.key key] before = []
  after_eq_nil : faultsAt [.key key] after = []

theorem ListsAt.faultsAt_item {before after faults : List Fault}
    (h : ListsAt key check items before after faults) {i : Nat} {item : Json}
    (hitem : items[i]? = some item) :
    faultsAt [.key key, .index i] faults =
      (check item).faults.map (Fault.within [.key key, .index i]) := by
  have hkey : faultsAt [.key key] faults =
      (listOf check (.array items)).faults.map (Fault.within [.key key]) := by
    rw [h.eq, faultsAt_append, faultsAt_append, h.before_eq_nil, h.after_eq_nil,
      (startWith_map_within _ [] _).faultsAt_self, List.nil_append, List.append_nil]
  calc faultsAt ([.key key] ++ [.index i]) faults
    _ = (faultsAt [.index i] (listOf check (.array items)).faults).map
          (Fault.within [.key key]) := faultsAt_append_of_eq hkey _
    _ = ((check item).faults.map (Fault.within [.index i])).map (Fault.within [.key key]) := by
          rw [faultsAt_index hitem]
    _ = (check item).faults.map (Fault.within [.key key, .index i]) := map_within_map_within ..

/-- Elsewhere there are the faults in front of the list alone. -/
theorem ListsAt.faultsAt_of_ne {before after faults : List Fault} {other : String}
    (h : ListsAt key check items before after faults) (hne : other ≠ key)
    (hafter : faultsAt [.key other] after = []) :
    faultsAt [.key other] faults = faultsAt [.key other] before := by
  have hstep : Step.key other ≠ .key key := by simpa using hne
  rw [h.eq, faultsAt_append, faultsAt_append, (startWith_map_within _ [] _).faultsAt_of_ne hstep,
    hafter, List.append_nil, List.append_nil]

theorem ListsAt.eq_flatMap {before after faults : List Fault}
    (h : ListsAt key check items before after faults) :
    faults = before ++ (items.zipIdx.flatMap fun item =>
      faultsAt [.key key, .index item.2] faults) ++ after := by
  have hitems : (listOf check (.array items)).faults.map (Fault.within [.key key]) =
      items.zipIdx.flatMap fun item => faultsAt [.key key, .index item.2] faults := by
    rw [faults_listOf, List.map_flatMap]
    refine List.flatMap_congr fun entry hentry => ?_
    rw [h.faultsAt_item (List.mk_mem_zipIdx_iff_getElem?.1 hentry), map_within_map_within]
    rfl
  rw [← hitems]
  exact h.eq

end

/-! ## The parts of a manifest -/

section

variable {members : List (String × Json)} {items : List Json}

/-- The keys of a superclass besides its arguments. -/
def superclassFaults (members : List (String × Json)) : List Fault :=
  (required "name" string members).faults ++ (optional "kind" .declared typeKind members).faults

theorem listsAt_manifest (h : Json.member? "declarations" members = some (.array items)) :
    ListsAt "declarations" declaration items [] (unknownKeyFaults ["declarations"] members)
      (manifest (.object members)).faults where
  eq := by rw [manifest, faults_objectOf, faults_optional h, List.nil_append]
  before_eq_nil := rfl
  after_eq_nil := faultsAt_unknownKeyFaults (by simp)

theorem listsAt_superclass (h : Json.member? "arguments" members = some (.array items)) :
    ListsAt "arguments" typeArgument items (superclassFaults members)
      (unknownKeyFaults ["name", "kind", "arguments"] members)
      (superclass (.object members)).faults where
  eq := by
    rw [superclass, faults_objectOf, superclassMembers, Checked.faults_map, Checked.faults_both,
      Checked.faults_both, faults_optional h, superclassFaults, List.append_assoc _ _ (List.map ..)]
  before_eq_nil := by
    rw [superclassFaults, faultsAt_append, startWith_required.faultsAt_of_ne (by simp),
      startWith_optional.faultsAt_of_ne (by simp), List.nil_append]
  after_eq_nil := faultsAt_unknownKeyFaults (by simp)

/-- The faults of a superclass stand together among those of its declaration. -/
theorem faults_declaration {inner : List (String × Json)}
    (h : Json.member? "superclass" members = some (.object inner)) :
    ∃ before after, (declaration (.object members)).faults =
        before ++ (superclass (.object inner)).faults.map (Fault.within [.key "superclass"]) ++ after ∧
      faultsAt [.key "superclass"] before = [] ∧ faultsAt [.key "superclass"] after = [] := by
  have hnullable : (nullable superclass (.object inner)).faults =
      (superclass (.object inner)).faults := Checked.faults_map _ _
  refine ⟨(required "module" nonemptyString members).faults ++
      (required "name" nonemptyString members).faults ++
      (optional "type_parameters" [] (listOf string) members).faults,
    (optional "interfaces" [] (listOf string) members).faults ++
      (optional "markers" [] (listOf marker) members).faults ++
      unknownKeyFaults ["module", "name", "type_parameters", "superclass", "interfaces", "markers"]
        members,
    ?_, ?_, ?_⟩
  · rw [declaration, faults_objectOf, declarationMembers, Checked.faults_map]
    simp only [Checked.faults_both, faults_optional h, hnullable, List.append_assoc]
  · rw [faultsAt_append, faultsAt_append, startWith_required.faultsAt_of_ne (by simp),
      startWith_required.faultsAt_of_ne (by simp), startWith_optional.faultsAt_of_ne (by simp)]
    rfl
  · rw [faultsAt_append, faultsAt_append, startWith_optional.faultsAt_of_ne (by simp),
      startWith_optional.faultsAt_of_ne (by simp), faultsAt_unknownKeyFaults (by simp)]
    rfl

end

/-! ## The report on a document -/

/-- What stands against a document. -/
def reported (value : Json) : List Fault := (ofValue value).faults

def reportedAt (location : List Step) (value : Json) : List Fault :=
  faultsAt location (reported value)

theorem reportedAt_append_of_eq {outer : List Step} {value : Json} {own : List Fault}
    (h : reportedAt outer value = own.map (Fault.within outer)) (inner : List Step) :
    reportedAt (outer ++ inner) value = (faultsAt inner own).map (Fault.within outer) :=
  faultsAt_append_of_eq h inner

def entryLocation (i : Nat) : List Step := [.key "declarations", .index i]

def superclassLocation (i : Nat) : List Step := entryLocation i ++ [.key "superclass"]

def argumentLocation (i j : Nat) : List Step :=
  superclassLocation i ++ [.key "arguments", .index j]

/-- A manifest with one entry. -/
def alone (entry : Json) : Json := .object [("declarations", .array [entry])]

theorem valueAt?_append (outer inner : List Step) (value : Json) :
    valueAt? (outer ++ inner) value = (valueAt? outer value).bind (valueAt? inner) := by
  induction outer generalizing value with
  | nil => rfl
  | cons step rest ih =>
      cases step with
      | key name =>
          cases value with
          | object members =>
              rw [List.cons_append, valueAt?, valueAt?, Option.bind_assoc]
              exact Option.bind_congr fun found _ => ih found
          | _ => rfl
      | index position =>
          cases value with
          | array items =>
              rw [List.cons_append, valueAt?, valueAt?, Option.bind_assoc]
              exact Option.bind_congr fun found _ => ih found
          | _ => rfl

theorem valueAt?_key_eq_some_iff {key : String} {value found : Json} :
    valueAt? [.key key] value = some found ↔
      ∃ members, value = .object members ∧ Json.member? key members = some found := by
  cases value <;> simp [valueAt?]

theorem valueAt?_index_eq_some_iff {position : Nat} {value found : Json} :
    valueAt? [.index position] value = some found ↔
      ∃ items, value = .array items ∧ items[position]? = some found := by
  cases value <;> simp [valueAt?]

/-- What is at an entry's location is an entry of the list. -/
theorem exists_of_valueAt?_entry {i : Nat} {value entry : Json}
    (h : valueAt? (entryLocation i) value = some entry) :
    ∃ members entries, value = .object members ∧
      Json.member? "declarations" members = some (.array entries) ∧ entries[i]? = some entry := by
  have happend := valueAt?_append [.key "declarations"] [.index i] value
  obtain ⟨list, hlist, hentry⟩ := Option.bind_eq_some_iff.1 (happend.symm.trans h)
  obtain ⟨members, rfl, hmember⟩ := valueAt?_key_eq_some_iff.1 hlist
  obtain ⟨entries, rfl, hitem⟩ := valueAt?_index_eq_some_iff.1 hentry
  exact ⟨members, entries, rfl, hmember, hitem⟩

theorem reported_object (members : List (String × Json)) :
    reported (.object members) = (manifest (.object members)).faults := by
  rw [reported, ofValue, Checked.faults_map]

theorem reportedAt_entry {i : Nat} {value entry : Json}
    (h : valueAt? (entryLocation i) value = some entry) :
    reportedAt (entryLocation i) value =
      (declaration entry).faults.map (Fault.within (entryLocation i)) := by
  obtain ⟨members, entries, rfl, hentries, hentry⟩ := exists_of_valueAt?_entry h
  rw [reportedAt, reported_object]
  exact (listsAt_manifest hentries).faultsAt_item hentry

theorem exists_of_valueAt?_superclass {i : Nat} {value superclass : Json}
    (h : valueAt? (superclassLocation i) value = some superclass) :
    ∃ entry, valueAt? (entryLocation i) value = some (.object entry) ∧
      Json.member? "superclass" entry = some superclass := by
  rw [superclassLocation, valueAt?_append, Option.bind_eq_some_iff] at h
  obtain ⟨entry, hentry, hsuperclass⟩ := h
  obtain ⟨members, rfl, hmember⟩ := valueAt?_key_eq_some_iff.1 hsuperclass
  exact ⟨members, hentry, hmember⟩

theorem reportedAt_superclass {i : Nat} {value : Json} {members : List (String × Json)}
    (h : valueAt? (superclassLocation i) value = some (.object members)) :
    reportedAt (superclassLocation i) value =
      (superclass (.object members)).faults.map (Fault.within (superclassLocation i)) := by
  obtain ⟨entry, hentry, hmember⟩ := exists_of_valueAt?_superclass h
  obtain ⟨before, after, hfaults, hbefore, hafter⟩ := faults_declaration hmember
  have hown : faultsAt [.key "superclass"] (declaration (.object entry)).faults =
      (superclass (.object members)).faults.map (Fault.within [.key "superclass"]) := by
    rw [hfaults, faultsAt_append, faultsAt_append, hbefore, hafter,
      (startWith_map_within _ [] _).faultsAt_self, List.nil_append, List.append_nil]
  rw [superclassLocation, reportedAt_append_of_eq (reportedAt_entry hentry), hown,
    map_within_map_within]

theorem infix_reported {i : Nat} {value entry : Json}
    (h : valueAt? (entryLocation i) value = some entry) :
    (declaration entry).faults.map (Fault.within (entryLocation i)) <:+: reported value := by
  have hentry := reportedAt_entry h
  obtain ⟨members, entries, rfl, hentries, hitem⟩ := exists_of_valueAt?_entry h
  have hmem : (entry, i) ∈ entries.zipIdx := List.mk_mem_zipIdx_iff_getElem?.2 hitem
  have hitems := List.infix_of_mem_flatten (List.mem_map_of_mem (f := fun item : Json × Nat =>
    reportedAt (entryLocation item.2) (.object members)) hmem)
  have hall := (listsAt_manifest hentries).eq_flatMap
  rw [← reported_object, List.nil_append, List.flatMap_def] at hall
  rw [← hentry, hall]
  exact hitems.trans (List.prefix_append _ _).isInfix

/-- The faults at a superclass stand together in the report. -/
theorem infix_reported_superclass {i : Nat} {value : Json} {members : List (String × Json)}
    (h : valueAt? (superclassLocation i) value = some (.object members)) :
    (superclass (.object members)).faults.map (Fault.within (superclassLocation i)) <:+:
      reported value := by
  obtain ⟨entry, hentry, hmember⟩ := exists_of_valueAt?_superclass h
  obtain ⟨before, after, hfaults, _, _⟩ := faults_declaration hmember
  have hown : (superclass (.object members)).faults.map (Fault.within [.key "superclass"]) <:+:
      (declaration (.object entry)).faults := ⟨before, after, hfaults.symm⟩
  have hwhole := (hown.map (Fault.within (entryLocation i))).trans (infix_reported hentry)
  rwa [map_within_map_within] at hwhole

theorem reportedAt_argument {i j : Nat} {value argument : Json} {members : List (String × Json)}
    {arguments : List Json} (h : valueAt? (superclassLocation i) value = some (.object members))
    (harguments : Json.member? "arguments" members = some (.array arguments))
    (hargument : arguments[j]? = some argument) :
    reportedAt (argumentLocation i j) value =
      (typeArgument argument).faults.map (Fault.within (argumentLocation i j)) := by
  rw [argumentLocation, reportedAt_append_of_eq (reportedAt_superclass h),
    (listsAt_superclass harguments).faultsAt_item hargument, map_within_map_within]

/-! ## Arguments without a name -/

theorem exists_of_mem_faults_optional {α : Type} {check : Check α} {key : String} {default : α}
    {members : List (String × Json)} {fault : Fault}
    (h : fault ∈ (optional key default check members).faults) :
    ∃ value, ∃ own ∈ (check value).faults, fault = own.within [.key key] := by
  rw [optional] at h
  split at h
  · next value _ =>
      rw [faults_below] at h
      obtain ⟨own, hown, rfl⟩ := List.mem_map.1 h
      exact ⟨value, own, hown, rfl⟩
  · cases h

/-- The members of an argument do not say that a name is needed. -/
theorem code_ne_of_mem_faults_typeArgumentMembers {members : List (String × Json)} {fault : Fault}
    (h : fault ∈ (objectOf .typeArgument ["kind", "name"] typeArgumentMembers
      (.object members)).faults) : fault.cause.code ≠ "value_error" := by
  rw [faults_objectOf, typeArgumentMembers, Checked.faults_map, Checked.faults_both,
    List.mem_append, List.mem_append] at h
  rcases h with (hkind | hname) | hunknown
  · obtain ⟨value, own, hown, rfl⟩ := exists_of_mem_faults_optional hkind
    have hcause : own.cause = .notAKind := by
      rw [typeKind, oneOf.eq_def] at hown
      split at hown
      · split at hown
        · cases hown
        · rw [List.mem_singleton.1 hown]
      · rw [List.mem_singleton.1 hown]
    simp [Fault.within, hcause, Cause.code]
  · obtain ⟨value, own, hown, rfl⟩ := exists_of_mem_faults_optional hname
    have hcause : own.cause = .notAString := by
      cases value with
      | null | string => cases hown
      | _ => rw [List.mem_singleton.1 hown]
    simp [Fault.within, hcause, Cause.code]
  · obtain ⟨member, _, rfl⟩ := List.mem_map.1 hunknown
    simp [Cause.code]

/-- That a name is needed is the only fault of an argument. -/
theorem faults_typeArgument_of_code {argument : Json} {fault : Fault}
    (h : fault ∈ (typeArgument argument).faults) (hcode : fault.cause.code = "value_error") :
    (typeArgument argument).faults = [fault] ∧ fault.location = [] := by
  cases argument with
  | object members =>
      cases hchecked : objectOf .typeArgument ["kind", "name"] typeArgumentMembers
          (.object members) with
      | error faults =>
          rw [typeArgument, hchecked] at h
          have hmem : fault ∈ (objectOf .typeArgument ["kind", "name"] typeArgumentMembers
              (.object members)).faults := by
            rw [hchecked]
            exact h
          exact absurd hcode (code_ne_of_mem_faults_typeArgumentMembers hmem)
      | ok argument =>
          rw [typeArgument, hchecked, Except.bind, named] at h ⊢
          split at h
          · cases h
          · next hnamed =>
              rw [List.mem_singleton.1 h, if_neg hnamed]
              exact ⟨rfl, rfl⟩
  | _ =>
      rw [List.mem_singleton.1 h] at hcode
      exact absurd hcode (by decide)

/-! ## The number in the message -/

/-- A message that tells this number of faults. -/
def Counts (count : Nat) (message : String) : Prop :=
  ∃ rest, message = "Invalid declaration manifest: " ++ toString count ++ " validation " ++ rest

theorem takeWhile_toString (n : Nat) (rest : String) :
    (toString n ++ (" validation " ++ rest)).toList.takeWhile Char.isDigit =
      (toString n).toList := by
  have hdigits : ∀ c ∈ (toString n).toList, c.isDigit = true :=
    fun _ => Text.isDigit_of_mem_toString
  have hspace : " validation ".toList = ' ' :: "validation ".toList := by decide
  rw [String.toList_append, List.takeWhile_append_of_pos hdigits, String.toList_append, hspace,
    List.cons_append, List.takeWhile_cons_of_neg (by decide), List.append_nil]

/-- The number in the message is the number of faults. -/
theorem counts_summary_iff {count : Nat} {faults : List Fault} :
    Counts count (summary faults) ↔ count = faults.length := by
  obtain ⟨rest, hrest⟩ : ∃ rest, summary faults = "Invalid declaration manifest: " ++
      (toString faults.length ++ (" validation " ++ rest)) := by
    refine ⟨(if faults.length = 1 then "error" else "errors") ++
      (" for " ++ Part.manifest.title), ?_⟩
    unfold summary
    simp only [String.append_assoc]
  simp only [Counts, String.append_assoc, hrest]
  constructor
  · rintro ⟨other, hother⟩
    have htexts := congrArg (fun text : String => text.toList.takeWhile Char.isDigit)
      ((String.append_right_inj _).1 hother)
    simp only [takeWhile_toString] at htexts
    exact (Text.toString_injective (String.toList_injective htexts)).symm
  · rintro rfl
    exact ⟨rest, rfl⟩

/-! ## Item by item -/

/-- The report on a superclass with a list of arguments. -/
structure ReportsArguments (value : Json) (i : Nat) (members : List (String × Json))
    (arguments : List Json) : Prop where
  contiguous : reportedAt (superclassLocation i) value <:+: reported value
  /-- The arguments come in the order of the list, and the keys that are not expected come last. -/
  eq : reportedAt (superclassLocation i) value =
    reportedAt (superclassLocation i ++ [.key "name"]) value ++
      reportedAt (superclassLocation i ++ [.key "kind"]) value ++
      (arguments.zipIdx.flatMap fun argument =>
        reportedAt (argumentLocation i argument.2) value) ++
      (unknownKeyFaults ["name", "kind", "arguments"] members).map
        (Fault.within (superclassLocation i))
  /-- An argument has the faults that it has wherever it is the only argument. -/
  alone : ∀ (j : Nat) (argument other : Json) (k : Nat), arguments[j]? = some argument →
    valueAt? (superclassLocation k ++ [.key "arguments"]) other = some (.array [argument]) →
    reportedAt (argumentLocation i j) value =
      (reportedAt (argumentLocation k 0) other).map
        (Fault.moved (argumentLocation k 0) (argumentLocation i j))
  unnamed : ∀ (j : Nat) (argument : Json), arguments[j]? = some argument →
    ∀ fault ∈ reportedAt (argumentLocation i j) value, fault.cause.code = "value_error" →
      reportedAt (argumentLocation i j) value = [fault] ∧ fault.location = argumentLocation i j

/-- The report on an object with a list of declarations. -/
structure ReportsEntries (members : List (String × Json)) (entries : List Json) : Prop where
  /-- The entries come in the order of the list, and the keys that are not expected come last. -/
  eq : reported (.object members) =
    (entries.zipIdx.flatMap fun entry => reportedAt (entryLocation entry.2) (.object members)) ++
      unknownKeyFaults ["declarations"] members
  /-- An entry has the faults that it has as the only entry. -/
  alone : ∀ (i : Nat) (entry : Json), entries[i]? = some entry →
    reportedAt (entryLocation i) (.object members) =
      (reported (alone entry)).map (Fault.moved (entryLocation 0) (entryLocation i))
  superclass : ∀ (i : Nat) (inner : List (String × Json)) (arguments : List Json),
    valueAt? (superclassLocation i) (.object members) = some (.object inner) →
    Json.member? "arguments" inner = some (.array arguments) →
    ReportsArguments (.object members) i inner arguments
  located : ∀ fault ∈ reported (.object members), fault.LocatedIn (.object members)
  eq_nil_iff : reported (.object members) = [] ↔ ∃ graph, ofValue (.object members) = .ok graph
  counts_iff : ∀ count, Counts count (failure (reported (.object members))).message ↔
    count = (reported (.object members)).length

theorem reportsArguments {i : Nat} {value : Json} {members : List (String × Json)}
    {arguments : List Json} (h : valueAt? (superclassLocation i) value = some (.object members))
    (harguments : Json.member? "arguments" members = some (.array arguments)) :
    ReportsArguments value i members arguments where
  contiguous := by
    rw [reportedAt_superclass h]
    exact infix_reported_superclass h
  eq := by
    have hlists := listsAt_superclass harguments
    have hname : faultsAt [.key "name"] (superclass (.object members)).faults =
        (required "name" string members).faults := by
      rw [hlists.faultsAt_of_ne (by simp) (faultsAt_unknownKeyFaults (by simp)), superclassFaults,
        faultsAt_append, startWith_required.faultsAt_self,
        startWith_optional.faultsAt_of_ne (by simp), List.append_nil]
    have hkind : faultsAt [.key "kind"] (superclass (.object members)).faults =
        (optional "kind" .declared typeKind members).faults := by
      rw [hlists.faultsAt_of_ne (by simp) (faultsAt_unknownKeyFaults (by simp)), superclassFaults,
        faultsAt_append, startWith_required.faultsAt_of_ne (by simp),
        startWith_optional.faultsAt_self, List.nil_append]
    have hown := reportedAt_append_of_eq (reportedAt_superclass h)
    have hitems : ∀ item ∈ arguments.zipIdx,
        (faultsAt [.key "arguments", .index item.2] (superclass (.object members)).faults).map
          (Fault.within (superclassLocation i)) =
        reportedAt (argumentLocation i item.2) value :=
      fun item _ => (hown _).symm
    rw [reportedAt_superclass h, hown, hown, hname, hkind, hlists.eq_flatMap, List.map_append,
      List.map_append, superclassFaults, List.map_append, List.map_flatMap,
      List.flatMap_congr hitems]
  alone := by
    intro j argument other k hargument hother
    rw [valueAt?_append, Option.bind_eq_some_iff] at hother
    obtain ⟨superclass, hsuperclass, hlist⟩ := hother
    obtain ⟨inner, rfl, hinner⟩ := valueAt?_key_eq_some_iff.1 hlist
    rw [reportedAt_argument h harguments hargument, reportedAt_argument hsuperclass hinner rfl,
      map_moved_map_within]
  unnamed := by
    intro j argument hargument fault hfault hcode
    rw [reportedAt_argument h harguments hargument] at hfault ⊢
    obtain ⟨own, hown, rfl⟩ := List.mem_map.1 hfault
    obtain ⟨hfaults, hlocation⟩ := faults_typeArgument_of_code hown hcode
    rw [hfaults]
    exact ⟨rfl, by rw [Fault.within, hlocation, List.append_nil]⟩

theorem reported_eq_flatMap {members : List (String × Json)} {entries : List Json}
    (h : Json.member? "declarations" members = some (.array entries)) :
    reported (.object members) =
      (entries.zipIdx.flatMap fun entry => reportedAt (entryLocation entry.2) (.object members)) ++
        unknownKeyFaults ["declarations"] members := by
  have hlists := (listsAt_manifest h).eq_flatMap
  rwa [← reported_object, List.nil_append] at hlists

theorem reported_alone (entry : Json) :
    reported (alone entry) = (declaration entry).faults.map (Fault.within (entryLocation 0)) := by
  have hmember : Json.member? "declarations" [("declarations", .array [entry])] =
      some (.array [entry]) := rfl
  have hreported := reported_eq_flatMap hmember
  rw [List.zipIdx_singleton, List.flatMap_singleton, reportedAt_entry rfl] at hreported
  exact hreported.trans (List.append_nil _)

/-- The faults of a manifest are told item by item, and each is told as if there was no other item.
-/
theorem reportsEntries {members : List (String × Json)} {entries : List Json}
    (h : Json.member? "declarations" members = some (.array entries)) :
    ReportsEntries members entries where
  eq := reported_eq_flatMap h
  alone := by
    intro i entry hentry
    have hwhole : valueAt? (entryLocation i) (.object members) = some entry := by
      rw [entryLocation, valueAt?, h, Option.bind_some, valueAt?, hentry]
      rfl
    rw [reportedAt_entry hwhole, reported_alone, map_moved_map_within]
  superclass := fun i inner arguments hsuperclass harguments =>
    reportsArguments hsuperclass harguments
  located := by
    intro fault hfault
    cases hchecked : ofValue (.object members) with
    | ok graph =>
        rw [reported, hchecked] at hfault
        cases hfault
    | error faults =>
        rw [reported, hchecked] at hfault
        exact (located_ofValue _ faults hchecked).2 fault hfault
  eq_nil_iff := by
    rw [reported]
    cases hchecked : ofValue (.object members) with
    | ok graph => simp
    | error faults => simp [(located_ofValue _ faults hchecked).1]
  counts_iff count := counts_summary_iff

end Manifest

namespace FaultyManifest

open Manifest

/-- A declaration with faults of its own, in its superclass and in two arguments; something that is
not a declaration; and a declaration without faults. -/
def entries : List Json :=
  [.object
      [("superclass", .object
        [("owner", .null),
          ("arguments", .array
            [.object [("name", .null)],
              .object [("owner", .null), ("name", .bool true), ("kind", .null)],
              .object [("kind", .string "wildcard")]])]),
        ("module", .string "")],
    .null,
    .object [("module", .string "app"), ("name", .string "HomeScreen")]]

def members : List (String × Json) :=
  [("version", .number (.whole 1)), ("declarations", .array entries)]

def faults : List Fault :=
  [{ location := entryLocation 0 ++ [.key "module"], cause := .emptyString },
    { location := entryLocation 0 ++ [.key "name"], cause := .missing },
    { location := superclassLocation 0 ++ [.key "name"], cause := .missing },
    { location := argumentLocation 0 0, cause := .unnamedArgument .declared },
    { location := argumentLocation 0 1 ++ [.key "kind"], cause := .notAKind },
    { location := argumentLocation 0 1 ++ [.key "name"], cause := .notAString },
    { location := argumentLocation 0 1 ++ [.key "owner"], cause := .unknownKey },
    { location := superclassLocation 0 ++ [.key "owner"], cause := .unknownKey },
    { location := entryLocation 1, cause := .notAnObject .declaration },
    { location := [.key "version"], cause := .unknownKey }]

theorem reportsEntries_faulty :
    Json.member? "declarations" members = some (.array entries) ∧
      reported (.object members) = faults ∧ ReportsEntries members entries := by
  have hmember : Json.member? "declarations" members = some (.array entries) := rfl
  exact ⟨hmember, by decide, reportsEntries hmember⟩

end FaultyManifest

end OwnerBinding
