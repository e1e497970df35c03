import OwnerBinding.Proofs.Manifest.Reading

/-!
# Manifests written from declarations

Declarations are written as a manifest with every key of every part (`Manifest.ofDeclarations`).
Such a manifest is read back as these declarations, in their order and with repetitions, exactly if
each of them can stand in a manifest at all (`Declaration.IsListable`).

With that, `ofDocument_eq_ok_iff_lists` says what is read from any document: a value is a manifest or
is refused, and a string is taken for the text of a value.
-/

namespace OwnerBinding

/-- A type argument has a name, unless it is a wildcard. -/
def TypeArgument.IsListable (argument : TypeArgument) : Prop :=
  argument.kind ≠ .wildcard → ∃ name, argument.name = some name ∧ name ≠ ""

/-- A declaration that can stand in a manifest. -/
structure Declaration.IsListable (d : Declaration) : Prop where
  module_ne : d.module ≠ ""
  name_ne : d.name ≠ ""
  arguments : ∀ superclass, d.superclass = some superclass →
    ∀ argument ∈ superclass.arguments, argument.IsListable

namespace Manifest

def ofTexts (texts : List String) : Json := .array (texts.map .string)

/-- A value that need not be there, written as null if it is not. -/
def ofOption {α : Type} (write : α → Json) (a : Option α) : Json := (a.map write).getD .null

def ofTypeArgument (argument : TypeArgument) : Json :=
  .object [("kind", .string argument.kind.word), ("name", ofOption .string argument.name)]

def ofSuperclass (superclass : Superclass) : Json :=
  .object [("name", .string superclass.name), ("kind", .string superclass.kind.word),
    ("arguments", .array (superclass.arguments.map ofTypeArgument))]

def ofDeclaration (d : Declaration) : Json :=
  .object [("module", .string d.module), ("name", .string d.name),
    ("type_parameters", ofTexts d.typeParameters),
    ("superclass", ofOption ofSuperclass d.superclass),
    ("interfaces", ofTexts d.interfaces.toList),
    ("markers", ofTexts (d.markers.toList.map OwnerKind.marker))]

/-- The manifest that lists declarations, with no key left out. -/
def ofDeclarations (declarations : List Declaration) : Json :=
  .object [("declarations", .array (declarations.map ofDeclaration))]

theorem textMeans_string (text : String) : TextMeans (.string text) text := rfl

theorem markerMeans_string (kind : OwnerKind) : MarkerMeans (.string kind.marker) kind := rfl

section

variable {α : Type} {shape : Json → Prop} {means : Json → α → Prop}

theorem isListOf_map (write : α → Json) (as : List α) :
    IsListOf shape (.array (as.map write)) ↔ ∀ a ∈ as, shape (write a) := by
  simp [IsListOf]

theorem listMeans_map {write : α → Json} (h : ∀ a, means (write a) a) (as : List α) :
    ListMeans means (.array (as.map write)) as := by
  refine ⟨as.map write, rfl, ?_⟩
  rw [List.forall₂_map_left_iff, List.forall₂_same]
  exact fun a _ => h a

theorem isListOf_ofTexts (texts : List String) : IsListOf IsText (ofTexts texts) := by
  rw [ofTexts, isListOf_map]
  exact fun text _ => ⟨text, rfl⟩

theorem listMeans_ofTexts (texts : List String) : ListMeans TextMeans (ofTexts texts) texts :=
  listMeans_map textMeans_string texts

theorem nullableMeans_ofOption {write : α → Json} (h : ∀ a, means (write a) a) (a : Option α) :
    NullableMeans means (ofOption write a) a := by
  cases a with
  | none => rfl
  | some a => exact h a

end

theorem objectMeans_ofTypeArgument (argument : TypeArgument) :
    ObjectMeans ArgumentMeans (ofTypeArgument argument) argument := by
  have hname := nullableMeans_ofOption textMeans_string argument.name
  exact ⟨_, rfl, by simp [MemberMeansOr, Json.member?_cons, KindMeans],
    by simpa [MemberMeansOr, Json.member?_cons] using hname⟩

theorem objectMeans_ofSuperclass (superclass : Superclass) :
    ObjectMeans SuperclassMeans (ofSuperclass superclass) superclass := by
  have harguments := listMeans_map objectMeans_ofTypeArgument superclass.arguments
  exact ⟨_, rfl, by simp [MemberMeans, Json.member?_cons, TextMeans],
    by simp [MemberMeansOr, Json.member?_cons, KindMeans],
    by simpa [MemberMeansOr, Json.member?_cons] using harguments⟩

theorem objectMeans_ofDeclaration (d : Declaration) :
    ObjectMeans DeclarationMeans (ofDeclaration d) d := by
  have htypeParameters := listMeans_ofTexts d.typeParameters
  have hsuperclass := nullableMeans_ofOption objectMeans_ofSuperclass d.superclass
  have hinterfaces := listMeans_ofTexts d.interfaces.toList
  have hmarkers : ListMeans MarkerMeans (ofTexts (d.markers.toList.map OwnerKind.marker))
      d.markers.toList := by
    rw [ofTexts, List.map_map]
    exact listMeans_map markerMeans_string _
  refine ⟨_, rfl, ?_, ?_, ?_, ?_, ⟨d.interfaces.toList, ?_, fun _ => Iff.rfl⟩,
    ⟨d.markers.toList, ?_, ?_⟩⟩
  · simp [MemberMeans, Json.member?_cons, TextMeans]
  · simp [MemberMeans, Json.member?_cons, TextMeans]
  · simpa [MemberMeansOr, Json.member?_cons] using htypeParameters
  · simpa [MemberMeansOr, Json.member?_cons] using hsuperclass
  · simpa [MemberMeansOr, Json.member?_cons] using hinterfaces
  · simpa [MemberMeansOr, Json.member?_cons] using hmarkers
  · intro kind
    cases kind <;> simp [MarkerSet.toList, OwnerKind.all, Declaration.isMarked]

theorem lists_ofDeclarations (declarations : List Declaration) :
    Lists (ofDeclarations declarations) declarations :=
  ⟨_, rfl, listMeans_map objectMeans_ofDeclaration declarations⟩

theorem isTypeArgument_ofTypeArgument_iff (argument : TypeArgument) :
    IsTypeArgument (ofTypeArgument argument) ↔ argument.IsListable := by
  obtain ⟨kind, name⟩ := argument
  have hkind : kind.word = "wildcard" ↔ kind = .wildcard := by cases kind <;> decide
  have hname : (∃ value, ofOption Json.string name = value ∧ IsNonemptyText value) ↔
      ∃ text, name = some text ∧ text ≠ "" := by
    cases name <;> simp [ofOption, IsNonemptyText]
  constructor
  · rintro ⟨members, heq, _, hshape⟩ hwildcard
    obtain rfl := Json.object.inj heq
    have hnamed := hshape.named
    simp only [Json.member?_cons, Has, String.reduceEq, ↓reduceIte, Option.some.injEq,
      Json.string.injEq, ne_eq, hkind, hname] at hnamed
    exact hnamed hwildcard
  · intro h
    refine ⟨_, rfl, by simp, ?_, ?_, ?_⟩
    · simp [MayHave, Json.member?_cons, IsKind]
    · cases name <;> simp [MayHave, Json.member?_cons, ofOption, IsNullOr, IsText]
    · simp only [Json.member?_cons, Has, String.reduceEq, ↓reduceIte, Option.some.injEq,
        Json.string.injEq, ne_eq, hkind, hname]
      exact h

theorem isSuperclass_ofSuperclass_iff (superclass : Superclass) :
    IsSuperclass (ofSuperclass superclass) ↔
      ∀ argument ∈ superclass.arguments, argument.IsListable := by
  have harguments : IsListOf IsTypeArgument (.array (superclass.arguments.map ofTypeArgument)) ↔
      ∀ argument ∈ superclass.arguments, argument.IsListable := by
    simp only [isListOf_map, isTypeArgument_ofTypeArgument_iff]
  rw [← harguments]
  constructor
  · rintro ⟨members, heq, _, hshape⟩
    obtain rfl := Json.object.inj heq
    exact hshape.arguments _ (by simp [Json.member?_cons])
  · intro h
    refine ⟨_, rfl, by simp, ?_, ?_, ?_⟩
    · simp [Has, Json.member?_cons, IsText]
    · simp [MayHave, Json.member?_cons, IsKind]
    · simpa [MayHave, Json.member?_cons] using h

theorem isDeclaration_ofDeclaration_iff (d : Declaration) :
    IsDeclaration (ofDeclaration d) ↔ d.IsListable := by
  have hsuperclass : IsNullOr IsSuperclass (ofOption ofSuperclass d.superclass) ↔
      ∀ superclass, d.superclass = some superclass →
        ∀ argument ∈ superclass.arguments, argument.IsListable := by
    cases d.superclass with
    | none => simp [ofOption, IsNullOr]
    | some superclass =>
        rw [IsNullOr, ofOption, Option.map_some, Option.getD_some, isSuperclass_ofSuperclass_iff]
        simp [ofSuperclass]
  constructor
  · rintro ⟨members, heq, _, hshape⟩
    obtain rfl := Json.object.inj heq
    refine ⟨?_, ?_, hsuperclass.1 (hshape.superclass _ (by simp [Json.member?_cons]))⟩
    · simpa [Has, Json.member?_cons, IsNonemptyText] using hshape.module
    · simpa [Has, Json.member?_cons, IsNonemptyText] using hshape.name
  · intro h
    have hmarkers : IsListOf IsMarker (ofTexts (d.markers.toList.map OwnerKind.marker)) := by
      rw [ofTexts, List.map_map, isListOf_map]
      exact fun kind _ => ⟨kind, rfl⟩
    refine ⟨_, rfl, by simp, ?_, ?_, ?_, ?_, ?_, ?_⟩
    · simpa [Has, Json.member?_cons, IsNonemptyText] using h.module_ne
    · simpa [Has, Json.member?_cons, IsNonemptyText] using h.name_ne
    · simpa [MayHave, Json.member?_cons] using isListOf_ofTexts d.typeParameters
    · simpa [MayHave, Json.member?_cons] using hsuperclass.2 h.arguments
    · simpa [MayHave, Json.member?_cons] using isListOf_ofTexts d.interfaces.toList
    · simpa [MayHave, Json.member?_cons] using hmarkers

theorem isManifest_ofDeclarations_iff (declarations : List Declaration) :
    IsManifest (ofDeclarations declarations) ↔ ∀ d ∈ declarations, d.IsListable := by
  have hlist : IsListOf IsDeclaration (.array (declarations.map ofDeclaration)) ↔
      ∀ d ∈ declarations, d.IsListable := by
    simp only [isListOf_map, isDeclaration_ofDeclaration_iff]
  rw [← hlist]
  constructor
  · rintro ⟨members, heq, _, hshape⟩
    obtain rfl := Json.object.inj heq
    exact hshape _ (by simp [Json.member?_cons])
  · intro h
    refine ⟨_, rfl, by simp, ?_⟩
    simpa [MayHave, Json.member?_cons] using h

/-- The value that a document stands for: a string is the text of a value. -/
def documentValue? : Json → Option Json
  | .string text => Json.read Json.depthLimit text
  | value => some value

theorem ofDocument_eq_ofRead (document : Json) :
    (ofDocument document).2 = ofRead (documentValue? document) := by
  cases document <;> rfl

theorem ofRead_eq_ok_iff (read : Option Json) (graph : DeclarationGraph) :
    ofRead read = .ok graph ↔ ∃ value, read = some value ∧ ofValue value = .ok graph := by
  cases read with
  | none => simp [ofRead, faultHere, Checked.fault]
  | some value => simp [ofRead]

/-- A document is read exactly if it stands for a manifest, and what is read is what the manifest
lists. All declarations that can stand in a manifest are read back from the one written for them. -/
theorem ofDocument_eq_ok_iff_lists :
    (∀ document, (∃ graph, (ofDocument document).2 = .ok graph) ↔
      ∃ value, documentValue? document = some value ∧ IsManifest value) ∧
    (∀ document graph, (ofDocument document).2 = .ok graph ↔
      ∃ value, documentValue? document = some value ∧ IsManifest value ∧
        Lists value graph.declarations) ∧
    ∀ declarations, (ofDocument (ofDeclarations declarations)).2 = .ok { declarations } ↔
      ∀ d ∈ declarations, d.IsListable := by
  refine ⟨?_, ?_, ?_⟩
  · intro document
    simp only [ofDocument_eq_ofRead, ofRead_eq_ok_iff, ← exists_ofValue_eq_ok_iff]
    constructor
    · rintro ⟨graph, value, hvalue, hgraph⟩
      exact ⟨value, hvalue, graph, hgraph⟩
    · rintro ⟨value, hvalue, graph, hgraph⟩
      exact ⟨graph, value, hvalue, hgraph⟩
  · intro document graph
    simp only [ofDocument_eq_ofRead, ofRead_eq_ok_iff, ofValue_eq_ok_iff]
  · intro declarations
    rw [ofDocument_eq_ofRead]
    change ofValue (ofDeclarations declarations) = _ ↔ _
    rw [ofValue_eq_ok_iff, isManifest_ofDeclarations_iff]
    exact and_iff_left (lists_ofDeclarations declarations)

/-- A string is accepted for its text, although it is not an object. -/
theorem string_accepted_for_text :
    (ofDocument (.string "\x7b\x7d")).2 = .ok { declarations := [] } ∧
      ¬ IsManifest (.string "\x7b\x7d") := by
  refine ⟨by decide, ?_⟩
  rintro ⟨members, heq, _⟩
  cases heq

end Manifest

end OwnerBinding
