import OwnerBinding.Proofs.Factory.Listing
import OwnerBinding.Proofs.Text.NameSet

/-!
# Associations in another order

A factory module is put together from blocks, and its methods within the class from blocks of their
own (`FactoryModule.source_eq_methodBlocks`). This holds for all names: a margin in front of joined
blocks is a margin in front of each of them, whatever line breaks they have.

In a method there is one block for each entry among the overloads and one among the branches. No
other block says anything about the order of the entries, and those two are the same texts wherever
the entry stands: the aliases follow the set of the modules alone. So the text for associations in
another order is the same but for these blocks, which move as the entries do
(`Generation.render_reordered`).
-/

namespace OwnerBinding

/-! ## The blocks of a method in the class -/

namespace DispatchMethod

/-- The overload of a branch, with an empty line behind it. -/
def overloadBlock (method : DispatchMethod) (branch : Branch) : String :=
  Text.indent margin (Text.joinLines (method.overloadLines branch))

def overloadBlocks (method : DispatchMethod) : List String :=
  if method.isOverloaded then method.branches.map method.overloadBlock else []

/-- The decorated signature and the docstring. -/
def signatureBlock (method : DispatchMethod) : String :=
  Text.indent margin (Text.joinLines method.headLines)

/-- The test of a branch and the call behind it. -/
def branchBlock (branch : Branch) : String :=
  Text.indent margin (Text.indent margin (Text.joinLines branch.bodyLines))

def branchBlocks (method : DispatchMethod) : List String := method.branches.map branchBlock

/-- The failure behind the branches. -/
def failureLines (method : DispatchMethod) : List String :=
  ["msg = f\"Binder not found for \x7bview_owner!r\x7d\"",
    "raise " ++ method.failure.text ++ "(msg)"]

def failureBlock (method : DispatchMethod) : String :=
  Text.indent margin (Text.indent margin (Text.joinLines method.failureLines))

def blocks (method : DispatchMethod) : List String :=
  method.overloadBlocks ++ [method.signatureBlock] ++ method.branchBlocks ++ [method.failureBlock]

/-- The lines of the body, branch by branch. -/
def bodyParts (method : DispatchMethod) : List (List String) :=
  method.branches.map Branch.bodyLines ++ [method.failureLines]

/-- The lines of the method, block by block. The body is one block here. -/
def parts (method : DispatchMethod) : List (List String) :=
  (if method.isOverloaded then method.branches.map method.overloadLines else []) ++
    [method.headLines, [Text.indent margin (Text.joinLines method.bodyLines)]]

theorem joinLines_bodyLines (method : DispatchMethod) :
    Text.joinLines method.bodyLines = Text.joinLines (method.bodyParts.map Text.joinLines) := by
  have hparts : ∀ part ∈ method.bodyParts, part ≠ [] := by
    intro part hpart
    rcases List.mem_append.1 hpart with hbranch | hfailure
    · obtain ⟨branch, _, rfl⟩ := List.mem_map.1 hbranch
      simp [Branch.bodyLines]
    · rw [List.mem_singleton.1 hfailure]
      simp [failureLines]
  rw [Text.joinLines_map_joinLines hparts, bodyParts, List.flatten_append, List.flatten_singleton,
    ← List.flatMap_def]
  rfl

theorem text_eq_parts (method : DispatchMethod) :
    method.text = Text.joinLines (method.parts.map Text.joinLines) := by
  have hparts : ∀ part ∈ method.parts, part ≠ [] := by
    intro part hpart
    simp only [parts, List.mem_append, List.mem_cons, List.not_mem_nil, or_false] at hpart
    rcases hpart with hpart | rfl | rfl
    · split at hpart
      · obtain ⟨branch, _, rfl⟩ := List.mem_map.1 hpart
        simp [overloadLines]
      · cases hpart
    · exact method.headLines_ne_nil
    · simp
  have hflatten : method.parts.flatten = method.overloads ++ method.headLines ++
      [Text.indent margin (Text.joinLines method.bodyLines)] := by
    by_cases h : method.isOverloaded <;> simp [parts, overloads, h, List.flatMap_def]
  rw [text_eq_blocks, Text.joinLines_map_joinLines hparts, hflatten]

theorem indent_body_eq (method : DispatchMethod) :
    Text.indent margin (Text.indent margin (Text.joinLines method.bodyLines)) =
      Text.joinLines (method.branchBlocks ++ [method.failureBlock]) := by
  have hblocks : ((method.bodyParts.map Text.joinLines).map (Text.indent margin)).map
      (Text.indent margin) = method.branchBlocks ++ [method.failureBlock] := by
    simp only [bodyParts, List.map_append, List.map_map, List.map_cons, List.map_nil]
    rfl
  rw [joinLines_bodyLines, Text.indent_joinLines, Text.indent_joinLines, hblocks]

theorem indent_text_eq_blocks (method : DispatchMethod) :
    Text.indent margin method.text = Text.joinLines method.blocks := by
  have hparts : (method.parts.map Text.joinLines).map (Text.indent margin) =
      method.overloadBlocks ++ [method.signatureBlock] ++
        [Text.joinLines (method.branchBlocks ++ [method.failureBlock])] := by
    rw [← indent_body_eq]
    by_cases h : method.isOverloaded <;>
      simp [parts, overloadBlocks, overloadBlock, signatureBlock, h]
  have hhead : method.overloadBlocks ++ [method.signatureBlock] ≠ [] := by simp
  rw [text_eq_parts, Text.indent_joinLines, hparts, Text.joinLines_append hhead (by simp),
    Text.joinLines_singleton, ← Text.joinLines_append hhead (by simp), blocks,
    List.append_assoc _ _ [method.failureBlock]]

end DispatchMethod

/-! ## The blocks of a module -/

namespace FactoryModule

/-- The class without its methods. -/
def classHead (m : FactoryModule) : String := Text.joinLines m.classLines

/-- The list of what the module exports. -/
def exportLine (m : FactoryModule) : String := "__all__ = [\"" ++ m.options.className ++ "\"]"

theorem classBlock_eq_methodBlocks (m : FactoryModule) :
    m.classBlock = Text.joinLines
      [m.classHead, Text.joinLines m.fragment.blocks, "", Text.joinLines m.activity.blocks] := by
  have hne : ∀ part ∈ [m.classLines, [Text.indent margin m.fragment.text], [""],
      [Text.indent margin m.activity.text]], part ≠ [] := by simp [classLines]
  have hjoin := Text.joinLines_map_joinLines hne
  simp only [List.map_cons, List.map_nil, Text.joinLines_singleton] at hjoin
  rw [classBlock_eq_blocks, ← DispatchMethod.indent_text_eq_blocks,
    ← DispatchMethod.indent_text_eq_blocks, classHead, hjoin]
  rfl

/-- A module is its docstring, its imports, its class with the blocks of both methods, and the list
of what it exports. -/
theorem source_eq_methodBlocks (m : FactoryModule) :
    m.source = Text.joinLines
      [m.docstring, "", m.importBlock, "", "", m.classHead, Text.joinLines m.fragment.blocks, "",
        Text.joinLines m.activity.blocks, "", "", m.exportLine, ""] := by
  have hne : ∀ part ∈ [[m.docstring], [""], [m.importBlock], [""], [""],
      [m.classHead, Text.joinLines m.fragment.blocks, "", Text.joinLines m.activity.blocks],
      [""], [""], [m.exportLine], [""]], part ≠ [] := by simp
  have hjoin := Text.joinLines_map_joinLines hne
  simp only [List.map_cons, List.map_nil, Text.joinLines_singleton] at hjoin
  rw [source_eq_blocks, classBlock_eq_methodBlocks, ← exportLine, hjoin]
  rfl

end FactoryModule

/-! ## Entries in another order -/

namespace DispatchMethod

/-- Two methods that have the same blocks, those of entries in the order of the entries. -/
structure MovesWith (method other : DispatchMethod) (entries entries' : List Association.Entry) :
    Prop where
  signature_eq : other.signatureBlock = method.signatureBlock
  failure_eq : other.failureBlock = method.failureBlock
  length_overloadBlocks : method.overloadBlocks.length =
    if 2 ≤ entries.length then entries.length else 0
  length_branchBlocks : method.branchBlocks.length = entries.length
  overloadBlocks_perm : other.overloadBlocks.Perm method.overloadBlocks
  branchBlocks_perm : other.branchBlocks.Perm method.branchBlocks
  /-- The blocks of an entry stand where the entry stands. -/
  blocks_eq : ∀ (i j : Nat) (entry : Association.Entry),
    entries[i]? = some entry → entries'[j]? = some entry →
    other.overloadBlocks[j]? = method.overloadBlocks[i]? ∧
      other.branchBlocks[j]? = method.branchBlocks[i]?
  blocks_eq_of_eq : entries' = entries → other.blocks = method.blocks

section OfAssociation

variable {aliases : ModuleAliases} {contract : String} {kind : OwnerKind}
  {association other : Association}

/-- The text of the overload of an entry does not depend on the other entries. -/
theorem overloadBlocks_ofAssociation :
    (ofAssociation aliases contract kind association).overloadBlocks =
      if 2 ≤ association.entries.length then
        association.entries.map fun entry =>
          (ofAssociation aliases contract kind .empty).overloadBlock (Branch.ofEntry aliases entry)
      else [] := by
  have hbranches : (ofAssociation aliases contract kind association).branches =
      association.entries.map (Branch.ofEntry aliases) := rfl
  rw [overloadBlocks, isOverloaded, hbranches, List.length_map, List.map_map]
  by_cases h : 2 ≤ association.entries.length
  · simp only [h, decide_true, ↓reduceIte]
    rfl
  · simp only [h, decide_false, Bool.false_eq_true, ↓reduceIte]

theorem branchBlocks_ofAssociation :
    (ofAssociation aliases contract kind association).branchBlocks =
      association.entries.map fun entry => branchBlock (Branch.ofEntry aliases entry) := by
  rw [branchBlocks, ofAssociation, List.map_map]
  rfl

/-- The signature has types of an entry in it only if there is no other one. -/
theorem signature_eq_of_perm (h : association.entries.Perm other.entries) :
    (ofAssociation aliases contract kind other).signature =
      (ofAssociation aliases contract kind association).signature := by
  rw [signature, signature, ofAssociation, ofAssociation]
  rcases hentries : association.entries with _ | ⟨first, _ | ⟨second, rest⟩⟩
  · rw [hentries, List.nil_perm] at h
    rw [h]
  · rw [hentries, List.singleton_perm] at h
    rw [← h]
  · rcases hothers : other.entries with _ | ⟨first', _ | ⟨second', rest'⟩⟩
    · simp [hentries, hothers] at h
    · simp [hentries, hothers] at h
    · rfl

theorem getElem?_map_eq {α β : Type} (f : α → β) {xs ys : List α} {i j : Nat} {x : α}
    (hx : xs[i]? = some x) (hy : ys[j]? = some x) : (ys.map f)[j]? = (xs.map f)[i]? := by
  rw [List.getElem?_map, List.getElem?_map, hx, hy]

/-- Below the same aliases, the blocks of entries move with them. -/
theorem movesWith_ofAssociation (h : association.entries.Perm other.entries) :
    (ofAssociation aliases contract kind association).MovesWith
      (ofAssociation aliases contract kind other) association.entries other.entries where
  signature_eq := by
    rw [signatureBlock, signatureBlock, headLines, headLines, signature_eq_of_perm h]
    rfl
  failure_eq := rfl
  length_overloadBlocks := by
    rw [overloadBlocks_ofAssociation]
    split <;> simp
  length_branchBlocks := by rw [branchBlocks_ofAssociation, List.length_map]
  overloadBlocks_perm := by
    rw [overloadBlocks_ofAssociation, overloadBlocks_ofAssociation, h.length_eq]
    split
    · exact h.symm.map _
    · exact .nil
  branchBlocks_perm := by
    rw [branchBlocks_ofAssociation, branchBlocks_ofAssociation]
    exact h.symm.map _
  blocks_eq := by
    intro i j entry hi hj
    rw [overloadBlocks_ofAssociation, overloadBlocks_ofAssociation, branchBlocks_ofAssociation,
      branchBlocks_ofAssociation, h.length_eq]
    refine ⟨?_, getElem?_map_eq _ hi hj⟩
    split
    · exact getElem?_map_eq _ hi hj
    · rfl
  blocks_eq_of_eq := by
    intro hentries
    rw [ofAssociation, ofAssociation, hentries]

end OfAssociation

end DispatchMethod

namespace FactoryModule

variable {options : FactoryOptions} {version : Option String}
  {fragments fragments' activities activities' : Association}

theorem aliases_eq_of_perm (contract : String)
    (hfragments : fragments.entries.Perm fragments'.entries)
    (hactivities : activities.entries.Perm activities'.entries) :
    aliases contract fragments' activities' = aliases contract fragments activities := by
  have hentries : ∀ entry, entry ∈ fragments'.entries ++ activities'.entries ↔
      entry ∈ fragments.entries ++ activities.entries :=
    fun entry => ((hfragments.append hactivities).mem_iff (a := entry)).symm
  have hmem : ∀ module, module ∈ importedModules contract fragments' activities' ↔
      module ∈ importedModules contract fragments activities := by
    intro module
    simp only [mem_importedModules_iff, hentries, Association.size, hfragments.length_eq,
      hactivities.length_eq]
  rw [aliases, aliases, ModuleAliases.ofModules, ModuleAliases.ofModules, ModuleAliases.mk.injEq,
    NameSet.ofList_eq_iff]
  intro module
  rw [NameSet.mem_ofList, List.mem_filter, List.mem_filter, hmem]

theorem typingNames_eq_of_perm (hfragments : fragments.entries.Perm fragments'.entries)
    (hactivities : activities.entries.Perm activities'.entries) :
    Listing.typingNames fragments' activities' = Listing.typingNames fragments activities := by
  have hentries : ∀ entry, entry ∈ fragments'.entries ++ activities'.entries ↔
      entry ∈ fragments.entries ++ activities.entries :=
    fun entry => ((hfragments.append hactivities).mem_iff (a := entry)).symm
  have hgeneric : (∃ entry ∈ fragments'.entries ++ activities'.entries, 0 < entry.1.arity) ↔
      ∃ entry ∈ fragments.entries ++ activities.entries, 0 < entry.1.arity := by
    simp only [hentries]
  have hseveral : (2 ≤ fragments'.size ∨ 2 ≤ activities'.size) ↔
      (2 ≤ fragments.size ∨ 2 ≤ activities.size) := by
    rw [Association.size, Association.size, Association.size, Association.size,
      hfragments.length_eq, hactivities.length_eq]
  rw [Listing.typingNames, Listing.typingNames]
  exact congrArg₂ (· ++ ·) (if_congr hgeneric rfl rfl) (if_congr hseveral rfl rfl)

/-- Two modules for the same entries, in which nothing but the blocks of the entries stands in
another place. -/
structure MovesWith (m other : FactoryModule)
    (fragments fragments' activities activities' : List Association.Entry) : Prop where
  source_eq : ∀ module ∈ [m, other], module.artifact.source = Text.joinLines
    [module.docstring, "", module.importBlock, "", "", module.classHead,
      Text.joinLines module.fragment.blocks, "", Text.joinLines module.activity.blocks, "", "",
      module.exportLine, ""]
  docstring_eq : other.docstring = m.docstring
  importBlock_eq : other.importBlock = m.importBlock
  classHead_eq : other.classHead = m.classHead
  exportLine_eq : other.exportLine = m.exportLine
  fragment : m.fragment.MovesWith other.fragment fragments fragments'
  activity : m.activity.MovesWith other.activity activities activities'

theorem fragment_ofAssociations :
    (ofAssociations options version fragments activities).fragment =
      DispatchMethod.ofAssociation (aliases options.contract fragments activities) options.contract
        .fragment fragments := rfl

theorem activity_ofAssociations :
    (ofAssociations options version fragments activities).activity =
      DispatchMethod.ofAssociation (aliases options.contract fragments activities) options.contract
        .activity activities := rfl

/-- The docstring only counts the entries. -/
theorem docstring_eq_of_perm (options : FactoryOptions) (version : Option String)
    (hfragments : fragments.entries.Perm fragments'.entries)
    (hactivities : activities.entries.Perm activities'.entries) :
    (ofAssociations options version fragments' activities').docstring =
      (ofAssociations options version fragments activities).docstring := by
  have hlength (aliases : ModuleAliases) (kind : OwnerKind) (association : Association) :
      (DispatchMethod.ofAssociation aliases options.contract kind association).branches.length =
        association.entries.length := List.length_map _
  rw [docstring, docstring, fragment_ofAssociations, fragment_ofAssociations,
    activity_ofAssociations, activity_ofAssociations, hlength, hlength, hlength, hlength,
    hfragments.length_eq, hactivities.length_eq]
  rfl

theorem classHead_eq_of_options {m other : FactoryModule} (h : other.options = m.options) :
    other.classHead = m.classHead := by
  rw [classHead, classHead, classLines, classLines, h]

theorem exportLine_eq_of_options {m other : FactoryModule} (h : other.options = m.options) :
    other.exportLine = m.exportLine := by
  rw [exportLine, exportLine, h]

theorem movesWith_ofAssociations (options : FactoryOptions) (version : Option String)
    (hfragments : fragments.entries.Perm fragments'.entries)
    (hactivities : activities.entries.Perm activities'.entries) :
    (ofAssociations options version fragments activities).MovesWith
      (ofAssociations options version fragments' activities') fragments.entries fragments'.entries
      activities.entries activities'.entries where
  source_eq module _ := module.source_eq_methodBlocks
  docstring_eq := docstring_eq_of_perm options version hfragments hactivities
  importBlock_eq := by
    rw [importBlock, importBlock, typingNames_ofAssociations, typingNames_ofAssociations,
      imports_ofAssociations, imports_ofAssociations, aliases_eq_of_perm _ hfragments hactivities,
      typingNames_eq_of_perm hfragments hactivities]
  classHead_eq := classHead_eq_of_options rfl
  exportLine_eq := exportLine_eq_of_options rfl
  fragment := by
    rw [fragment_ofAssociations, fragment_ofAssociations,
      aliases_eq_of_perm _ hfragments hactivities]
    exact DispatchMethod.movesWith_ofAssociation hfragments
  activity := by
    rw [activity_ofAssociations, activity_ofAssociations,
      aliases_eq_of_perm _ hfragments hactivities]
    exact DispatchMethod.movesWith_ofAssociation hactivities

end FactoryModule

namespace Generation

/-- Associations in another order are rendered with the blocks of their entries in this order, and
with the same text everywhere else. -/
theorem render_reordered (options : FactoryOptions) (version : Option String)
    {fragments fragments' activities activities' : Association}
    (hfragments : fragments.entries.Perm fragments'.entries)
    (hactivities : activities.entries.Perm activities'.entries) :
    ∃ found other, (render options version fragments activities).result = .ok found ∧
      (render options version fragments' activities').result = .ok other ∧
      found.MovesWith other fragments.entries fragments'.entries activities.entries
        activities'.entries :=
  ⟨_, _, result_render options version fragments activities,
    result_render options version fragments' activities',
    FactoryModule.movesWith_ofAssociations options version hfragments hactivities⟩

end Generation

namespace GlobalOwner

/-- The same owners from the last to the first. -/
def reversed : Association := .ofList
  [({ module := "app.ui", name := "Items", arity := 2 }, binding "" "ItemsBinding"),
    ({ module := "", name := "Home", arity := 0 }, binding "app" "HomeBinding")]

theorem render_reordered_globalOwner :
    fragments.entries.Perm reversed.entries ∧
      Association.empty.entries.Perm Association.empty.entries ∧
      ∃ found other,
        (Generation.render .default none fragments .empty).result = .ok found ∧
        (Generation.render .default none reversed .empty).result = .ok other ∧
        found.MovesWith other fragments.entries reversed.entries [] [] := by
  have hperm : fragments.entries.Perm reversed.entries := .swap _ _ []
  have hempty : Association.empty.entries.Perm Association.empty.entries := .refl []
  exact ⟨hperm, hempty, Generation.render_reordered .default none hperm hempty⟩

end GlobalOwner

end OwnerBinding
