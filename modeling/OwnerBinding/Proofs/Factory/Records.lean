import OwnerBinding.Proofs.Factory.MethodReading
import OwnerBinding.Proofs.Factory.Reference
import OwnerBinding.Proofs.Text.Identifier

/-!
# Reading back the records of a method

A reference to a type is expanded to this type again, and the annotation of an owner has as many
wildcards as the owner has parameters. So a dispatch method for an association is read as the records
of the association (`DispatchMethod.method?_ofAssociation`).

The names are never looked at as a whole. A name is made of name characters, so it ends where the
text around it goes on, and a reference ends its alias at the first dot.
-/

namespace OwnerBinding

open FactoryReader

/-! ## References as text -/

namespace ModuleAliases

theorem dot_notMem_aliasAt (index : Nat) : '.' ∉ (aliasAt index).toList := by
  intro hmem
  have hcases := isDigit_or_of_mem_aliasAt hmem
  revert hcases
  decide

theorem nameText_aliasAt (index : Nat) : Text.NameText (aliasAt index) := by
  intro c hc
  rcases isDigit_or_of_mem_aliasAt hc with rfl | rfl | hdigit
  · decide
  · decide
  · simp [Text.isNameChar, Text.isIdentifierContinue_of_isDigit hdigit]

theorem nameText_refer (aliases : ModuleAliases) {t : TypeName} (h : Text.NameText t.name) :
    Text.NameText (aliases.refer t).text := by
  rcases text_refer aliases t with htext | ⟨index, htext⟩
  · rw [htext]
    exact h
  · rw [htext]
    intro c hc
    rw [String.toList_append, String.toList_append, List.mem_append, List.mem_append] at hc
    rcases hc with (hc | hc) | hc
    · exact nameText_aliasAt index c hc
    · rw [List.mem_singleton.1 hc]
      decide
    · exact h c hc

/-- A reference is expanded to the type that it was made for. -/
theorem expand?_refer {aliases : ModuleAliases} {t : TypeName} (hmodule : t.module ≠ "")
    (h : aliases.Covers t) : expand? aliases.imports (aliases.refer t).text = some t := by
  rcases h with h | hmem
  · exact absurd h hmodule
  · obtain ⟨index, halias, hget⟩ := exists_alias?_eq hmem
    have htext : (aliases.refer t).text.toList = (aliasAt index).toList ++ '.' :: t.name.toList := by
      simp [refer, Reference.text, hmodule, halias]
    have hshort : ∀ c ∈ (aliasAt index).toList, decide (c ≠ '.') = true := by
      intro c hc
      rw [decide_eq_true_eq]
      rintro rfl
      exact dot_notMem_aliasAt index hc
    rw [expand?, htext, List.takeWhile_append_of_pos hshort, List.dropWhile_append_of_pos hshort]
    simp [find?_imports, hget]

end ModuleAliases

/-! ## Wildcards -/

theorem count_comma_wildcards (n : Nat) :
    (", ".intercalate (List.replicate (n + 1) "Any")).toList.count ',' = n := by
  induction n with
  | zero => decide
  | succ n ih =>
      rw [List.replicate_succ, String.intercalate_cons_of_ne_nil (by simp), String.toList_append,
        String.toList_append, List.count_append, List.count_append, ih]
      have hany : "Any".toList.count ',' = 0 := by decide
      have hcomma : ", ".toList.count ',' = 1 := by decide
      omega

theorem wildcardCount_ownerText {branch : Branch} (harity : 0 ≤ branch.arity)
    (howner : Text.NameText branch.owner.text) :
    wildcardCount branch.ownerText = branch.arity := by
  have hbracket : '[' ∉ branch.owner.text.toList := howner.notMem_of_outside (by decide)
  have hcomma : ',' ∉ branch.owner.text.toList := howner.notMem_of_outside (by decide)
  rw [Branch.ownerText]
  split
  · next hpos =>
      obtain ⟨n, hn⟩ : ∃ n : Nat, branch.arity.toNat = n + 1 := ⟨branch.arity.toNat - 1, by omega⟩
      have hcount : (branch.owner.text ++ wildcards branch.arity).toList.count ',' = n := by
        have hopen : "[".toList.count ',' = 0 := by decide
        have hclose : "]".toList.count ',' = 0 := by decide
        rw [wildcards, hn]
        simp only [String.toList_append, List.count_append, count_comma_wildcards, hopen, hclose,
          List.count_eq_zero.2 hcomma]
        omega
      have hmem : '[' ∈ (branch.owner.text ++ wildcards branch.arity).toList := by
        simp [wildcards]
      rw [wildcardCount, if_pos hmem, hcount]
      omega
  · rw [wildcardCount, if_neg hbracket]
    omega

/-! ## Records of a method -/

/-- The types of an entry have dotted names, and its arity is not negative. -/
structure Association.Entry.IsNamed (entry : Association.Entry) : Prop where
  ownerModule : Text.IsDottedName entry.1.module
  ownerName : Text.IsDottedName entry.1.name
  arity_nonneg : 0 ≤ entry.1.arity
  bindingModule : Text.IsDottedName entry.2.module
  bindingName : Text.IsDottedName entry.2.name

/-- What an association says: the owner type and the type of the binding of each entry. -/
def Association.records (association : Association) : List Record :=
  association.entries.map fun entry => (entry.1, entry.2.toTypeName)

theorem record?_ofEntry {aliases : ModuleAliases} {entry : Association.Entry} (h : entry.IsNamed)
    (howner : aliases.Covers entry.1.toTypeName) (hbinding : aliases.Covers entry.2.toTypeName) :
    record? aliases.imports (DispatchMethod.branchTexts (Branch.ofEntry aliases entry),
      (Branch.ofEntry aliases entry).ownerText) = some (entry.1, entry.2.toTypeName) := by
  have htext : Text.NameText (Branch.ofEntry aliases entry).owner.text :=
    aliases.nameText_refer h.ownerName.nameText
  have hcount := wildcardCount_ownerText h.arity_nonneg htext
  have hownerType : expand? aliases.imports (Branch.ofEntry aliases entry).owner.text =
      some entry.1.toTypeName := ModuleAliases.expand?_refer h.ownerModule.ne_empty howner
  have hbindingType : expand? aliases.imports (Branch.ofEntry aliases entry).binding.text =
      some entry.2.toTypeName := ModuleAliases.expand?_refer h.bindingModule.ne_empty hbinding
  rw [record?, DispatchMethod.branchTexts, hownerType, hbindingType, Option.bind_some,
    Option.map_some, hcount]
  rfl

namespace DispatchMethod

theorem zip_ownerText_append (branches : List Branch) (later : List String) :
    (branches.map branchTexts).zip (branches.map Branch.ownerText ++ later) =
      branches.map fun branch => (branchTexts branch, branch.ownerText) := by
  induction branches with
  | nil => rfl
  | cons branch rest ih => simp [ih]

/-- Each branch meets the annotation of its own owner. -/
theorem zip_ownerHints (method : DispatchMethod) :
    (method.branches.map branchTexts).zip method.ownerHints =
      method.branches.map fun branch => (branchTexts branch, branch.ownerText) := by
  rw [ownerHints, isOverloaded, signature]
  rcases method.branches with _ | ⟨first, _ | ⟨second, rest⟩⟩
  · rfl
  · rfl
  · have hlength : 2 ≤ (first :: second :: rest).length := by simp
    simp only [hlength, decide_true, ↓reduceIte]
    exact zip_ownerText_append _ _

theorem mapM_map_eq_some {α β γ : Type} {f : β → Option γ} {h : α → β} {g : α → γ} {xs : List α}
    (hsome : ∀ x ∈ xs, f (h x) = some (g x)) : (xs.map h).mapM f = some (xs.map g) := by
  induction xs with
  | nil => rfl
  | cons x rest ih =>
      have hrest := ih fun y hy => hsome y (List.mem_cons_of_mem x hy)
      rw [List.map_cons, List.mapM_cons, hsome x (by simp), hrest]
      rfl

variable {aliases : ModuleAliases} {contract : String} {kind : OwnerKind}
  {association : Association}

theorem method?_ofAssociation (hnamed : ∀ entry ∈ association.entries, entry.IsNamed)
    (hcovers : ∀ entry ∈ association.entries,
      aliases.Covers entry.1.toTypeName ∧ aliases.Covers entry.2.toTypeName)
    {decorators rest later : List Statement}
    (hsplit : (ofAssociation aliases contract kind association).statements =
      decorators ++ openingOf kind :: rest)
    (hdecorators : ∀ s ∈ decorators, Begins ["@"] s)
    (hlater : ∀ s ∈ later, Begins ["@", "__all__ = [\""] s) :
    method? aliases.imports (openingOf kind :: rest ++ later) = some association.records := by
  have hbranches : FactoryReader.branches (openingOf kind :: rest ++ later) =
      (ofAssociation aliases contract kind association).branches.map branchTexts := by
    have hskip : ∀ s ∈ decorators, test? s = none := fun s hs =>
      (hdecorators s hs).between?_eq_none (by decide)
    have hrest : FactoryReader.branches later = [] := by
      rw [← List.append_nil later, branches_append_of_none fun s hs =>
        (hlater s hs).between?_eq_none (by decide)]
      rfl
    rw [← branches_append_of_none hskip, ← List.append_assoc, ← hsplit, branches_statements,
      hrest, List.append_nil]
  have hhints : (openingOf kind :: rest ++ later).filterMap ownerHint? =
      (ofAssociation aliases contract kind association).ownerHints := by
    have hskip : decorators.filterMap ownerHint? = [] := by
      rw [List.filterMap_eq_nil_iff]
      exact fun s hs => (hdecorators s hs).between?_eq_none (by decide)
    have hrest : later.filterMap ownerHint? = [] := by
      rw [List.filterMap_eq_nil_iff]
      exact fun s hs => (hlater s hs).between?_eq_none (by decide)
    have hall : (ofAssociation aliases contract kind association).statements.filterMap
        ownerHint? = (ofAssociation aliases contract kind association).ownerHints :=
      filterMap_ownerHint?_statements
    rw [hsplit, List.filterMap_append, hskip, List.nil_append] at hall
    rw [List.filterMap_append, hrest, List.append_nil, hall]
  rw [method?, hbranches, hhints, zip_ownerHints, ofAssociation, List.map_map]
  exact mapM_map_eq_some fun entry hentry =>
    record?_ofEntry (hnamed entry hentry) (hcovers entry hentry).1 (hcovers entry hentry).2

end DispatchMethod

end OwnerBinding
