import OwnerBinding.Proofs.Factory.Layout
import OwnerBinding.Proofs.Factory.Reader

/-!
# Reading dispatch methods

What the reader finds in the statements of one method: a branch for each test, in order
(`branches_statements`), and the annotation of the owner in each overload and in the signature
(`filterMap_ownerHint?_statements`). All other statements begin in some other way, and none of them
opens the other method.
-/

namespace OwnerBinding

open FactoryReader

namespace DispatchMethod

/-- The statements of the method. -/
def statements (method : DispatchMethod) : List Statement := method.lines.map statementOf

/-- The ways in which a statement of a signature begins, apart from the one that opens it. -/
def signatureOpenings : List String := ["@", "view_owner: ", "container: ", ") -> ", "\"\"\""]

/-- The ways in which a statement of a body begins. -/
def bodyOpenings : List String := ["if isinstance(view_owner, ", "return ", "msg = ", "raise "]

/-- The types of a branch as they stand in its test and its call. -/
def branchTexts (branch : Branch) : String × String := (branch.owner.text, branch.binding.text)

/-- The annotations of the owner in the overloads and in the signature. -/
def ownerHints (method : DispatchMethod) : List String :=
  (if method.isOverloaded then method.branches.map Branch.ownerText else []) ++
    [method.signature.1]

variable {method : DispatchMethod}

theorem map_statementOf_methodLines :
    (FactoryModule.methodLines method).map statementOf = method.statements := by
  simp [FactoryModule.methodLines, statements]

theorem statements_eq : method.statements =
    (method.overloads ++ method.headLines).map statementOf ++
      method.bodyLines.map statementOf := by
  simp [statements, lines]

theorem map_statementOf_parameterLines (ownerText : String) :
    (method.parameterLines ownerText).map statementOf =
      ["@staticmethod".toList, openingOf method.kind, ("view_owner: " ++ ownerText ++ ",").toList,
        ("container: " ++ (method.container.text ++ " | None,")).toList] := by
  have hstatic : statementOf "@staticmethod" = "@staticmethod".toList := by decide
  simp only [parameterLines, List.map_cons, List.map_nil, String.append_assoc, statementOf_margin,
    hstatic, openingOf]
  rw [statementOf_append (by decide), statementOf_append (by decide),
    statementOf_append (by decide)]

/-- A statement that opens the method, or begins in one of the given ways. -/
def OpensOrBegins (method : DispatchMethod) (openings : List String) (s : Statement) : Prop :=
  s = openingOf method.kind ∨ Begins openings s

theorem opensOrBegins_parameterLines (ownerText : String) :
    ∀ s ∈ (method.parameterLines ownerText).map statementOf,
      method.OpensOrBegins signatureOpenings s := by
  intro s hs
  rw [map_statementOf_parameterLines] at hs
  simp only [List.mem_cons, List.not_mem_nil, or_false] at hs
  rcases hs with rfl | rfl | rfl | rfl
  · exact .inr (.inr ⟨"@", by decide, by decide⟩)
  · exact .inl rfl
  · rw [String.append_assoc]
    exact .inr (begins_toList_append (by decide) _)
  · exact .inr (begins_toList_append (by decide) _)

theorem opensOrBegins_signature :
    ∀ s ∈ (method.overloads ++ method.headLines).map statementOf,
      method.OpensOrBegins signatureOpenings s := by
  intro s hs
  rw [List.map_append, List.mem_append] at hs
  rcases hs with hs | hs
  · rw [overloads] at hs
    split at hs
    · obtain ⟨line, hline, rfl⟩ := List.mem_map.1 hs
      obtain ⟨branch, _, hline⟩ := List.mem_flatMap.1 hline
      simp only [overloadLines, List.mem_append, List.mem_cons, List.not_mem_nil, or_false]
        at hline
      rcases hline with (rfl | hline) | rfl | rfl
      · exact .inr (.inr ⟨"@", by decide, by decide⟩)
      · exact opensOrBegins_parameterLines _ _ (List.mem_map_of_mem hline)
      · rw [String.append_assoc]
        exact .inr (begins_append (by decide) (by decide) _)
      · exact .inr (.inl rfl)
    · cases hs
  · obtain ⟨line, hline, rfl⟩ := List.mem_map.1 hs
    simp only [headLines, List.mem_append, List.mem_cons, List.not_mem_nil, or_false] at hline
    rcases hline with hline | rfl | rfl
    · exact opensOrBegins_parameterLines _ _ (List.mem_map_of_mem hline)
    · rw [String.append_assoc]
      exact .inr (begins_append (by decide) (by decide) _)
    · cases method.kind <;> exact .inr (.inr ⟨"\"\"\"", by decide, by decide⟩)

theorem map_statementOf_bodyLines : method.bodyLines.map statementOf =
    (method.branches.flatMap fun branch => branch.bodyLines.map statementOf) ++
      [statementOf "msg = f\"Binder not found for \x7bview_owner!r\x7d\"",
        statementOf ("raise " ++ (method.failure.text ++ "(msg)"))] := by
  rw [bodyLines, List.map_append, List.map_flatMap, String.append_assoc]
  rfl

theorem begins_failure : ∀ s ∈ [statementOf "msg = f\"Binder not found for \x7bview_owner!r\x7d\"",
    statementOf ("raise " ++ (method.failure.text ++ "(msg)"))], Begins ["msg = ", "raise "] s := by
  intro s hs
  simp only [List.mem_cons, List.not_mem_nil, or_false] at hs
  rcases hs with rfl | rfl
  · exact .inr ⟨"msg = ", by decide, by decide⟩
  · exact begins_append (by decide) (by decide) _

theorem begins_body : ∀ s ∈ method.bodyLines.map statementOf, Begins bodyOpenings s := by
  intro s hs
  rw [map_statementOf_bodyLines, List.mem_append, List.mem_flatMap] at hs
  rcases hs with ⟨branch, _, hs⟩ | hs
  · obtain ⟨line, hline, rfl⟩ := List.mem_map.1 hs
    simp only [Branch.bodyLines, List.mem_cons, List.not_mem_nil, or_false] at hline
    rcases hline with rfl | rfl
    · rw [String.append_assoc]
      exact begins_append (by decide) (by decide) _
    · rw [String.append_assoc, String.append_assoc, statementOf_margin]
      exact begins_append (by decide) (by decide) _
  · exact (begins_failure s hs).mono (by decide)

/-- Every statement opens the method or begins like one of a signature or of a body. -/
theorem opensOrBegins_statements :
    ∀ s ∈ method.statements, method.OpensOrBegins (signatureOpenings ++ bodyOpenings) s := by
  intro s hs
  rw [statements_eq, List.mem_append] at hs
  rcases hs with hs | hs
  · rcases opensOrBegins_signature s hs with hopens | hbegins
    · exact .inl hopens
    · exact .inr (hbegins.mono (List.subset_append_left _ _))
  · exact .inr ((begins_body s hs).mono (List.subset_append_right _ _))

theorem OpensOrBegins.between?_eq_none {openings : List String} {s : Statement}
    (h : method.OpensOrBegins openings s) {opening closing : String}
    (hapart : Apart opening openings) (hdef : Apart opening ["def "]) :
    between? opening closing s = none := by
  rcases h with rfl | h
  · exact (begins_openingOf method.kind).between?_eq_none hdef
  · exact h.between?_eq_none hapart

theorem OpensOrBegins.imported?_eq_none {openings : List String} {s : Statement}
    (h : method.OpensOrBegins openings s) (hapart : Apart "import " openings) :
    imported? s = none := by
  rcases h with rfl | h
  · exact (begins_openingOf method.kind).imported?_eq_none (by decide)
  · exact h.imported?_eq_none hapart

theorem filterMap_imported?_statements : method.statements.filterMap imported? = [] := by
  rw [List.filterMap_eq_nil_iff]
  intro s hs
  exact (opensOrBegins_statements s hs).imported?_eq_none (by decide)

theorem openingOf_notMem_statements {kind : OwnerKind} (h : kind ≠ method.kind) :
    openingOf kind ∉ method.statements := by
  intro hmem
  rcases opensOrBegins_statements _ hmem with heq | hbegins
  · have hname : kind.methodName = method.kind.methodName := by
      simpa [openingOf, String.toList_inj] using heq
    revert hname
    cases kind <;> cases hkind : method.kind <;> simp_all [OwnerKind.methodName]
  · have hapart : Apart "def " (signatureOpenings ++ bodyOpenings) := by decide
    exact hbegins.not_isPrefix hapart (isPrefix_openingOf kind)

theorem branches_flatMap_bodyLines (rest : List Statement) (bs : List Branch) :
    FactoryReader.branches ((bs.flatMap fun branch => branch.bodyLines.map statementOf) ++ rest) =
      bs.map branchTexts ++ FactoryReader.branches rest := by
  induction bs with
  | nil => rfl
  | cons branch bs ih =>
      rw [List.flatMap_cons, List.append_assoc, branches_bodyLines, ih]
      rfl

/-- The branches that are read are those of the method. -/
theorem branches_statements (rest : List Statement) :
    FactoryReader.branches (method.statements ++ rest) =
      method.branches.map branchTexts ++ FactoryReader.branches rest := by
  have hsignature : ∀ s ∈ (method.overloads ++ method.headLines).map statementOf,
      test? s = none := fun s hs =>
    (opensOrBegins_signature s hs).between?_eq_none (by decide) (by decide)
  have hfailure : ∀ s ∈ [statementOf "msg = f\"Binder not found for \x7bview_owner!r\x7d\"",
      statementOf ("raise " ++ (method.failure.text ++ "(msg)"))], test? s = none := fun s hs =>
    (begins_failure s hs).between?_eq_none (by decide)
  rw [statements_eq, List.append_assoc, branches_append_of_none hsignature,
    map_statementOf_bodyLines, List.append_assoc, branches_flatMap_bodyLines,
    branches_append_of_none hfailure]

theorem filterMap_ownerHint?_parameterLines (ownerText : String) :
    ((method.parameterLines ownerText).map statementOf).filterMap ownerHint? = [ownerText] := by
  have hbegins : ∀ opening rest : String, Begins [opening] (opening ++ rest).toList :=
    fun opening rest => begins_toList_append (List.mem_singleton.2 rfl) rest
  have hstatic : ownerHint? "@staticmethod".toList = none := by decide
  have hopening : ownerHint? (openingOf method.kind) = none :=
    (begins_openingOf method.kind).between?_eq_none (by decide)
  have howner : ownerHint? ("view_owner: " ++ ownerText ++ ",").toList = some ownerText :=
    between?_append _ _ _
  have hcontainer : ownerHint? ("container: " ++ (method.container.text ++ " | None,")).toList =
      none :=
    (hbegins "container: " _).between?_eq_none (by decide)
  rw [map_statementOf_parameterLines, List.filterMap_cons_none hstatic,
    List.filterMap_cons_none hopening, List.filterMap_cons_some howner,
    List.filterMap_cons_none hcontainer, List.filterMap_nil]

theorem filterMap_ownerHint?_overloadLines (branch : Branch) :
    ((method.overloadLines branch).map statementOf).filterMap ownerHint? = [branch.ownerText] := by
  have hoverload : ownerHint? (statementOf "@overload") = none := by decide
  have hresult : ownerHint? (statementOf (") -> " ++ branch.binding.text ++ ": ...")) = none := by
    have hbegins : Begins [") -> "] (statementOf (") -> " ++ branch.binding.text ++ ": ...")) := by
      rw [String.append_assoc]
      exact begins_append (by simp) (by decide) _
    exact hbegins.between?_eq_none (by decide)
  have hempty : ownerHint? (statementOf "") = none := by decide
  rw [overloadLines, List.map_append, List.map_append, List.filterMap_append,
    List.filterMap_append, filterMap_ownerHint?_parameterLines]
  simp only [List.map_cons, List.map_nil, List.filterMap_cons, List.filterMap_nil, hoverload,
    hresult, hempty, List.nil_append, List.append_nil]

/-- The annotations that are read are those of the overloads and of the signature. -/
theorem filterMap_ownerHint?_statements :
    method.statements.filterMap ownerHint? = method.ownerHints := by
  have hoverloads : (method.overloads.map statementOf).filterMap ownerHint? =
      if method.isOverloaded then method.branches.map Branch.ownerText else [] := by
    rw [overloads]
    split
    · induction method.branches with
      | nil => rfl
      | cons branch branches ih =>
          rw [List.flatMap_cons, List.map_append, List.filterMap_append,
            filterMap_ownerHint?_overloadLines, ih]
          rfl
    · rfl
  have hresult : ownerHint? (statementOf (") -> " ++ method.signature.2 ++ ":")) = none := by
    have hbegins : Begins [") -> "] (statementOf (") -> " ++ method.signature.2 ++ ":")) := by
      rw [String.append_assoc]
      exact begins_append (by simp) (by decide) _
    exact hbegins.between?_eq_none (by decide)
  have hdocstring : ownerHint? (statementOf (margin ++ "\"\"\"Create the binding registered for the "
      ++ method.kind.noun ++ "'s dynamic type.\"\"\"")) = none := by
    cases method.kind <;> decide
  have hhead : (method.headLines.map statementOf).filterMap ownerHint? = [method.signature.1] := by
    rw [headLines, List.map_append, List.filterMap_append, filterMap_ownerHint?_parameterLines]
    simp only [List.map_cons, List.map_nil, List.filterMap_cons, List.filterMap_nil, hresult,
      hdocstring, List.append_nil]
  have hbody : (method.bodyLines.map statementOf).filterMap ownerHint? = [] := by
    rw [List.filterMap_eq_nil_iff]
    intro s hs
    exact (begins_body s hs).between?_eq_none (by decide)
  rw [statements_eq, List.filterMap_append, List.map_append, List.filterMap_append, hoverloads,
    hhead, hbody, List.append_nil, ownerHints]

/-- Before the first statement that opens the method there are only decorators. -/
theorem exists_statements_eq (method : DispatchMethod) : ∃ decorators rest,
    method.statements = decorators ++ openingOf method.kind :: rest ∧
      ∀ s ∈ decorators, Begins ["@"] s := by
  have hstatic : Begins ["@"] "@staticmethod".toList := .inr ⟨"@", by decide, by decide⟩
  have hoverload : Begins ["@"] (statementOf "@overload") := .inr ⟨"@", by decide, by decide⟩
  have hparameters : ∀ ownerText (later : List Statement), ∃ rest,
      (method.parameterLines ownerText).map statementOf ++ later =
        "@staticmethod".toList :: openingOf method.kind :: rest := by
    intro ownerText later
    rw [map_statementOf_parameterLines]
    exact ⟨_, rfl⟩
  rw [statements_eq, overloads, headLines]
  split
  · next hoverloaded =>
      cases hbranches : method.branches with
      | nil => simp [isOverloaded, hbranches] at hoverloaded
      | cons branch branches =>
          rw [List.flatMap_cons, overloadLines]
          simp only [List.map_append, List.append_assoc, List.map_cons, List.map_nil,
            List.cons_append, List.nil_append]
          obtain ⟨rest, hrest⟩ := hparameters branch.ownerText _
          refine ⟨[statementOf "@overload", "@staticmethod".toList], rest, ?_, ?_⟩
          · rw [hrest]
            rfl
          · simp only [List.mem_cons, List.not_mem_nil, or_false]
            rintro s (rfl | rfl)
            · exact hoverload
            · exact hstatic
  · rw [List.nil_append, List.map_append, List.append_assoc]
    obtain ⟨rest, hrest⟩ := hparameters method.signature.1 _
    refine ⟨["@staticmethod".toList], rest, hrest, ?_⟩
    intro s hs
    rw [List.mem_singleton.1 hs]
    exact hstatic

end DispatchMethod

end OwnerBinding
