import Mathlib.Data.List.Basic
import OwnerBinding.Proofs.Factory.Blocks

/-!
# Reading factory modules

A reader for the text of factory modules that knows nothing of how they are written. It cuts the text
into statements, without their indentation, and recognizes a statement by how it begins and ends.
The statements that import modules are a table from aliases to modules. A dispatch method gives one
record for each test with the call behind it; the number of wildcards of the record is that of the
annotation of the owner at the same position, and references are expanded through the table.
-/

namespace OwnerBinding

namespace FactoryReader

/-- A line of the text without its indentation. -/
abbrev Statement : Type := List Char

/-- The statement of a line. -/
def unindented (line : List Char) : Statement := line.dropWhile (· = ' ')

/-- The statements of a text. -/
def statements (source : String) : List Statement := (source.toList.splitOn '\n').map unindented

/-- What a statement has between a given beginning and a given end. -/
def between? (opening closing : String) (statement : Statement) : Option String :=
  (statement.dropPrefix? opening.toList).bind fun rest =>
    (rest.dropSuffix? closing.toList).map String.ofList

/-- The module and the alias of an import. -/
def imported? (statement : Statement) : Option (String × String) :=
  (statement.dropPrefix? "import ".toList).bind fun rest =>
    ((rest.dropWhile (· ≠ ' ')).dropPrefix? " as ".toList).map fun short =>
      (String.ofList (rest.takeWhile (· ≠ ' ')), String.ofList short)

/-- The type in the test of a branch. -/
def test? : Statement → Option String := between? "if isinstance(view_owner, " "):"

/-- The type in the call of a branch. -/
def call? : Statement → Option String :=
  between? "return " ".inflate(view_owner.layout_inflater, container, False)"

/-- The annotation of an owner. -/
def ownerHint? : Statement → Option String := between? "view_owner: " ","

/-- The statement that opens a method, or an overload of it. -/
def openingOf (kind : OwnerKind) : Statement := ("def " ++ kind.methodName ++ "(").toList

/-- The statements of a method, from its first opening on and before any of the other method. -/
def methodStatements (kind : OwnerKind) (statements : List Statement) : List Statement :=
  let onwards := statements.dropWhile (· ≠ openingOf kind)
  match kind with
  | .fragment => onwards.takeWhile (· ≠ openingOf .activity)
  | .activity => onwards

/-- The types of the tests that have their call directly behind them, with those of the calls. -/
def branches : List Statement → List (String × String)
  | [] => []
  | test :: rest =>
      match test? test, rest.head?.bind call? with
      | some owner, some binding => (owner, binding) :: branches rest
      | _, _ => branches rest

/-- The number of wildcards of an annotation. -/
def wildcardCount (hint : String) : Int :=
  if '[' ∈ hint.toList then hint.toList.count ',' + 1 else 0

/-- The type that is written below an alias. -/
def expand? (table : List (String × String)) (text : String) : Option TypeName :=
  let short := String.ofList (text.toList.takeWhile (· ≠ '.'))
  (table.find? (·.2 = short)).map fun entry =>
    { module := entry.1, name := String.ofList ((text.toList.dropWhile (· ≠ '.')).drop 1) }

/-- The owner, its number of wildcards and its binding. -/
abbrev Record : Type := OwnerType × TypeName

/-- The record of a branch and the annotation at its position. -/
def record? (table : List (String × String)) (branch : (String × String) × String) :
    Option Record :=
  (expand? table branch.1.1).bind fun owner =>
    (expand? table branch.1.2).map fun binding =>
      ({ owner with arity := wildcardCount branch.2 }, binding)

/-- The records of a method. -/
def method? (table : List (String × String)) (statements : List Statement) :
    Option (List Record) :=
  ((branches statements).zip (statements.filterMap ownerHint?)).mapM (record? table)

/-- The records of the fragment method and those of the activity method. -/
def read (source : String) : Option (List Record × List Record) :=
  let all := statements source
  let table := all.filterMap imported?
  (method? table (methodStatements .fragment all)).bind fun fragments =>
    (method? table (methodStatements .activity all)).map fun activities => (fragments, activities)

/-! ## Statements of lines -/

/-- The statement of a line of text. -/
def statementOf (line : String) : Statement := unindented line.toList

theorem statements_joinLines {parts : List String} (hparts : parts ≠ [])
    (h : ∀ part ∈ parts, '\n' ∉ part.toList) :
    statements (Text.joinLines parts) = parts.map statementOf := by
  rw [statements, Text.splitOn_joinLines hparts h, List.map_map]
  rfl

@[simp] theorem statementOf_margin (line : String) :
    statementOf (margin ++ line) = statementOf line := by
  have hmargin : margin.toList = [' ', ' ', ' ', ' '] := rfl
  simp [statementOf, unindented, hmargin]

@[simp] theorem statementOf_indentLine (line : String) :
    statementOf (Text.indentLine margin line) = statementOf line := by
  rw [Text.indentLine]
  split
  · rfl
  · exact statementOf_margin line

/-- A line that starts with something else than a space is its own statement. -/
theorem statementOf_append {opening : String} (h : opening.toList.head?.any (· ≠ ' ') = true)
    (rest : String) : statementOf (opening ++ rest) = (opening ++ rest).toList := by
  rw [statementOf, unindented, String.toList_append]
  cases hchars : opening.toList with
  | nil => simp [hchars] at h
  | cons c chars =>
      have hc : c ≠ ' ' := by simpa [hchars] using h
      simp [hc]

/-! ## How statements begin -/

/-- A statement that is empty or begins in one of the given ways. -/
def Begins (openings : List String) (statement : Statement) : Prop :=
  statement = [] ∨ ∃ opening ∈ openings, opening.toList <+: statement

/-- No statement that begins in one of the given ways begins with the opening. -/
def Apart (opening : String) (openings : List String) : Prop :=
  opening.toList ≠ [] ∧ ∀ other ∈ openings,
    ¬ opening.toList <+: other.toList ∧ ¬ other.toList <+: opening.toList

instance (opening : String) (openings : List String) : Decidable (Apart opening openings) :=
  inferInstanceAs (Decidable (_ ∧ _))

theorem Begins.not_isPrefix {opening : String} {openings : List String} {statement : Statement}
    (h : Begins openings statement) (hapart : Apart opening openings) :
    ¬ opening.toList <+: statement := by
  intro hopening
  rcases h with rfl | ⟨other, hmem, hother⟩
  · exact hapart.1 (List.prefix_nil.1 hopening)
  · obtain ⟨hnot, hnot'⟩ := hapart.2 other hmem
    rcases List.prefix_or_prefix_of_prefix hopening hother with h | h
    · exact hnot h
    · exact hnot' h

theorem Begins.mono {openings others : List String} {statement : Statement}
    (h : Begins openings statement) (hsubset : openings ⊆ others) : Begins others statement := by
  rcases h with rfl | ⟨opening, hmem, hopening⟩
  · exact .inl rfl
  · exact .inr ⟨opening, hsubset hmem, hopening⟩

theorem begins_toList_append {opening : String} {openings : List String} (h : opening ∈ openings)
    (rest : String) : Begins openings (opening ++ rest).toList := by
  refine .inr ⟨opening, h, ?_⟩
  rw [String.toList_append]
  exact List.prefix_append _ _

theorem begins_append {opening : String} {openings : List String} (h : opening ∈ openings)
    (hhead : opening.toList.head?.any (· ≠ ' ') = true) (rest : String) :
    Begins openings (statementOf (opening ++ rest)) := by
  rw [statementOf_append hhead]
  exact begins_toList_append h rest

theorem isPrefix_openingOf (kind : OwnerKind) : "def ".toList <+: openingOf kind := by
  cases kind <;> decide

theorem begins_openingOf (kind : OwnerKind) : Begins ["def "] (openingOf kind) :=
  .inr ⟨"def ", List.mem_singleton.2 rfl, isPrefix_openingOf kind⟩

/-- Statements that begin in other ways open no method. -/
theorem openingOf_notMem_of_begins {kind : OwnerKind} {openings : List String}
    {statements : List Statement} (h : ∀ s ∈ statements, Begins openings s)
    (hapart : Apart "def " openings) : openingOf kind ∉ statements := fun hmem =>
  (h _ hmem).not_isPrefix hapart (isPrefix_openingOf kind)

/-! ## Recognized statements -/

theorem between?_append (opening text closing : String) :
    between? opening closing (opening ++ text ++ closing).toList = some text := by
  have hopening : (opening ++ text ++ closing).toList.dropPrefix? opening.toList =
      some (text ++ closing).toList := by
    rw [List.dropPrefix?_eq_some_iff]
    exact ⟨opening.toList, by simp, by simp⟩
  have hclosing : (text ++ closing).toList.dropSuffix? closing.toList = some text.toList := by
    rw [List.dropSuffix?_eq_some_iff]
    exact ⟨closing.toList, by simp, by simp⟩
  rw [between?, hopening, Option.bind_some, hclosing, Option.map_some, String.ofList_toList]

theorem dropPrefix?_eq_none {opening statement : Statement} (h : ¬ opening <+: statement) :
    statement.dropPrefix? opening = none := by
  rw [Option.eq_none_iff_forall_ne_some]
  intro rest hrest
  obtain ⟨chars, rfl, hchars⟩ := List.dropPrefix?_eq_some_iff.1 hrest
  rw [beq_iff_eq.1 hchars] at h
  exact h (List.prefix_append _ _)

theorem Begins.between?_eq_none {opening closing : String} {openings : List String}
    {statement : Statement} (h : Begins openings statement) (hapart : Apart opening openings) :
    between? opening closing statement = none := by
  rw [between?, dropPrefix?_eq_none (h.not_isPrefix hapart), Option.bind_none]

theorem Begins.imported?_eq_none {openings : List String} {statement : Statement}
    (h : Begins openings statement) (hapart : Apart "import " openings) :
    imported? statement = none := by
  rw [imported?, dropPrefix?_eq_none (h.not_isPrefix hapart), Option.bind_none]

theorem imported?_importLine {entry : String × String} (h : ' ' ∉ entry.1.toList) :
    imported? (statementOf (FactoryModule.importLine entry)) = some entry := by
  have hspace : ∀ c ∈ entry.1.toList, (decide (c ≠ ' ')) = true := by
    intro c hc
    simp only [decide_eq_true_eq]
    rintro rfl
    exact h hc
  have htext : (statementOf (FactoryModule.importLine entry)) =
      "import ".toList ++ (entry.1.toList ++ (" as ".toList ++ entry.2.toList)) := by
    rw [FactoryModule.importLine, String.append_assoc, String.append_assoc,
      statementOf_append (by decide)]
    simp
  have himport : ("import ".toList ++ (entry.1.toList ++ (" as ".toList ++ entry.2.toList))).dropPrefix?
      "import ".toList = some (entry.1.toList ++ (" as ".toList ++ entry.2.toList)) := by
    rw [List.dropPrefix?_eq_some_iff]
    exact ⟨"import ".toList, rfl, by simp⟩
  have has : (" as ".toList ++ entry.2.toList).dropPrefix? " as ".toList = some entry.2.toList := by
    rw [List.dropPrefix?_eq_some_iff]
    exact ⟨" as ".toList, rfl, by simp⟩
  have htake : (" as ".toList ++ entry.2.toList).takeWhile (· ≠ ' ') = [] := by
    simp
  have hdrop : (" as ".toList ++ entry.2.toList).dropWhile (· ≠ ' ') =
      " as ".toList ++ entry.2.toList := by
    simp
  rw [imported?, htext, himport, Option.bind_some, List.dropWhile_append_of_pos hspace, hdrop, has,
    List.takeWhile_append_of_pos hspace, htake]
  simp

/-! ## Tests with their calls -/

theorem branches_append_of_none {skipped : List Statement} (h : ∀ s ∈ skipped, test? s = none)
    (rest : List Statement) : branches (skipped ++ rest) = branches rest := by
  induction skipped with
  | nil => rfl
  | cons s skipped ih =>
      rw [List.cons_append, branches, h s (by simp)]
      exact ih fun t ht => h t (List.mem_cons_of_mem s ht)

theorem branches_bodyLines (branch : Branch) (rest : List Statement) :
    branches (branch.bodyLines.map statementOf ++ rest) =
      (branch.owner.text, branch.binding.text) :: branches rest := by
  let test : String := "if isinstance(view_owner, " ++ branch.owner.text ++ "):"
  let call : String := "return " ++ branch.binding.text
    ++ ".inflate(view_owner.layout_inflater, container, False)"
  have hstatements : branch.bodyLines.map statementOf = [test.toList, call.toList] := by
    have hcall : margin ++ "return " ++ branch.binding.text
        ++ ".inflate(view_owner.layout_inflater, container, False)" = margin ++ call := by
      simp [call, String.append_assoc]
    rw [Branch.bodyLines, hcall, List.map_cons, List.map_cons, List.map_nil, statementOf_margin]
    simp only [test, call, String.append_assoc]
    rw [statementOf_append (by decide), statementOf_append (by decide)]
  have htest : test? test.toList = some branch.owner.text := between?_append _ _ _
  have hcall : call? call.toList = some branch.binding.text := between?_append _ _ _
  have hbegins : Begins ["return "] call.toList := by
    simp only [call, String.append_assoc]
    exact begins_toList_append (by simp) _
  have hskip : branches ([call.toList] ++ rest) = branches rest := by
    apply branches_append_of_none
    intro s hs
    rw [List.mem_singleton.1 hs]
    exact hbegins.between?_eq_none (by decide)
  rw [List.singleton_append] at hskip
  rw [hstatements, List.cons_append, List.cons_append, List.nil_append, branches, htest,
    List.head?_cons, Option.bind_some, hcall, hskip]

end FactoryReader

end OwnerBinding
