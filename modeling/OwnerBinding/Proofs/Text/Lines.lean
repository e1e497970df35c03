import Mathlib.Data.List.Basic
import OwnerBinding.Text.Dotted
import OwnerBinding.Text.Lines

/-!
# Joined lines

Text that is put together from lines without breaks of their own keeps them: it can be cut into the
same lines again. Joined blocks of lines are the lines of all blocks in one
(`joinLines_map_joinLines`), and to indent joined text is to indent each of its parts, with or
without breaks in them (`indent_joinLines`).

Whatever its line breaks are, joined text begins like its first line and ends like its last one, and
a margin does not change how a text ends (`getLast?_indent`).
-/

namespace OwnerBinding

namespace Text

/-- Text without line breaks. -/
def Unbroken (text : String) : Prop := ∀ c ∈ text.toList, isLineBreak c = false

instance (text : String) : Decidable (Unbroken text) :=
  List.decidableBAll (fun c => isLineBreak c = false) text.toList

theorem Unbroken.append {text other : String} (h : Unbroken text) (h' : Unbroken other) :
    Unbroken (text ++ other) := by
  intro c hc
  rw [String.toList_append, List.mem_append] at hc
  exact hc.elim (h c) (h' c)

theorem Unbroken.lineFeed_notMem {text : String} (h : Unbroken text) : '\n' ∉ text.toList := by
  intro hmem
  have hbreak : isLineBreak '\n' = true := by decide
  rw [h '\n' hmem] at hbreak
  cases hbreak

theorem Unbroken.splitLast {text : String} (h : Unbroken text) :
    Unbroken (splitLast text).1 ∧ Unbroken (splitLast text).2 :=
  ⟨fun c hc => h c (mem_of_mem_splitLast (.inl hc)),
    fun c hc => h c (mem_of_mem_splitLast (.inr hc))⟩

theorem isDigit_of_mem_toString {n : Nat} {c : Char} (h : c ∈ (toString n).toList) :
    c.isDigit = true := by
  have hdigits : (toString n).toList = Nat.toDigits 10 n := Nat.toList_repr
  rw [hdigits] at h
  exact Nat.isDigit_of_mem_toDigits (by decide) (by decide) h

theorem toString_injective : Function.Injective (toString : Nat → String) := by
  have hread : Function.LeftInverse (fun text : String => Nat.ofDigitChars 10 text.toList 0)
      (toString : Nat → String) := by
    intro n
    simp only [Nat.toString_eq_ofList_toDigits, String.toList_ofList, Nat.ofDigitChars_ten_toDigits]
  exact hread.injective

theorem joinLines_map_joinLines {blocks : List (List String)} (h : ∀ block ∈ blocks, block ≠ []) :
    joinLines (blocks.map joinLines) = joinLines blocks.flatten := by
  induction blocks with
  | nil => rfl
  | cons block rest ih =>
      have hblock : block ≠ [] := h block (by simp)
      have hrest : ∀ other ∈ rest, other ≠ [] := fun other hother => h other (by simp [hother])
      cases rest with
      | nil => simp
      | cons other rest =>
          have hflatten : (other :: rest).flatten ≠ [] := by simp [hrest other (by simp)]
          have hmap : (other :: rest).map joinLines ≠ [] := by simp
          have hjoin : joinLines (block ++ (other :: rest).flatten) =
              joinLines block ++ "\n" ++ joinLines (other :: rest).flatten :=
            joinLines_append hblock hflatten
          rw [List.map_cons, joinLines_cons _ hmap, ih hrest, ← hjoin]
          rfl

theorem head?_joinLines {line : String} (rest : List String) (h : line ≠ "") :
    (joinLines (line :: rest)).toList.head? = line.toList.head? := by
  have hne : line.toList ≠ [] := by simpa using h
  cases rest with
  | nil => rw [joinLines_singleton]
  | cons other rest =>
      rw [joinLines_cons line (by simp), String.toList_append, String.toList_append,
        List.append_assoc, List.head?_append_of_ne_nil _ hne]

theorem getLast?_joinLines (lines : List String) {line : String} (h : line ≠ "") :
    (joinLines (lines ++ [line])).toList.getLast? = line.toList.getLast? := by
  have hne : line.toList ≠ [] := by simpa using h
  cases lines with
  | nil => simp
  | cons first lines =>
      rw [joinLines_append (by simp) (by simp), joinLines_singleton, String.toList_append,
        List.getLast?_append_of_ne_nil _ hne]

theorem ne_nil_of_mem_lines {text line : List Char} (h : line ∈ lines text) : line ≠ [] := by
  induction text generalizing line with
  | nil => cases h
  | cons c rest ih =>
      rw [lines] at h
      split at h
      · rcases List.mem_cons.1 h with rfl | hrest
        · simp
        · exact ih hrest
      · split at h
        · rw [List.mem_singleton.1 h]
          simp
        · next first more heq =>
            rcases List.mem_cons.1 h with rfl | hmore
            · simp
            · exact ih (by rw [heq]; exact List.mem_cons_of_mem _ hmore)

theorem getLast?_indentChars (margin text : List Char) :
    (indentChars margin text).getLast? = text.getLast? := by
  have htext : (lines text).flatten = text := flatten_lines text
  rcases List.eq_nil_or_concat (lines text) with hnil | ⟨init, last, hlines⟩
  · rw [hnil] at htext
    simp [← htext]
  · rw [List.concat_eq_append] at hlines
    rw [hlines] at htext
    have hne : last ≠ [] := ne_nil_of_mem_lines (hlines ▸ List.mem_concat_self)
    have hlast : (if isBlankLine last then last else margin ++ last).getLast? = last.getLast? := by
      split
      · rfl
      · exact List.getLast?_append_of_ne_nil margin hne
    have hindented : (if isBlankLine last then last else margin ++ last) ≠ [] := by
      split
      · exact hne
      · simp [hne]
    rw [indentChars, hlines, List.flatMap_append, List.flatMap_singleton,
      List.getLast?_append_of_ne_nil _ hindented, hlast, ← htext, List.flatten_append,
      List.flatten_singleton, List.getLast?_append_of_ne_nil _ hne]

theorem getLast?_indent (margin text : String) :
    (indent margin text).toList.getLast? = text.toList.getLast? := by
  rw [toList_indent, getLast?_indentChars]

/-- Text joined from lines without line feeds is cut into them again. -/
theorem splitOn_joinLines {parts : List String} (hparts : parts ≠ [])
    (h : ∀ part ∈ parts, '\n' ∉ part.toList) :
    (joinLines parts).toList.splitOn '\n' = parts.map String.toList := by
  rw [joinLines, String.toList_intercalate]
  refine List.splitOn_intercalate '\n' ?_ (by simpa using hparts)
  simpa using h

/-- A line with a margin, unless it is blank. -/
def indentLine (margin line : String) : String :=
  if isBlankLine line.toList then line else margin ++ line

theorem indentLine_append (margin : String) {opening : String}
    (h : isBlankLine opening.toList = false) (rest : String) :
    indentLine margin (opening ++ rest) = margin ++ opening ++ rest := by
  have hline : isBlankLine (opening ++ rest).toList = false := by
    rw [isBlankLine, String.toList_append, List.all_append, ← isBlankLine, h, Bool.false_and]
  rw [indentLine, hline, String.append_assoc]
  rfl

theorem lines_ne_nil {text : List Char} (h : text ≠ []) : lines text ≠ [] := by
  intro hnil
  have hflatten := flatten_lines text
  rw [hnil] at hflatten
  exact h hflatten.symm

/-- A line feed ends a line wherever it stands. -/
theorem lines_append_lineFeed (text rest : List Char) :
    lines (text ++ '\n' :: rest) = lines (text ++ ['\n']) ++ lines rest := by
  induction text with
  | nil => rfl
  | cons c text ih =>
      have hhead : (text ++ '\n' :: rest).head? = (text ++ ['\n']).head? := by cases text <;> rfl
      rw [List.cons_append, List.cons_append, lines, lines, hhead, ih]
      split
      · rfl
      · cases hlines : lines (text ++ ['\n']) with
        | nil => exact absurd hlines (lines_ne_nil (by simp))
        | cons line more => rfl

/-- A line feed behind a text belongs to its last line, or is a line of its own. -/
theorem lines_append_singleton_lineFeed (text : List Char) :
    lines (text ++ ['\n']) = lines text ++ [['\n']] ∨
      ∃ init last, lines text = init ++ [last] ∧
        lines (text ++ ['\n']) = init ++ [last ++ ['\n']] := by
  induction text with
  | nil => exact .inl rfl
  | cons c text ih =>
      cases text with
      | nil =>
          by_cases hbreak : isLineBreak c = true
          · by_cases hreturn : c = '\r'
            · subst hreturn
              exact .inr ⟨[], ['\r'], rfl, rfl⟩
            · have hc : (c == '\r') = false := by simpa using hreturn
              exact .inl (by simp [lines, hbreak, hc])
          · exact .inr ⟨[], [c], by simp [lines, hbreak], by simp [lines, hbreak]⟩
      | cons d text =>
          have hhead : (d :: text ++ ['\n']).head? = (d :: text).head? := rfl
          rw [List.cons_append, lines, lines, hhead]
          split
          · rcases ih with h | ⟨init, last, hlines, h⟩
            · exact .inl (by rw [h]; rfl)
            · exact .inr ⟨[c] :: init, last, by rw [hlines]; rfl, by rw [h]; rfl⟩
          -- The character goes to the first line, which may be the last one too.
          · rcases ih with h | ⟨init, last, hlines, h⟩
            · cases hlines : lines (d :: text) with
              | nil => exact absurd hlines (lines_ne_nil (by simp))
              | cons line more =>
                  rw [hlines] at h
                  exact .inl (by rw [h]; rfl)
            · cases init with
              | nil => exact .inr ⟨[], c :: last, by rw [hlines]; rfl, by rw [h]; rfl⟩
              | cons line more =>
                  exact .inr ⟨(c :: line) :: more, last, by rw [hlines]; rfl, by rw [h]; rfl⟩

theorem indentChars_append_singleton_lineFeed (margin text : List Char) :
    indentChars margin (text ++ ['\n']) = indentChars margin text ++ ['\n'] := by
  rcases lines_append_singleton_lineFeed text with h | ⟨init, last, hlines, h⟩
  · have hblank : isBlankLine ['\n'] = true := by decide
    rw [indentChars, h, List.flatMap_append, List.flatMap_singleton, hblank]
    rfl
  · have hfeed : isBlank '\n' = true := by decide
    have hblank : isBlankLine (last ++ ['\n']) = isBlankLine last := by simp [isBlankLine, hfeed]
    rw [indentChars, indentChars, h, hlines, List.flatMap_append, List.flatMap_append,
      List.flatMap_singleton, List.flatMap_singleton, hblank, List.append_assoc]
    by_cases hlast : isBlankLine last = true <;> simp [hlast]

/-- Before and behind a line feed a text is indented on its own. -/
theorem indent_append_lineFeed (margin text rest : String) :
    indent margin (text ++ "\n" ++ rest) = indent margin text ++ "\n" ++ indent margin rest := by
  have htext : (text ++ "\n" ++ rest).toList = text.toList ++ '\n' :: rest.toList := by simp
  have hsplit : indentChars margin.toList (text.toList ++ '\n' :: rest.toList) =
      indentChars margin.toList (text.toList ++ ['\n']) ++
        indentChars margin.toList rest.toList := by
    rw [indentChars, lines_append_lineFeed, List.flatMap_append]
    rfl
  apply String.toList_inj.1
  rw [toList_indent, htext, hsplit, indentChars_append_singleton_lineFeed]
  simp

/-- To indent joined texts is to indent each of them, whatever line breaks they have. -/
theorem indent_joinLines (margin : String) (parts : List String) :
    indent margin (joinLines parts) = joinLines (parts.map (indent margin)) := by
  induction parts with
  | nil => rfl
  | cons part rest ih =>
      cases rest with
      | nil => simp
      | cons other rest =>
          have hmap : (other :: rest).map (indent margin) ≠ [] := by simp
          rw [joinLines_cons part (List.cons_ne_nil other rest), indent_append_lineFeed, ih,
            ← joinLines_cons _ hmap]
          rfl

theorem lines_of_unbroken {line : List Char} (h : ∀ c ∈ line, isLineBreak c = false)
    (hne : line ≠ []) : lines line = [line] := by
  induction line with
  | nil => exact absurd rfl hne
  | cons c line ih =>
      rw [lines, h c List.mem_cons_self]
      cases line with
      | nil => rfl
      | cons d line =>
          rw [ih (fun e he => h e (List.mem_cons_of_mem c he)) (by simp)]
          rfl

theorem indent_of_unbroken (margin : String) {line : String} (h : Unbroken line) :
    indent margin line = indentLine margin line := by
  apply String.toList_inj.1
  rw [toList_indent, indentLine]
  by_cases hne : line.toList = []
  · simp [hne, isBlankLine]
  · rw [indentChars, lines_of_unbroken h hne]
    by_cases hblank : isBlankLine line.toList <;> simp [hblank]

/-- Lines without breaks of their own get one margin each, unless they are blank. -/
theorem indent_joinLines_of_unbroken (margin : String) {parts : List String}
    (h : ∀ part ∈ parts, Unbroken part) :
    indent margin (joinLines parts) = joinLines (parts.map (indentLine margin)) := by
  have hparts : parts.map (indent margin) = parts.map (indentLine margin) :=
    List.map_congr_left fun part hpart => indent_of_unbroken margin (h part hpart)
  rw [indent_joinLines, hparts]

end Text

end OwnerBinding
