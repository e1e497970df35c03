import OwnerBinding.Text.Blank

/-!
# Lines of a text, and indentation

`lines` cuts a text behind every line boundary and keeps the boundary with the line it ends, so the
lines concatenate to the text (`flatten_lines`). A text that ends with a boundary has no empty last
line, and the empty text has no line at all.

`indent` puts a margin in front of every line that is not blank. Text that is built from parts with
line breaks of their own is therefore indented at each of their boundaries too.
-/

namespace OwnerBinding

namespace Text

/-- The lines of a text, each with its boundary. A carriage return directly before a line feed
belongs to the same boundary. -/
def lines : List Char → List (List Char)
  | [] => []
  | c :: rest =>
      if isLineBreak c && !(c == '\r' && rest.head? == some '\n') then
        [c] :: lines rest
      else
        match lines rest with
        | [] => [[c]]
        | line :: more => (c :: line) :: more

@[simp] theorem lines_nil : lines [] = [] := rfl

/-- Cutting a text into lines loses nothing. -/
theorem flatten_lines (text : List Char) : (lines text).flatten = text := by
  induction text with
  | nil => rfl
  | cons c rest ih =>
      rw [lines]
      split
      · simp [ih]
      · split
        · next h => rw [h] at ih; simp at ih; simp [← ih]
        · next line more h => rw [h] at ih; simp at ih; simp [ih]

/-- Whether a line shows nothing. The empty line is blank. -/
def isBlankLine (line : List Char) : Bool := line.all isBlank

/-- The text with `margin` in front of each line that is not blank. -/
def indentChars (margin : List Char) (text : List Char) : List Char :=
  (lines text).flatMap fun line => if isBlankLine line then line else margin ++ line

@[simp] theorem indentChars_nil (margin : List Char) : indentChars margin [] = [] := rfl

/-- The text with `margin` in front of each line that is not blank. -/
def indent (margin text : String) : String :=
  String.ofList (indentChars margin.toList text.toList)

@[simp] theorem toList_indent (margin text : String) :
    (indent margin text).toList = indentChars margin.toList text.toList := by
  simp [indent]

/-- Lines joined by line feeds, without one at the end. -/
def joinLines (parts : List String) : String := "\n".intercalate parts

@[simp] theorem joinLines_singleton (part : String) : joinLines [part] = part :=
  String.intercalate_singleton

theorem joinLines_cons (part : String) {rest : List String} (h : rest ≠ []) :
    joinLines (part :: rest) = part ++ "\n" ++ joinLines rest :=
  String.intercalate_cons_of_ne_nil h

theorem joinLines_append {parts rest : List String} (hparts : parts ≠ []) (hrest : rest ≠ []) :
    joinLines (parts ++ rest) = joinLines parts ++ "\n" ++ joinLines rest :=
  String.intercalate_append_of_ne_nil hparts hrest

end Text

end OwnerBinding
