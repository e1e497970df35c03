import OwnerBinding.Text.Lines

/-!
# Templates

A template is text with places for values in it, given line by line. Some of its lines stand only
under a condition, others once for each member of a list. What says so stands on lines of its own,
and such a line leaves nothing behind, not even its end.

A template stops with its last line and not behind it. So it is rendered as its lines joined by line
feeds if it ends with a plain line (`render_eq_joinLines`), and as its lines each with a line feed if
it ends with repeated ones (`render_eq_endLines`).
-/

namespace OwnerBinding

namespace Template

/-- A piece of a line: text as it stands, or a place where a value is put in as it is. -/
inductive Piece (α : Type) where
  | text (content : String)
  | place (value : α → String)

abbrev Line (α : Type) := List (Piece α)

/-- A part of a template for values `α`, with lists of members `β` in them. -/
inductive Part (α β : Type) where
  | line (pieces : Line α)
  /-- Lines that stand only if the values meet a condition. -/
  | given (condition : α → Bool) (lines : List (Line α))
  /-- Lines that stand once for each member of a list. -/
  | each (members : α → List β) (lines : List (Line (α × β)))

end Template

/-- A template, from its first part to its last. -/
abbrev Template (α β : Type) := List (Template.Part α β)

namespace Template

variable {α β : Type}

def Piece.render (values : α) : Piece α → String
  | .text content => content
  | .place value => value values

def renderLine (values : α) : Line α → String
  | [] => ""
  | piece :: rest => piece.render values ++ renderLine values rest

/-- The lines that a part gives. -/
def Part.lines (values : α) : Part α β → List String
  | .line pieces => [renderLine values pieces]
  | .given condition lines => if condition values then lines.map (renderLine values) else []
  | .each members lines =>
      (members values).flatMap fun member => lines.map (renderLine (values, member))

/-- Lines with a line feed behind each. -/
def endLines : List String → String
  | [] => ""
  | line :: rest => line ++ "\n" ++ endLines rest

/-- The text of a template. Only a plain line can stand at the end without a line feed. -/
def render (values : α) : Template α β → String
  | [] => ""
  | [.line pieces] => renderLine values pieces
  | part :: rest => endLines (part.lines values) ++ render values rest

theorem endLines_append (lines rest : List String) :
    endLines (lines ++ rest) = endLines lines ++ endLines rest := by
  induction lines with
  | nil => simp [endLines]
  | cons line lines ih => simp [endLines, ih, String.append_assoc]

theorem endLines_append_joinLines (lines : List String) {rest : List String} (h : rest ≠ []) :
    endLines lines ++ Text.joinLines rest = Text.joinLines (lines ++ rest) := by
  induction lines with
  | nil => simp [endLines]
  | cons line lines ih =>
      rw [List.cons_append, Text.joinLines_cons line (by simp [h]), ← ih, endLines]
      simp [String.append_assoc]

theorem endLines_eq_joinLines {lines : List String} (h : lines ≠ []) :
    endLines lines = Text.joinLines lines ++ "\n" := by
  induction lines with
  | nil => exact absurd rfl h
  | cons line rest ih =>
      cases rest with
      | nil => simp [endLines]
      | cons other rest =>
          rw [endLines, ih (by simp), Text.joinLines_cons line (by simp)]
          simp [String.append_assoc]

theorem render_cons (values : α) (part : Part α β) {rest : Template α β} (h : rest ≠ []) :
    render values (part :: rest) = endLines (part.lines values) ++ render values rest := by
  cases rest with
  | nil => exact absurd rfl h
  | cons next rest => cases part <;> rfl

/-- A template that ends with a plain line is rendered as its lines, joined. -/
theorem render_eq_joinLines (values : α) {template : Template α β} {line : Line α}
    (h : template.getLast? = some (.line line)) :
    render values template = Text.joinLines (template.flatMap (Part.lines values)) := by
  induction template with
  | nil => cases h
  | cons part rest ih =>
      cases rest with
      | nil =>
          obtain rfl : part = .line line := Option.some.inj h
          simp [render, Part.lines]
      | cons next rest =>
          rw [List.getLast?_cons_cons] at h
          have hlines : (next :: rest).flatMap (Part.lines values) ≠ [] := by
            have hmem := List.mem_of_getLast? h
            rw [ne_eq, List.flatMap_eq_nil_iff]
            intro hnil
            have hline := hnil _ hmem
            simp [Part.lines] at hline
          rw [render_cons values part (by simp), ih h, endLines_append_joinLines _ hlines]
          simp

/-- A template that ends with repeated lines is rendered as its lines, each with its end. -/
theorem render_eq_endLines (values : α) {template : Template α β} {members : α → List β}
    {lines : List (Line (α × β))} (h : template.getLast? = some (.each members lines)) :
    render values template = endLines (template.flatMap (Part.lines values)) := by
  induction template with
  | nil => cases h
  | cons part rest ih =>
      cases rest with
      | nil =>
          obtain rfl : part = .each members lines := Option.some.inj h
          simp [render]
      | cons next rest =>
          rw [List.getLast?_cons_cons] at h
          rw [render_cons values part (by simp), ih h, ← endLines_append]
          simp

end Template

end OwnerBinding
