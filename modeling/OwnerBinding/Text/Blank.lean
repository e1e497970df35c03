/-!
# Blank characters and line boundaries

Two classes of characters, each given by its code points. A *blank* is a character that does not
make a line worth indenting. A *line break* ends a line; every line break is also blank. The
carriage return and the line feed are both line breaks, and stand for one boundary when they follow
each other in this order (see `OwnerBinding.Text.lines`).

To strip a text is to take away the blanks around it. What begins and ends visibly stays as it is,
whatever blanks were behind it (`strip_append`).
-/

namespace OwnerBinding

namespace Text

/-- White space in the wide sense: the Unicode property `White_Space` together with the four
information separators U+001C to U+001F. -/
def isBlank (c : Char) : Bool :=
  let n := c.toNat
  (0x09 ≤ n && n ≤ 0x0D) || (0x1C ≤ n && n ≤ 0x20) || n == 0x85 || n == 0xA0 || n == 0x1680 ||
    (0x2000 ≤ n && n ≤ 0x200A) || n == 0x2028 || n == 0x2029 || n == 0x202F || n == 0x205F ||
    n == 0x3000

/-- The characters that end a line: line feed, line tabulation, form feed, carriage return, the
file, group and record separators, next line, and the line and paragraph separators. -/
def isLineBreak (c : Char) : Bool :=
  let n := c.toNat
  (0x0A ≤ n && n ≤ 0x0D) || (0x1C ≤ n && n ≤ 0x1E) || n == 0x85 || n == 0x2028 || n == 0x2029

/-- A line break is blank, so a line that holds nothing but its own boundary is blank. -/
theorem isBlank_of_isLineBreak (c : Char) (h : isLineBreak c = true) : isBlank c = true := by
  simp only [isLineBreak, isBlank, Bool.or_eq_true, Bool.and_eq_true, decide_eq_true_eq,
    beq_iff_eq] at h ⊢
  omega

/-- The text without the blanks that it begins and ends with. -/
def stripChars (text : List Char) : List Char :=
  ((text.dropWhile isBlank).reverse.dropWhile isBlank).reverse

/-- The text without the blanks that it begins and ends with. -/
def strip (text : String) : String := String.ofList (stripChars text.toList)

theorem stripChars_append {text blanks : List Char} {first last : Char}
    (hhead : text.head? = some first) (hfirst : isBlank first = false)
    (hgetLast : text.getLast? = some last) (hlast : isBlank last = false)
    (hblanks : ∀ c ∈ blanks, isBlank c = true) : stripChars (text ++ blanks) = text := by
  have hfront : (text ++ blanks).dropWhile isBlank = text ++ blanks := by
    obtain ⟨rest, rfl⟩ := List.head?_eq_some_iff.1 hhead
    rw [List.cons_append, List.dropWhile_cons_of_neg (by simp [hfirst])]
  have hback : text.reverse.dropWhile isBlank = text.reverse := by
    rw [← List.head?_reverse] at hgetLast
    obtain ⟨rest, hrest⟩ := List.head?_eq_some_iff.1 hgetLast
    rw [hrest, List.dropWhile_cons_of_neg (by simp [hlast])]
  rw [stripChars, hfront, List.reverse_append,
    List.dropWhile_append_of_pos (by simpa using hblanks), hback, List.reverse_reverse]

/-- Only the blanks behind a text that begins and ends visibly are taken away. -/
theorem strip_append {text blanks : String} {first last : Char}
    (hhead : text.toList.head? = some first) (hfirst : isBlank first = false)
    (hgetLast : text.toList.getLast? = some last) (hlast : isBlank last = false)
    (hblanks : ∀ c ∈ blanks.toList, isBlank c = true) : strip (text ++ blanks) = text := by
  rw [strip, String.toList_append, stripChars_append hhead hfirst hgetLast hlast hblanks,
    String.ofList_toList]

end Text

end OwnerBinding
