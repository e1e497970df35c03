import OwnerBinding.Text.Dotted
import OwnerBinding.Text.IdentifierRanges

/-!
# Identifiers of generated code

An identifier of the generated code starts with an `XID_Start` character or a low line, goes on with
`XID_Continue` characters, and is not a reserved word. Which texts are the same identifier is a matter
of their normalization (see `OwnerBinding.Text.normalized`). A package is named by identifiers joined by
dots, or by the empty text.
-/

namespace OwnerBinding

namespace Text

/-- Whether a number lies in one of the closed ranges. -/
def inRanges (ranges : List (Nat × Nat)) (n : Nat) : Bool :=
  ranges.any fun range => range.1 ≤ n && n ≤ range.2

/-- Whether an identifier may start with the character. -/
def isIdentifierStart (c : Char) : Bool :=
  c == '_' || inRanges identifierStartRanges c.toNat

/-- Whether the character may stand behind the first of an identifier. -/
def isIdentifierContinue (c : Char) : Bool :=
  inRanges identifierStartRanges c.toNat || inRanges identifierOnlyContinueRanges c.toNat

/-- The words that the generated code reserves. Words with a meaning in some positions only are not
among them. -/
def reservedWords : List String :=
  ["False", "None", "True", "and", "as", "assert", "async", "await", "break", "class", "continue",
    "def", "del", "elif", "else", "except", "finally", "for", "from", "global", "if", "import",
    "in", "is", "lambda", "nonlocal", "not", "or", "pass", "raise", "return", "try", "while",
    "with", "yield"]

/-- Whether the characters have the form of an identifier. -/
def hasIdentifierForm : List Char → Bool
  | [] => false
  | first :: rest => isIdentifierStart first && rest.all isIdentifierContinue

/-- Whether the text can name a class or a module of the generated code. -/
def isIdentifier (name : String) : Bool :=
  hasIdentifierForm name.toList && !reservedWords.contains name

/-- Whether the text can name a package: nothing at all, or identifiers joined by dots. -/
def isPackageName (name : String) : Bool :=
  name.isEmpty || (components name).all isIdentifier

theorem hasIdentifierForm_of_isIdentifier {name : String} (h : isIdentifier name = true) :
    hasIdentifierForm name.toList = true := by
  simp only [isIdentifier, Bool.and_eq_true] at h
  exact h.1

end Text

end OwnerBinding
