import OwnerBinding.Text.Identifier
import OwnerBinding.Text.NormalizationData

/-!
# Normalization of identifiers

Two texts are the same identifier of the generated code if they have the same normalization form KC:
characters are decomposed, marks are put into the order of their combining classes, and what composes
with the starter in front of it is composed. A text of ASCII characters is in this form already.
-/

namespace OwnerBinding

namespace Text

def isAscii (name : String) : Bool := name.toList.all fun c => c.toNat < 0x80

/-- The combining class of a character, which is zero for a starter. -/
def combiningClass (c : Char) : Nat :=
  ((combiningClasses.find? fun entry => inRanges entry.2 c.toNat).map Prod.fst).getD 0

/-! ## Hangul syllables -/

/-- The consonant and the vowel of a Hangul syllable, with its last consonant if it has one. -/
def hangulParts? (n : Nat) : Option (List Char) :=
  if 0xAC00 ≤ n ∧ n < 0xAC00 + 19 * 21 * 28 then
    let index := n - 0xAC00
    let opening := [Char.ofNat (0x1100 + index / (21 * 28)), Char.ofNat (0x1161 + index / 28 % 21)]
    some (if index % 28 = 0 then opening else opening ++ [Char.ofNat (0x11A7 + index % 28)])
  else none

/-- The Hangul syllable of a consonant and a vowel, or of a syllable without last consonant and a
consonant. -/
def hangulSyllable? (first second : Nat) : Option Char :=
  if 0x1100 ≤ first ∧ first < 0x1100 + 19 ∧ 0x1161 ≤ second ∧ second < 0x1161 + 21 then
    some (Char.ofNat (0xAC00 + ((first - 0x1100) * 21 + (second - 0x1161)) * 28))
  else if 0xAC00 ≤ first ∧ first < 0xAC00 + 19 * 21 * 28 ∧ (first - 0xAC00) % 28 = 0 ∧
      0x11A7 < second ∧ second < 0x11A7 + 28 then
    some (Char.ofNat (first + (second - 0x11A7)))
  else none

/-! ## The three steps -/

/-- The words of a text from the tables. -/
def words (text : String) : List (List Char) := text.toList.splitOn ' '

/-- The characters that a character is decomposed into. -/
def decompose (c : Char) : List Char :=
  match hangulParts? c.toNat with
  | some parts => parts
  | none =>
      match decompositions.find? fun entry => entry.1 ≤ c.toNat && c.toNat ≤ entry.2.1 with
      | some (first, _, images) => (words images).getD (c.toNat - first) [c]
      | none => [c]

/-- Puts a character in front, and a mark behind the marks of lower classes that stand there. -/
def insertMark (c : Char) : List Char → List Char
  | [] => [c]
  | next :: rest =>
      if combiningClass next ≠ 0 ∧ combiningClass next < combiningClass c then
        next :: insertMark c rest
      else c :: next :: rest

/-- The text with the marks behind each starter in the order of their classes. -/
def orderMarks (text : List Char) : List Char := text.foldr insertMark []

/-- What a character and one behind it compose to, if they do. -/
def compose? (first second : Char) : Option Char :=
  match hangulSyllable? first.toNat second.toNat with
  | some syllable => some syllable
  | none =>
      (compositions.filter (·.1 == second.toNat)).findSome? fun entry =>
        (words entry.2).findSome? fun word =>
          if word.head? = some first then word.getLast? else none

/-- Composes the last starter with what is behind it. `kept` are the marks in between that did not
compose, and a mark behind one of its own class or a higher one cannot. -/
def composeBehind (starter : Char) (kept : List Char) : List Char → List Char
  | [] => starter :: kept
  | c :: rest =>
      let blocked := kept.getLast?.any fun last => combiningClass c ≤ combiningClass last
      match if blocked then none else compose? starter c with
      | some composed => composeBehind composed kept rest
      | none =>
          if combiningClass c = 0 then starter :: kept ++ composeBehind c [] rest
          else composeBehind starter (kept ++ [c]) rest

/-- The composed text. Marks in front of the first starter stay. -/
def compose : List Char → List Char
  | [] => []
  | c :: rest => if combiningClass c = 0 then composeBehind c [] rest else c :: compose rest

/-- The normalization form KC of an identifier. -/
def normalized (name : String) : String :=
  if isAscii name then name
  else String.ofList (compose (orderMarks (name.toList.flatMap decompose)))

theorem normalized_of_isAscii {name : String} (h : isAscii name = true) : normalized name = name :=
  if_pos h

/-- A name of wide letters is that of the plain ones. -/
example : normalized "ｉsinstance" = "isinstance" := by decide +kernel

/-- A letter and its mark are one character, and so are the parts of a syllable. -/
example : normalized "cafe\u0301_\u1112\u1161\u11ab" = "café_한" := by decide +kernel

end Text

end OwnerBinding
