import OwnerBinding.Entries
import OwnerBinding.Json.Basic

/-!
# Reading a JSON text

`Json.read` reads a whole text as one value: the grammar of RFC 8259, with the numbers `NaN`,
`Infinity` and `-Infinity` besides. Blanks may stand around any value and any punctuation mark.
Strings hold no control character below U+0020, and an escaped surrogate has to be followed by its
other half. A repeated key keeps its first place and takes its last value.

A reader takes the characters that are left and gives a value with the characters behind it, which
are fewer (`Rest`). Containers are read down to a given depth, where empty ones do not count, and
numbers up to a length in front of their fraction (`wholeDigitLimit`).
-/

namespace OwnerBinding

namespace Json

/-- What is left of a text after at least one of its characters was read. -/
abbrev Rest (text : List Char) := { rest : List Char // rest.length < text.length }

/-- What is left after the first character, and more of the rest. -/
def Rest.cons {text : List Char} (c : Char) (rest : Rest text) : Rest (c :: text) :=
  ⟨rest.1, Nat.lt_succ_of_lt rest.2⟩

def Rest.trans {text : List Char} (rest : Rest text) (later : Rest rest.1) : Rest text :=
  ⟨later.1, Nat.lt_trans later.2 rest.2⟩

/-- The characters that may stand between the parts of a text. -/
def isJsonBlank (c : Char) : Bool := c == ' ' || c == '\t' || c == '\n' || c == '\r'

def skipBlanks (text : List Char) : List Char := text.dropWhile isJsonBlank

theorem length_skipBlanks_le (text : List Char) : (skipBlanks text).length ≤ text.length :=
  (List.dropWhile_suffix isJsonBlank).length_le

/-- The text behind a given mark, if it starts with it after blanks. -/
def readMark (mark : Char) (text : List Char) : Option (Rest text) :=
  match h : skipBlanks text with
  | [] => none
  | c :: rest =>
      if c = mark then
        some ⟨rest, by
          have := length_skipBlanks_le text
          rw [h, List.length_cons] at this
          omega⟩
      else none

/-- The text behind a given word, if it starts with it. -/
def readWord : (word text : List Char) → Option { rest : List Char // rest.length ≤ text.length }
  | [], text => some ⟨text, Nat.le_refl _⟩
  | _ :: _, [] => none
  | w :: word, c :: text =>
      if w = c then
        (readWord word text).map fun rest => ⟨rest.1, Nat.le_succ_of_le rest.2⟩
      else none

def hexDigit? (c : Char) : Option Nat :=
  if '0' ≤ c ∧ c ≤ '9' then some (c.toNat - '0'.toNat)
  else if 'a' ≤ c ∧ c ≤ 'f' then some (c.toNat - 'a'.toNat + 10)
  else if 'A' ≤ c ∧ c ≤ 'F' then some (c.toNat - 'A'.toNat + 10)
  else none

/-- The number of four hexadecimal digits. -/
def readHex : (text : List Char) → Option (Nat × Rest text)
  | a :: b :: c :: d :: rest => do
      let a ← hexDigit? a
      let b ← hexDigit? b
      let c ← hexDigit? c
      let d ← hexDigit? d
      some (((a * 16 + b) * 16 + c) * 16 + d, ⟨rest, by simp only [List.length_cons]; omega⟩)
  | _ => none

/-- The character of a hexadecimal escape, read behind its letter. A number in the first half of the
surrogates asks for a second escape, and the pair stands for one character. -/
def readHexEscape (text : List Char) : Option (Char × Rest text) :=
  match readHex text with
  | none => none
  | some (unit, rest) =>
      if 0xD800 ≤ unit ∧ unit < 0xDC00 then
        match hrest : rest.1 with
        | '\\' :: 'u' :: more =>
            match readHex more with
            | none => none
            | some (second, last) =>
                if 0xDC00 ≤ second ∧ second < 0xE000 then
                  some (Char.ofNat (0x10000 + (unit - 0xD800) * 0x400 + (second - 0xDC00)),
                    ⟨last.1, by
                      have h1 := rest.2
                      have h2 := last.2
                      rw [hrest] at h1
                      simp only [List.length_cons] at h1
                      omega⟩)
                else none
        | _ => none
      else if 0xDC00 ≤ unit ∧ unit < 0xE000 then none
      else some (Char.ofNat unit, rest)

/-- The character of an escape, read behind the reverse solidus. -/
def readEscape : (text : List Char) → Option (Char × Rest text)
  | [] => none
  | c :: rest =>
      let one (read : Char) : Option (Char × Rest (c :: rest)) := some (read, ⟨rest, by simp⟩)
      if c = '"' then one '"'
      else if c = '\\' then one '\\'
      else if c = '/' then one '/'
      else if c = 'b' then one (Char.ofNat 0x08)
      else if c = 'f' then one (Char.ofNat 0x0C)
      else if c = 'n' then one '\n'
      else if c = 'r' then one '\r'
      else if c = 't' then one '\t'
      else if c = 'u' then (readHexEscape rest).map fun result => (result.1, result.2.cons c)
      else none

/-- The characters of a string up to its closing quotation mark. -/
def readStringTail (text : List Char) : Option (List Char × Rest text) :=
  match text with
  | [] => none
  | '"' :: rest => some ([], ⟨rest, Nat.lt_succ_self _⟩)
  | '\\' :: rest =>
      match readEscape rest with
      | none => none
      | some (c, more) =>
          have : more.1.length < ('\\' :: rest).length := Nat.lt_succ_of_lt more.2
          (readStringTail more.1).map fun result =>
            (c :: result.1, (more.cons '\\').trans result.2)
  | c :: rest =>
      if c.toNat < 0x20 then none
      else (readStringTail rest).map fun result => (c :: result.1, result.2.cons c)
termination_by text.length
decreasing_by
  · assumption
  · exact Nat.lt_succ_self _

def readString (text : List Char) : Option (String × Rest text) :=
  match readMark '"' text with
  | none => none
  | some rest =>
      (readStringTail rest.1).map fun result => (String.ofList result.1, rest.trans result.2)

/-- The digits at the start of a text, and what is behind them. -/
def readDigits (text : List Char) : List Char × List Char :=
  (text.takeWhile Char.isDigit, text.dropWhile Char.isDigit)

/-- The number that decimal digits write. -/
def digitsValue (digits : List Char) : Nat :=
  digits.foldl (fun value c => 10 * value + (c.toNat - '0'.toNat)) 0

/-- How many digits a number may have in front of its fraction. -/
def wholeDigitLimit : Nat := 4300

/-- The digits in front of the fraction: a lone zero, or digits that do not start with zero. -/
def readWholeDigits : List Char → Option (List Char × List Char)
  | '0' :: rest => some (['0'], rest)
  | text =>
      match readDigits text with
      | ([], _) => none
      | (digits, rest) => if digits.length ≤ wholeDigitLimit then some (digits, rest) else none

/-- The digits of a fraction, if a point follows. A point without digits is refused. -/
def readFraction : List Char → Option (Option (List Char) × List Char)
  | '.' :: rest =>
      match readDigits rest with
      | ([], _) => none
      | (digits, more) => some (some digits, more)
  | text => some (none, text)

/-- The digits of an exponent with its sign. -/
def readExponentValue : List Char → Option (Int × List Char)
  | '-' :: rest =>
      match readDigits rest with
      | ([], _) => none
      | (digits, more) => some (-(digitsValue digits : Int), more)
  | text =>
      match readDigits (if text.head? = some '+' then text.drop 1 else text) with
      | ([], _) => none
      | (digits, more) => some (digitsValue digits, more)

/-- The exponent, if its letter follows. A letter without digits is refused. -/
def readExponent : List Char → Option (Option Int × List Char)
  | 'e' :: rest => (readExponentValue rest).map fun result => (some result.1, result.2)
  | 'E' :: rest => (readExponentValue rest).map fun result => (some result.1, result.2)
  | text => some (none, text)

/-- A number without its sign, as the function from the sign to the number. -/
def readUnsigned (text : List Char) : Option ((Bool → Number) × List Char) := do
  let (whole, afterWhole) ← readWholeDigits text
  let (fraction, afterFraction) ← readFraction afterWhole
  let (exponent, rest) ← readExponent afterFraction
  let size : Int := digitsValue (whole ++ fraction.getD [])
  let number (negative : Bool) : Number :=
    let value := if negative then -size else size
    match fraction, exponent with
    | none, none => .whole value
    | _, _ => .decimal value (exponent.getD 0 - (fraction.getD []).length)
  some (number, rest)

/-- A number: digits with an optional sign, or one of the words for numbers that digits cannot
write. -/
def readNumber (text : List Char) : Option (Number × List Char) :=
  match readWord "NaN".toList text, readWord "Infinity".toList text,
      readWord "-Infinity".toList text with
  | some rest, _, _ => some (.notANumber, rest.1)
  | _, some rest, _ => some (.infinite false, rest.1)
  | _, _, some rest => some (.infinite true, rest.1)
  | none, none, none =>
      match text with
      | '-' :: rest => (readUnsigned rest).map fun result => (result.1 true, result.2)
      | _ => (readUnsigned text).map fun result => (result.1 false, result.2)

/-- A value that is no container and no string. -/
def readScalar (text : List Char) : Option (Json × List Char) :=
  match readWord "null".toList text, readWord "true".toList text, readWord "false".toList text with
  | some rest, _, _ => some (.null, rest.1)
  | _, some rest, _ => some (.bool true, rest.1)
  | _, _, some rest => some (.bool false, rest.1)
  | none, none, none => (readNumber text).map fun result => (.number result.1, result.2)

/-- The results of a reader that leave less than they were given. -/
def shorter {α : Type} (text : List Char) : Option (α × List Char) → Option (α × Rest text)
  | none => none
  | some (value, rest) =>
      if h : rest.length < text.length then some (value, ⟨rest, h⟩) else none

/-- The items of an array behind its first mark or behind a comma, up to the closing mark. -/
def readItems (readValue : (text : List Char) → Option (Json × Rest text)) (text : List Char) :
    Option (List Json × Rest text) :=
  match readValue text with
  | none => none
  | some (item, rest) =>
      match readMark ',' rest.1 with
      | some more =>
          have : more.1.length < text.length := Nat.lt_trans more.2 rest.2
          (readItems readValue more.1).map fun result =>
            (item :: result.1, (rest.trans more).trans result.2)
      | none => (readMark ']' rest.1).map fun last => ([item], rest.trans last)
termination_by text.length

/-- The members of an object behind its first mark or behind a comma, up to the closing mark. They
are put one after the other, so a repeated key takes its last value. -/
def readMembers (readValue : (text : List Char) → Option (Json × Rest text))
    (members : List (String × Json)) (text : List Char) :
    Option (List (String × Json) × Rest text) :=
  match readString text with
  | none => none
  | some (key, behindKey) =>
      match readMark ':' behindKey.1 with
      | none => none
      | some behindColon =>
          match readValue behindColon.1 with
          | none => none
          | some (value, behindValue) =>
              let all := Entries.put key value members
              let rest := (behindKey.trans behindColon).trans behindValue
              match readMark ',' rest.1 with
              | some more =>
                  have : more.1.length < text.length := Nat.lt_trans more.2 rest.2
                  (readMembers readValue all more.1).map fun result =>
                    (result.1, (rest.trans more).trans result.2)
              | none => (readMark '}' rest.1).map fun last => (all, rest.trans last)
termination_by text.length

/-- A value with at most `depth` containers inside each other, with blanks before it. A container
that holds nothing does not count. -/
def readValue : (depth : Nat) → (text : List Char) → Option (Json × Rest text)
  | depth, text =>
      match readString text with
      | some (value, rest) => some (.string value, rest)
      | none =>
          match readMark '[' text, readMark '{' text with
          | some rest, _ =>
              match readMark ']' rest.1, depth with
              | some last, _ => some (.array [], rest.trans last)
              | none, depth + 1 =>
                  (readItems (readValue depth) rest.1).map fun result =>
                    (.array result.1, rest.trans result.2)
              | none, 0 => none
          | none, some rest =>
              match readMark '}' rest.1, depth with
              | some last, _ => some (.object [], rest.trans last)
              | none, depth + 1 =>
                  (readMembers (readValue depth) [] rest.1).map fun result =>
                    (.object result.1, rest.trans result.2)
              | none, 0 => none
          | none, none => shorter text (readScalar (skipBlanks text))

/-- How many containers may be open at once in a text from outside. -/
def depthLimit : Nat := 200

/-- The value of a whole text, which holds nothing behind its value but blanks. -/
def read (depth : Nat) (text : String) : Option Json :=
  match readValue depth text.toList with
  | some (value, rest) => if skipBlanks rest.1 = [] then some value else none
  | none => none

/-- The value of a text given by its UTF-8 bytes. Bytes that are not UTF-8 are no text. -/
def readBytes (depth : Nat) (bytes : ByteArray) : Option Json :=
  (String.fromUTF8? bytes).bind (read depth)

end Json

end OwnerBinding
