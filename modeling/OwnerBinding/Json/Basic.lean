/-!
# Values of the JSON data format

A document is a tree of values. Numbers keep the distinction that their text makes: a number written
with digits alone is a whole number, one with a fraction or an exponent is a decimal. The texts
`NaN`, `Infinity` and `-Infinity` are numbers too.

The members of an object stand in the order of their first mention and have distinct keys.
-/

namespace OwnerBinding

inductive Json.Number where
  /-- A number written without fraction and exponent. -/
  | whole (value : Int)
  /-- The number `significand * 10 ^ exponent`, written with a fraction or an exponent. -/
  | decimal (significand exponent : Int)
  /-- The text `NaN`. -/
  | notANumber
  /-- The texts `Infinity` and `-Infinity`. -/
  | infinite (negative : Bool)
  deriving DecidableEq, Repr

inductive Json where
  | null
  | bool (value : Bool)
  | number (value : Json.Number)
  | string (value : String)
  | array (items : List Json)
  | object (members : List (String × Json))
  deriving Repr, Inhabited

namespace Json

/-- The value of a key among the members of an object. -/
def member? (key : String) (members : List (String × Json)) : Option Json :=
  members.lookup key

@[simp] theorem member?_nil (key : String) : member? key [] = none := rfl

theorem member?_cons (key : String) (member : String × Json) (rest : List (String × Json)) :
    member? key (member :: rest) =
      if member.1 = key then some member.2 else member? key rest := by
  obtain ⟨own, value⟩ := member
  by_cases h : own = key
  · simp [member?, h]
  · have : (key == own) = false := by simp [Ne.symm h]
    simp [member?, List.lookup_cons, h, this]

end Json

end OwnerBinding
