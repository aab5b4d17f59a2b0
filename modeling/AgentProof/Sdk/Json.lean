import AgentProof.Sdk.Hex

/-!
# JSON values as JavaScript sees them

What `JSON.parse` returns, and what property reads, truthiness and `BigInt` do
with it.  A number is the exact value of its double.  `undefined` is `none`
wherever a read may give it.
-/

namespace AgentProof

inductive Json
  | null
  | bool (b : Bool)
  | num (value : Rat)
  | str (s : Text)
  | arr (elements : List Json)
  | obj (fields : List (Text × Json))

namespace Json

open Js

def typeError {α : Type} (message : Text) : Except JsError α :=
  .error ⟨"TypeError".toList, message⟩

def isNull : Json → Bool
  | null => true
  | _ => false

/-- `v.key`, for a key no prototype has; `null` has no properties to read. -/
def property (v : Json) (key : Text) : Except JsError (Option Json) :=
  match v with
  | null => typeError ("Cannot read properties of null (reading '".toList ++ key ++ "')".toList)
  | obj fields => .ok (fields.lookup key)
  | _ => .ok none

/-- `v.length`. -/
def lengthOf (v : Json) : Except JsError (Option Json) :=
  match v with
  | str s => .ok (some (num s.length))
  | arr elements => .ok (some (num elements.length))
  | v => v.property "length".toList

/-- `v[0]`. -/
def first (v : Json) : Except JsError (Option Json) :=
  match v with
  | str s => .ok (s.head?.map fun c => str [c])
  | arr elements => .ok elements.head?
  | v => v.property "0".toList

/-- `v?.read`: `undefined` and `null` are not read. -/
def chain (v : Option Json) (read : Json → Except JsError (Option Json)) :
    Except JsError (Option Json) :=
  match v with
  | none | some null => .ok none
  | some v => read v

def truthy : Json → Bool
  | null => false
  | bool b => b
  | num value => value ≠ 0
  | str s => s ≠ []
  | arr _ | obj _ => true

/-- `BigInt(n)` of a number. -/
def bigIntOfNumber (value : Rat) : Except JsError Int :=
  if value.den = 1 then .ok value.num
  else .error ⟨"RangeError".toList,
    "The number cannot be converted to a BigInt because it is not an integer".toList⟩

/-- `BigInt(String(v))` of an array element: the text of a number is a decimal
numeral below 10^21 only, and an array of several elements has a comma in it. -/
def bigIntOfElement : Json → Except JsError Int
  | null => .ok 0
  | num value =>
      if value.den = 1 ∧ value.num.natAbs < 10 ^ 21 then .ok value.num
      else .error ⟨"SyntaxError".toList, "Cannot convert to a BigInt".toList⟩
  | str s => bigInt s
  | arr [] => .ok 0
  | arr [v] => bigIntOfElement v
  | _ => .error ⟨"SyntaxError".toList, "Cannot convert to a BigInt".toList⟩

/-- `BigInt(v)`. -/
def toBigInt : Option Json → Except JsError Int
  | none => typeError "Cannot convert undefined to a BigInt".toList
  | some null => typeError "Cannot convert null to a BigInt".toList
  | some (bool b) => .ok (if b then 1 else 0)
  | some (num value) => bigIntOfNumber value
  | some (str s) => bigInt s
  | some (arr elements) => bigIntOfElement (arr elements)
  | some (obj _) => .error ⟨"SyntaxError".toList, "Cannot convert to a BigInt".toList⟩

/-! ## Well-formed replies -/

/-- The value of an object's field. -/
def field (v : Json) (key : Text) : Option Json :=
  match v with
  | obj fields => fields.lookup key
  | _ => none

/-- Elements of an array. -/
def elements? : Json → Option (List Json)
  | arr elements => some elements
  | _ => none

/-- Off `null`, a property read is the field. -/
theorem property_of_ne_null {v : Json} (some : v ≠ null) (key : Text) :
    v.property key = .ok (v.field key) := by
  cases v <;> first | rfl | exact absurd rfl some

end Json

end AgentProof
