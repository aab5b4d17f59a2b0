import AgentProof.Lib.Binary64
import AgentProof.Sdk.Json

/-!
# JavaScript numbers

`Number(s)` of a string, `Math.round`, and `BigInt` of a number.  A string that `BigInt`
takes for an integer is a numeral to `Number` too, and is rounded to a double.
-/

namespace AgentProof

namespace Js

open Binary64

/-- Digits of a base. -/
def baseNumeral (b : Nat) (isBaseDigit : Char → Bool) (digits : Text) : Double :=
  if digits ≠ [] ∧ digits.all isBaseDigit then .round (numeral b digits : Nat) else .nan

/-- The exponent part of a decimal literal, if there is one. -/
def exponentPart : Text → Option Int
  | [] => some 0
  | e :: rest =>
      if e = 'e' ∨ e = 'E' then
        let (sign, digits) : Int × Text := match rest with
          | '-' :: digits => (-1, digits)
          | '+' :: digits => (1, digits)
          | digits => (1, digits)
        if digits ≠ [] ∧ digits.all isDigit then some (sign * (numeral 10 digits : Nat)) else none
      else none

/-- Digits, a point and digits, of which some are there, and an exponent. -/
def unsignedDecimal (s : Text) : Option Rat :=
  let whole := s.takeWhile isDigit
  let (fraction, rest) := match s.dropWhile isDigit with
    | '.' :: rest => (rest.takeWhile isDigit, rest.dropWhile isDigit)
    | rest => ([], rest)
  if whole = [] ∧ fraction = [] then none
  else (exponentPart rest).map fun exponent =>
    ((numeral 10 (whole ++ fraction) : Nat) : Rat) * 10 ^ (exponent - (fraction.length : Int))

def unsignedNumber (s : Text) : Double :=
  if s = "Infinity".toList then .infinite false
  else
    match unsignedDecimal s with
    | some value => .round value
    | none => .nan

/-- `Number(s)` of a string. -/
def number (s : Text) : Double :=
  match trim s with
  | [] => .finite 0
  | '0' :: 'x' :: digits | '0' :: 'X' :: digits => baseNumeral 16 isHexDigit digits
  | '0' :: 'o' :: digits | '0' :: 'O' :: digits =>
      baseNumeral 8 (fun c => isDigit c && c.toNat < 56) digits
  | '0' :: 'b' :: digits | '0' :: 'B' :: digits =>
      baseNumeral 2 (fun c => isDigit c && c.toNat < 50) digits
  | '-' :: digits => .neg (unsignedNumber digits)
  | '+' :: digits => unsignedNumber digits
  | digits => unsignedNumber digits

/-- `BigInt(n)` of a number. -/
def bigIntOfDouble : Double → Except JsError Int
  | .finite value => Json.bigIntOfNumber value
  | _ => .error ⟨"RangeError".toList,
      "The number cannot be converted to a BigInt because it is not an integer".toList⟩

/-! ## Integers -/

theorem unsignedDecimal_of_digits {digits : Text} (nonempty : digits ≠ [])
    (all : digits.all isDigit = true) :
    unsignedDecimal digits = some ((numeral 10 digits : Nat) : Rat) := by
  have whole : digits.takeWhile isDigit = digits :=
    List.takeWhile_eq_self_iff.mpr fun c mem => List.all_eq_true.mp all c mem
  have rest : digits.dropWhile isDigit = [] :=
    List.dropWhile_eq_nil_iff.mpr fun c mem => List.all_eq_true.mp all c mem
  rw [unsignedDecimal, whole, rest]
  dsimp only
  rw [if_neg fun none => nonempty none.1, exponentPart, Option.map_some, List.append_nil,
    List.length_nil, Nat.cast_zero, sub_zero, zpow_zero, mul_one]

theorem unsignedNumber_of_digits {digits : Text} (nonempty : digits ≠ [])
    (all : digits.all isDigit = true) :
    unsignedNumber digits = .round ((numeral 10 digits : Nat) : Rat) := by
  have letters : digits ≠ "Infinity".toList := by
    rintro rfl
    exact absurd all (by decide)
  rw [unsignedNumber, if_neg letters, unsignedDecimal_of_digits nonempty all]

theorem signedNumeral_eq_ok {b : Nat} {isBaseDigit : Char → Bool} {sign a : Int} {digits : Text}
    (read : signedNumeral b isBaseDigit sign digits = .ok a) :
    digits ≠ [] ∧ digits.all isBaseDigit = true ∧ a = sign * (numeral b digits : Nat) := by
  rw [signedNumeral] at read
  split_ifs at read with valid
  · exact ⟨valid.1, valid.2, (Except.ok.inj read).symm⟩

/-- The integers that are not negative, in every spelling. -/
theorem number_of_bigInt {s : Text} {a : Nat} (read : bigInt s = .ok (a : Int)) :
    number s = .round a := by
  have based {b : Nat} {isBaseDigit : Char → Bool} {digits : Text}
      (read : signedNumeral b isBaseDigit 1 digits = .ok (a : Int)) :
      baseNumeral b isBaseDigit digits = .round a := by
    obtain ⟨nonempty, all, same⟩ := signedNumeral_eq_ok read
    rw [one_mul, Nat.cast_inj] at same
    rw [baseNumeral, if_pos ⟨nonempty, all⟩, same]
  have plain {digits : Text} (read : signedNumeral 10 isDigit 1 digits = .ok (a : Int)) :
      unsignedNumber digits = .round a := by
    obtain ⟨nonempty, all, same⟩ := signedNumeral_eq_ok read
    rw [one_mul, Nat.cast_inj] at same
    rw [unsignedNumber_of_digits nonempty all, same]
  unfold bigInt at read
  generalize same : trim s = body at read
  split at read
  · obtain rfl : a = 0 := by exact_mod_cast (Except.ok.inj read).symm
    rw [number, same]
    rfl
  all_goals rw [number, same]
  · exact based read
  · exact based read
  · exact based read
  · exact based read
  · exact based read
  · exact based read
  · next digits =>
      obtain ⟨nonempty, all, same⟩ := signedNumeral_eq_ok read
      have zero : numeral 10 digits = 0 := by omega
      obtain rfl : a = 0 := by omega
      show (unsignedNumber digits).neg = _
      rw [unsignedNumber_of_digits nonempty all, zero]
      decide
  · exact plain read
  · split
    all_goals first
      | exact plain read
      | simp_all

end Js

end AgentProof
