import AgentProof.Sdk.Amounts

/-!
# The console's amounts

`lib/usdc.ts`, which converts what an operator types without the SDK.  On text that has
no sign it throws exactly where the SDK's parser does and gives the same base units,
and what it displays of base units it reads back.
-/

namespace AgentProof

namespace Console

open Js Sdk

def DECIMALS : Nat := 6

def SCALE : Int := 10 ^ DECIMALS

/-- `throw new AmountError(message)`; the name stands for the class. -/
def amountError {α : Type} (message : Text) : Except JsError α :=
  .error ⟨"AmountError".toList, message⟩

def toBaseUnits (display : Text) : Except JsError Text :=
  let trimmed := trim display
  if ¬ isDecimal trimmed then
    amountError ("\"".toList ++ display ++ "\" is not a non-negative number".toList)
  else
    let (whole, fraction) := splitFraction trimmed
    if fraction.length > DECIMALS then
      amountError ("\"".toList ++ display ++ "\" has more than ".toList ++ toDecimal DECIMALS ++
        " decimal places".toList)
    else do
      let padded := padEnd DECIMALS '0' fraction
      let units ← bigInt whole
      let rest ← bigInt (if padded = [] then "0".toList else padded)
      .ok (toDecimal (units * SCALE + rest))

def toDisplay (baseUnits : Text) : Except JsError Text :=
  if ¬ (baseUnits ≠ [] ∧ baseUnits.all isDigit) then .ok baseUnits
  else do
    let value ← bigInt baseUnits
    let whole := value.tdiv SCALE
    let fraction := stripZeros (padStart DECIMALS '0' (toDecimal (value.tmod SCALE)))
    .ok (if fraction.length > 0 then toDecimal whole ++ '.' :: fraction else toDecimal whole)

/-- A string of decimal digits. -/
def IsNumeral (s : Text) : Prop := s ≠ [] ∧ s.all isDigit = true

instance : DecidablePred IsNumeral := fun _ => inferInstanceAs (Decidable (_ ∧ _))

section Codecs

variable {s whole fraction : Text}

theorem bigInt_of_isNumeral (digits : IsNumeral s) : bigInt s = .ok (numeral 10 s : Nat) :=
  bigInt_of_all_isDigit digits.1 digits.2

/-- A decimal with six digits behind the point at most, in base units. -/
theorem toBaseUnits_of_isDecimal (decimal : IsDecimal (trim s) whole fraction)
    (fits : fraction.length ≤ 6) :
    toBaseUnits s = .ok (toDecimal (numeral 10 (whole ++ padEnd 6 '0' fraction) : Nat)) := by
  have matched : isDecimal (trim s) = true := isDecimal_iff.mpr ⟨_, _, decimal⟩
  have length : (padEnd 6 '0' fraction).length = 6 := by
    rw [padEnd, List.length_append, List.length_replicate]
    omega
  have nonempty : padEnd 6 '0' fraction ≠ [] := by
    rw [← List.length_pos_iff, length]
    norm_num
  have digits : (padEnd 6 '0' fraction).all isDigit = true := by
    rw [padEnd, List.all_append, decimal.fraction, all_isDigit_replicate]
    rfl
  have units := bigInt_of_isNumeral ⟨decimal.nonempty, decimal.whole⟩
  have rest := bigInt_of_isNumeral ⟨nonempty, digits⟩
  have total : ((numeral 10 whole : Nat) : Int) * SCALE + (numeral 10 (padEnd 6 '0' fraction) : Nat) =
      (numeral 10 (whole ++ padEnd 6 '0' fraction) : Nat) := by
    rw [numeral_append, length]
    push_cast
    rfl
  simp only [toBaseUnits, matched, decimal.splitFraction, DECIMALS, not_true_eq_false, if_false,
    not_lt.mpr fits, nonempty, units, rest, bind, Except.bind, total]

/-- Where the SDK's parser throws, the console throws; where it does not, they agree. -/
theorem toBaseUnits_agrees (unsigned : (trim s).head? ≠ some '-') :
    ((∃ e, toBaseUnits s = .error e) ↔ ∃ e, parsePolicyAmount s 6 = .error e) ∧
      ∀ amount, parsePolicyAmount s 6 = .ok amount → toBaseUnits s = .ok (toDecimal amount) := by
  have matches_ : isPolicyAmount (trim s) = isDecimal (trim s) := by
    unfold isPolicyAmount
    split
    · next text => rw [text] at unsigned; exact absurd rfl unsigned
    · rfl
  by_cases matched : isDecimal (trim s) = true
  · obtain ⟨whole, fraction, decimal⟩ := isDecimal_iff.mp matched
    by_cases fits : fraction.length ≤ 6
    · have console := toBaseUnits_of_isDecimal decimal fits
      have sdk := parsePolicyAmount_of_isDecimal rfl decimal fits
      rw [console, sdk]
      simp
    · -- too many digits behind the point: both say so
      have console : ∃ e, toBaseUnits s = .error e := by
        simp only [toBaseUnits, matched, decimal.splitFraction, DECIMALS, not_true_eq_false,
          if_false, not_le.mp fits, if_true]
        exact ⟨_, rfl⟩
      have sdk := parsePolicyAmount_of_excess rfl decimal (not_le.mp fits)
      refine ⟨iff_of_true console sdk, fun amount parsed => ?_⟩
      obtain ⟨e, refused⟩ := sdk
      rw [refused] at parsed
      cases parsed
  · have console : ∃ e, toBaseUnits s = .error e := by
      rw [toBaseUnits, if_pos matched]
      exact ⟨_, rfl⟩
    have sdk : ∃ e, parsePolicyAmount s 6 = .error e := by
      rw [parsePolicyAmount, matches_, if_pos matched]
      exact ⟨_, rfl⟩
    refine ⟨iff_of_true console sdk, fun amount parsed => ?_⟩
    obtain ⟨e, refused⟩ := sdk
    rw [refused] at parsed
    cases parsed

/-- The console displays base units as the SDK formats them. -/
theorem toDisplay_of_isNumeral (digits : IsNumeral s) :
    toDisplay s = .ok (formatUsdc (numeral 10 s : Nat) 6) := by
  have positive : ¬ ((numeral 10 s : Nat) : Int) < 0 := by omega
  have numeral : s ≠ [] ∧ s.all isDigit = true := digits
  rw [toDisplay, if_neg (not_not.mpr numeral), bigInt_of_isNumeral digits, formatUsdc]
  generalize ((Js.numeral 10 s : Nat) : Int) = value at positive ⊢
  simp only [positive, if_false, bind, Except.bind, SCALE, DECIMALS]
  rfl

/-- What is displayed of base units is read back as their numeral. -/
theorem toBaseUnits_toDisplay (digits : IsNumeral s) :
    (toDisplay s >>= toBaseUnits) = .ok (toDecimal (numeral 10 s : Nat)) := by
  rw [toDisplay_of_isNumeral digits]
  generalize numeral 10 s = units
  have text : formatUsdc (units : Nat) 6 = amountText units 6 := by
    rw [formatUsdc_eq, if_neg (by omega), Int.natAbs_natCast]
  have decimal : IsDecimal (trim (amountText units 6)) _ _ :=
    (trim_amountText units 6).1.symm ▸ isDecimal_amountText units 6
  have read := toBaseUnits_of_isDecimal decimal (length_fractionText_le units 6)
  rw [numeral_amountText] at read
  exact bind_eq_ok_iff.mpr ⟨_, congrArg Except.ok text, read⟩

/-- The codecs of amounts are inverse to each other, and agree. -/
theorem amounts_agree (amount : Int) (decimals : Nat) (s b : Text) :
    parsePolicyAmount (formatUsdc amount decimals) decimals = .ok amount ∧
      ((trim s).head? ≠ some '-' →
        ((∃ e, toBaseUnits s = .error e) ↔ ∃ e, parsePolicyAmount s 6 = .error e) ∧
        ∀ units, parsePolicyAmount s 6 = .ok units → toBaseUnits s = .ok (toDecimal units)) ∧
      (IsNumeral b → (toDisplay b >>= toBaseUnits) = .ok (toDecimal (numeral 10 b : Nat))) :=
  ⟨parsePolicyAmount_formatUsdc amount decimals, toBaseUnits_agrees, toBaseUnits_toDisplay⟩

/-- A negative amount, a limit as it is typed, and base units with leading zeros. -/
theorem amounts_agree_samples :
    parsePolicyAmount (formatUsdc (-1250) 3) 3 = .ok (-1250) ∧
      toBaseUnits " 100.5 ".toList = .ok "100500000".toList ∧
      (toDisplay "0042".toList >>= toBaseUnits) = .ok "42".toList := by
  have samples := amounts_agree (-1250) 3 " 100.5 ".toList "0042".toList
  refine ⟨samples.1, (samples.2.1 (by decide +kernel)).2 100500000 ?_, samples.2.2 (by decide)⟩
  have decimal : IsDecimal (trim " 100.5 ".toList) "100".toList "5".toList :=
    ⟨rfl, by decide, by decide, by decide⟩
  exact parsePolicyAmount_of_isDecimal rfl decimal (by decide)

end Codecs

end Console

end AgentProof
