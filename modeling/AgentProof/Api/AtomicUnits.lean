import AgentProof.Api.Gate
import AgentProof.Sdk.Amounts

/-!
# The price that is asked for

`toAtomicUnits` cuts a price at its point, fills the digits behind it up to the
number of decimals and cuts off the rest.  It is compared with what it is for: a
decimal numeral is converted exactly or refused, as the SDK's `parsePolicyAmount`
does.  What it takes that is no numeral, and what it cuts off, is told apart by the
text alone.
-/

namespace AgentProof

namespace Js

/-! ## What `BigInt` takes -/

def hasDigits (isBaseDigit : Char → Bool) (digits : Text) : Bool :=
  digits ≠ [] && digits.all isBaseDigit

/-- Text `BigInt` does not throw on: decimal digits or none, with a sign some, or the
digits of another base behind its prefix; white space around it does not count. -/
def isIntegerText (s : Text) : Bool :=
  let body := trim s
  body.all isDigit ||
    [['-'], ['+']].contains (body.take 1) && hasDigits isDigit (body.drop 1) ||
    [['0', 'x'], ['0', 'X']].contains (body.take 2) && hasDigits isHexDigit (body.drop 2) ||
    [['0', 'o'], ['0', 'O']].contains (body.take 2) &&
      hasDigits (fun c => isDigit c && c.toNat < 56) (body.drop 2) ||
    [['0', 'b'], ['0', 'B']].contains (body.take 2) &&
      hasDigits (fun c => isDigit c && c.toNat < 50) (body.drop 2)

theorem signedNumeral_isOk_iff {b : Nat} {isBaseDigit : Char → Bool} {sign : Int} {digits : Text} :
    (∃ n, signedNumeral b isBaseDigit sign digits = .ok n) ↔ hasDigits isBaseDigit digits = true := by
  rw [signedNumeral, hasDigits, Bool.and_eq_true, decide_eq_true_eq]
  split_ifs with taken
  · exact iff_of_true ⟨_, rfl⟩ taken
  · exact iff_of_false (by rintro ⟨n, ⟨⟩⟩) taken

theorem bigInt_isOk_iff (s : Text) : (∃ n, bigInt s = .ok n) ↔ isIntegerText s = true := by
  unfold bigInt isIntegerText
  generalize trim s = body
  split
  case h_1 => exact iff_of_true ⟨_, rfl⟩ rfl
  case h_10 nonempty hex hex' octal octal' binary binary' minus plus =>
    have signs {c : Char} (absent : ∀ digits, body = c :: digits → False) : body.take 1 ≠ [c] :=
      fun same => absent (body.drop 1) (by rw [← List.take_append_drop 1 body, same]; rfl)
    have prefixes {c : Char} (absent : ∀ digits, body = '0' :: c :: digits → False) :
        body.take 2 ≠ ['0', c] := fun same =>
      absent (body.drop 2) (by rw [← List.take_append_drop 2 body, same]; rfl)
    rw [signedNumeral_isOk_iff]
    simp [hasDigits, signs minus, signs plus, prefixes hex, prefixes hex', prefixes octal,
      prefixes octal', prefixes binary, prefixes binary', show body ≠ [] from nonempty]
  all_goals
    rw [signedNumeral_isOk_iff]
    simp [isDigit]

/-- A string of digits; without any it is 0. -/
theorem bigInt_of_all_digits {s : Text} (digits : s.all isDigit = true) :
    bigInt s = .ok (numeral 10 s : Nat) := by
  by_cases none : s = []
  · rw [none]
    rfl
  · exact bigInt_of_all_isDigit none digits

/-! ## Decimals and their values -/

/-- The number a decimal with these digits denotes. -/
def decimalValue (whole fraction : Text) : Rat :=
  numeral 10 (whole ++ fraction) / 10 ^ fraction.length

/-- The first digits of a fraction, filled up with zeros. -/
def keptDigits (fraction : Text) (decimals : Nat) : Text :=
  (fraction ++ List.replicate decimals '0').take decimals

section Kept

variable {s whole fraction : Text} {decimals : Nat}

theorem length_keptDigits : (keptDigits fraction decimals).length = decimals := by
  rw [keptDigits, List.length_take, List.length_append, List.length_replicate]
  omega

theorem keptDigits_append_drop :
    keptDigits fraction decimals ++ fraction.drop decimals = padEnd decimals '0' fraction := by
  rw [keptDigits, padEnd, List.take_append, List.take_replicate]
  rcases Nat.le_total fraction.length decimals with fits | excess
  · rw [List.take_of_length_le fits, List.drop_of_length_le fits, List.append_nil,
      Nat.min_eq_left (Nat.sub_le _ _)]
  · rw [Nat.sub_eq_zero_of_le excess, Nat.zero_min, List.replicate_zero, List.append_nil,
      List.append_nil, List.take_append_drop]

theorem IsDecimal.keptDigits (decimal : IsDecimal s whole fraction) :
    (keptDigits fraction decimals).all isDigit = true := by
  rw [List.all_eq_true]
  intro c mem
  have digits : (padEnd decimals '0' fraction).all isDigit = true := by
    rw [padEnd, List.all_append, decimal.fraction, all_isDigit_replicate]
    rfl
  rw [← keptDigits_append_drop] at digits
  exact List.all_eq_true.mp digits c (List.mem_append_left _ mem)

/-- What the kept digits denote falls short of the value by what the others denote. -/
theorem numeral_keptDigits (whole fraction : Text) (decimals : Nat) :
    (numeral 10 (whole ++ Js.keptDigits fraction decimals) : Rat) *
        10 ^ (fraction.length - decimals) + numeral 10 (fraction.drop decimals) =
      decimalValue whole fraction * 10 ^ decimals * 10 ^ (fraction.length - decimals) := by
  have digits : numeral 10 (whole ++ Js.keptDigits fraction decimals) *
        10 ^ (fraction.length - decimals) + numeral 10 (fraction.drop decimals) =
      numeral 10 (whole ++ fraction) * 10 ^ (decimals - fraction.length) := by
    have kept := numeral_append 10 (whole ++ Js.keptDigits fraction decimals) (fraction.drop decimals)
    rw [List.append_assoc, keptDigits_append_drop, padEnd, ← List.append_assoc, numeral_append,
      numeral_zeros, List.length_replicate, List.length_drop] at kept
    exact kept.symm
  have lengths : decimals + (fraction.length - decimals) =
      fraction.length + (decimals - fraction.length) := by omega
  have scale : (10 : Rat) ^ fraction.length ≠ 0 := by positivity
  rw [decimalValue, mul_assoc, ← pow_add, lengths, pow_add, ← mul_assoc, div_mul_cancel₀ _ scale]
  exact_mod_cast digits

/-- The kept digits denote the scaled value if the others are zeros, and only then. -/
theorem numeral_keptDigits_eq_iff (decimal : IsDecimal s whole fraction) :
    (numeral 10 (whole ++ Js.keptDigits fraction decimals) : Rat) =
        decimalValue whole fraction * 10 ^ decimals ↔
      (fraction.drop decimals).all (· = '0') = true := by
  have digits : (fraction.drop decimals).all isDigit = true :=
    List.all_eq_true.mpr fun c mem =>
      List.all_eq_true.mp decimal.fraction c (List.mem_of_mem_drop mem)
  have short := numeral_keptDigits whole fraction decimals
  have scale : (10 : Rat) ^ (fraction.length - decimals) ≠ 0 := by positivity
  simp only [List.all_eq_true, decide_eq_true_eq, ← numeral_eq_zero_iff digits]
  constructor
  · intro same
    rw [same, add_eq_left] at short
    exact_mod_cast short
  · intro zero
    rw [zero, Nat.cast_zero, add_zero] at short
    exact mul_right_cancel₀ scale short

end Kept

end Js

namespace Api

open Js Sdk

/-! ## The conversion -/

section AtomicUnits

variable {s whole fraction result : Text} {d : Nat}

/-- The parts of the text `BigInt` is given. -/
theorem toAtomicUnits_eq (s : Text) (d : Nat) :
    toAtomicUnits s d =
      bigInt (splitFraction s).1 >>= fun units =>
        bigInt (keptDigits (splitFraction s).2 d) >>= fun rest =>
          .ok (toDecimal (units * 10 ^ d + rest)) := by
  have empty (t : Text) : bigInt (if t = [] then "0".toList else t) = bigInt t := by
    split_ifs with none
    · rw [none]
      rfl
    · rfl
  have parts : (s.splitOn '.').headD "0".toList = (splitFraction s).1 ∧
      ((s.splitOn '.')[1]?).getD [] = (splitFraction s).2 := by
    have nonempty := List.splitOn_ne_nil '.' s
    rw [splitFraction]
    generalize s.splitOn '.' = parts at nonempty ⊢
    rcases parts with _ | ⟨whole, _ | ⟨fraction, rest⟩⟩
    · exact absurd rfl nonempty
    · exact ⟨rfl, rfl⟩
    · exact ⟨rfl, rfl⟩
  simp only [toAtomicUnits, empty, parts.1, parts.2]
  rfl

/-- Text is converted where both parts are integers to `BigInt`, and only there. -/
theorem toAtomicUnits_isOk_iff (s : Text) (d : Nat) :
    (∃ result, toAtomicUnits s d = .ok result) ↔
      isIntegerText (splitFraction s).1 = true ∧
        isIntegerText (keptDigits (splitFraction s).2 d) = true := by
  rw [← bigInt_isOk_iff, ← bigInt_isOk_iff, toAtomicUnits_eq]
  constructor
  · rintro ⟨result, ok⟩
    obtain ⟨units, read, ok⟩ := bind_eq_ok_iff.mp ok
    obtain ⟨rest, read', -⟩ := bind_eq_ok_iff.mp ok
    exact ⟨⟨units, read⟩, rest, read'⟩
  · rintro ⟨⟨units, read⟩, rest, read'⟩
    exact ⟨_, bind_eq_ok_iff.mpr ⟨units, read, bind_eq_ok_iff.mpr ⟨rest, read', rfl⟩⟩⟩

/-- A decimal is never refused: what it has more digits than fit is cut off. -/
theorem toAtomicUnits_of_isDecimal (decimal : IsDecimal s whole fraction) :
    toAtomicUnits s d = .ok (toDecimal (numeral 10 (whole ++ keptDigits fraction d) : Nat)) := by
  rw [toAtomicUnits_eq, decimal.splitFraction, bigInt_of_all_digits decimal.whole]
  dsimp only
  rw [bigInt_of_all_digits decimal.keptDigits, numeral_append, length_keptDigits]
  push_cast
  rfl

/-- A price is converted exactly or refused, and as the SDK parses it. -/
structure ConvertsExactly (s : Text) (d : Nat) : Prop where
  exact : ∀ result, toAtomicUnits s d = .ok result → ∃ whole fraction, ∃ n : Nat,
    IsDecimal s whole fraction ∧ decimalValue whole fraction * 10 ^ d = n ∧ result = toDecimal n
  nonzero : toAtomicUnits s d = .ok "0".toList → ∀ whole fraction,
    IsDecimal s whole fraction → decimalValue whole fraction = 0
  agrees : ∀ result amount, toAtomicUnits s d = .ok result → parsePolicyAmount s d = .ok amount →
    result = toDecimal amount

/-- A decimal whose digits after the first `d` behind the point are zeros. -/
def isPlain (s : Text) (d : Nat) : Bool :=
  isDecimal s && ((splitFraction s).2.drop d).all (· = '0')

theorem isPlain_iff (decimal : IsDecimal s whole fraction) :
    isPlain s d = true ↔ (fraction.drop d).all (· = '0') = true := by
  rw [isPlain, isDecimal_iff.mpr ⟨_, _, decimal⟩, decimal.splitFraction, Bool.true_and]

/-- Such a decimal is converted exactly. -/
theorem ConvertsExactly.of_isPlain (plain : isPlain s d = true) : ConvertsExactly s d := by
  obtain ⟨whole, fraction, decimal⟩ := isDecimal_iff.mp (Bool.and_eq_true_iff.mp plain).1
  have value := (numeral_keptDigits_eq_iff decimal).mpr ((isPlain_iff decimal).mp plain)
  have converted := @toAtomicUnits_of_isDecimal s whole fraction d decimal
  refine ⟨fun result ok => ?_, fun zero whole' fraction' decimal' => ?_,
    fun result amount ok parsed => ?_⟩
  · rw [converted] at ok
    exact ⟨whole, fraction, _, decimal, value.symm, (Except.ok.inj ok).symm⟩
  · obtain ⟨rfl, rfl⟩ := decimal.unique decimal'
    rw [converted] at zero
    have none := toDecimal_injective (Except.ok.inj zero : _ = toDecimal 0)
    rw [Int.natCast_eq_zero.mp none, Nat.cast_zero] at value
    exact (mul_eq_zero.mp value.symm).resolve_right (by positivity)
  · rw [converted] at ok
    have trims := trim_of_solid decimal.solid
    rcases Nat.lt_or_ge d fraction.length with excess | fits
    · obtain ⟨e, refused⟩ := parsePolicyAmount_of_excess trims decimal excess
      rw [refused] at parsed
      cases parsed
    · have filled := @keptDigits_append_drop fraction d
      rw [List.drop_of_length_le fits, List.append_nil] at filled
      rw [parsePolicyAmount_of_isDecimal trims decimal fits, ← filled] at parsed
      rw [← Except.ok.inj ok, ← Except.ok.inj parsed]

/-- A price is converted exactly or refused if and only if it is a decimal with no
more digits than fit, zeros apart, or one of its parts is no integer to `BigInt`. -/
theorem convertsExactly_iff (s : Text) (d : Nat) :
    ConvertsExactly s d ↔
      isPlain s d = true ∨ isIntegerText (splitFraction s).1 = false ∨
        isIntegerText (keptDigits (splitFraction s).2 d) = false := by
  constructor
  · intro converts
    rw [or_iff_not_imp_right, not_or, Bool.not_eq_false, Bool.not_eq_false]
    intro integers
    obtain ⟨result, ok⟩ := (toAtomicUnits_isOk_iff s d).mpr integers
    obtain ⟨whole, fraction, n, decimal, value, rfl⟩ := converts.exact result ok
    rw [toAtomicUnits_of_isDecimal decimal] at ok
    have same := toDecimal_injective (Except.ok.inj ok)
    rw [isPlain_iff decimal, ← numeral_keptDigits_eq_iff decimal, value, Int.ofNat_inj.mp same]
  · rintro (plain | refused)
    · exact .of_isPlain plain
    · have throws : ¬ ∃ result, toAtomicUnits s d = .ok result := by
        rw [toAtomicUnits_isOk_iff, not_and_or, Bool.not_eq_true, Bool.not_eq_true]
        exact refused
      exact ⟨fun result ok => absurd ⟨result, ok⟩ throws, fun ok => absurd ⟨_, ok⟩ throws,
        fun result _ ok => absurd ⟨result, ok⟩ throws⟩

/-- A price of one hundredth is nothing where the asset has no decimals, as it is said to
have when the variable for them is left empty. -/
theorem hundredth_becomes_zero :
    toAtomicUnits "0.01".toList 0 = .ok "0".toList ∧ ¬ ConvertsExactly "0.01".toList 0 := by
  have zero : toAtomicUnits "0.01".toList 0 = .ok "0".toList := by decide +kernel
  have decimal : IsDecimal "0.01".toList "0".toList "01".toList :=
    ⟨rfl, by decide, by decide, by decide⟩
  refine ⟨zero, fun converts => ?_⟩
  have value := converts.nonzero zero _ _ decimal
  rw [decimalValue, div_eq_zero_iff, Nat.cast_eq_zero] at value
  rcases value with digits | scale
  · exact absurd digits (by decide)
  · exact absurd scale (by positivity)

/-- What a priced request is asked for is the price, where it is such a decimal. -/
theorem X402Options.requirements_of_isPlain {options : X402Options}
    (plain : isPlain options.price options.assetDecimals = true) (resource nonce : Text) :
    ∃ requirements whole fraction, ∃ n : Nat,
      options.requirements resource nonce = .ok requirements ∧
      IsDecimal options.price whole fraction ∧
      decimalValue whole fraction * 10 ^ options.assetDecimals = n ∧
      requirements.amount = toDecimal n := by
  obtain ⟨whole, fraction, decimal⟩ := isDecimal_iff.mp (Bool.and_eq_true_iff.mp plain).1
  have value := (numeral_keptDigits_eq_iff decimal).mpr ((isPlain_iff decimal).mp plain)
  exact ⟨_, whole, fraction, _,
    bind_eq_ok_iff.mpr ⟨_, toAtomicUnits_of_isDecimal decimal, rfl⟩, decimal, value.symm, rfl⟩

end AtomicUnits

end Api

end AgentProof
