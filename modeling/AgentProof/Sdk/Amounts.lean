import AgentProof.Sdk.Hex

/-!
# Amounts as decimal text

`parsePolicyAmount` and `formatUsdc` of `utils/units.ts`: an amount of base units is
written with a point before its last `decimals` digits and without the zeros that
trail behind it, and such text reads back as the amount.
-/

namespace AgentProof

namespace Js

/-- `/^\d+(\.\d+)?$/`. -/
def isDecimal (s : Text) : Bool :=
  let whole := s.takeWhile isDigit
  match s.dropWhile isDigit with
  | [] => whole ≠ []
  | '.' :: fraction => whole ≠ [] && fraction ≠ [] && fraction.all isDigit
  | _ => false

/-- `const [whole, fraction = ''] = s.split('.')`. -/
def splitFraction (s : Text) : Text × Text :=
  match s.splitOn '.' with
  | [] => ([], [])
  | [whole] => (whole, [])
  | whole :: fraction :: _ => (whole, fraction)

/-- `s.replace(/0+$/, '')`. -/
def stripZeros (s : Text) : Text := s.rdropWhile (· = '0')

/-- Digits, and with a fraction a point and its digits. -/
def decimalText (whole fraction : Text) : Text :=
  if fraction = [] then whole else whole ++ '.' :: fraction

/-- Text in the form of a decimal, taken apart. -/
structure IsDecimal (s whole fraction : Text) : Prop where
  text : s = decimalText whole fraction
  nonempty : whole ≠ []
  whole : whole.all isDigit = true
  fraction : fraction.all isDigit = true

section Decimal

variable {s whole fraction : Text}

theorem point_not_mem {digits : Text} (all : digits.all isDigit = true) : '.' ∉ digits := fun mem =>
  absurd (List.all_eq_true.mp all '.' mem) (by decide)

theorem IsDecimal.splitFraction (decimal : IsDecimal s whole fraction) :
    splitFraction s = (whole, fraction) := by
  obtain ⟨rfl, -, digits, digits'⟩ := decimal
  rw [Js.splitFraction, decimalText]
  split_ifs with none
  · rw [List.splitOn_eq_singleton (point_not_mem digits), none]
  · rw [List.splitOn_append_cons_self, List.splitOn_eq_singleton (point_not_mem digits),
      List.splitOn_eq_singleton (point_not_mem digits')]
    rfl

theorem IsDecimal.unique {whole' fraction' : Text} (decimal : IsDecimal s whole fraction)
    (decimal' : IsDecimal s whole' fraction') : whole = whole' ∧ fraction = fraction' := by
  have same := decimal.splitFraction
  rw [decimal'.splitFraction, Prod.mk.injEq] at same
  exact ⟨same.1.symm, same.2.symm⟩

theorem isDecimal_iff : isDecimal s = true ↔ ∃ whole fraction, IsDecimal s whole fraction := by
  have front : (s.takeWhile isDigit).all isDigit = true := List.all_takeWhile
  have split : s.takeWhile isDigit ++ s.dropWhile isDigit = s := List.takeWhile_append_dropWhile
  constructor
  · intro decimal
    unfold isDecimal at decimal
    dsimp only at decimal
    split at decimal
    · next rest =>
        rw [rest, List.append_nil] at split
        exact ⟨_, [], split.symm, of_decide_eq_true decimal, front, rfl⟩
    · next fraction rest =>
        simp only [Bool.and_eq_true, decide_eq_true_eq] at decimal
        refine ⟨_, fraction, ?_, decimal.1.1, front, decimal.2⟩
        rw [decimalText, if_neg decimal.1.2, ← rest, split]
    · cases decimal
  · rintro ⟨whole, fraction, rfl, nonempty, digits, digits'⟩
    have all : ∀ c ∈ whole, isDigit c = true := List.all_eq_true.mp digits
    unfold isDecimal decimalText
    split_ifs with none
    · rw [List.takeWhile_eq_self_iff.mpr all, List.dropWhile_eq_nil_iff.mpr all]
      exact decide_eq_true nonempty
    · have point : isDigit '.' = false := by decide
      rw [List.takeWhile_append_of_pos all, List.dropWhile_append_of_pos all, List.takeWhile_cons,
        List.dropWhile_cons, point]
      simp [nonempty, none, digits']

/-- Digits that are not all there are filled up behind. -/
theorem padEnd_stripZeros (s : Text) : padEnd s.length '0' (stripZeros s) = s := by
  have zeros : s.rtakeWhile (· = '0') = List.replicate (s.rtakeWhile (· = '0')).length '0' :=
    List.eq_replicate_iff.mpr ⟨rfl, fun c mem => by simpa using List.mem_rtakeWhile_imp mem⟩
  have whole : stripZeros s ++ s.rtakeWhile (· = '0') = s := List.rdropWhile_append_rtakeWhile
  have lengths := congrArg List.length whole
  rw [List.length_append] at lengths
  have missing : s.length - (stripZeros s).length = (s.rtakeWhile (· = '0')).length := by omega
  rw [padEnd, missing, ← zeros, whole]

theorem numeral_append (b : Nat) (s t : Text) :
    numeral b (s ++ t) = numeral b s * b ^ t.length + numeral b t := by
  rw [numeral, List.map_append, Positional.value_append, List.length_map]
  rfl

theorem numeral_zeros (b n : Nat) : numeral b (List.replicate n '0') = 0 := by
  induction n with
  | zero => rfl
  | succ n ih =>
      rw [List.replicate_succ', numeral_append, ih]
      simp [numeral, digitValue, Positional.value]

/-- Zeros in front do not count. -/
theorem numeral_padStart (b n : Nat) (s : Text) : numeral b (padStart n '0' s) = numeral b s := by
  rw [padStart, numeral_append, numeral_zeros, Nat.zero_mul, Nat.zero_add]

/-- Digits of a number that is zero. -/
theorem numeral_eq_zero_iff {digits : Text} (all : digits.all isDigit = true) :
    numeral 10 digits = 0 ↔ ∀ c ∈ digits, c = '0' := by
  constructor
  · intro zero
    induction digits with
    | nil => simp
    | cons c digits ih =>
        rw [List.all_cons, Bool.and_eq_true] at all
        have digit := all.1
        rw [← List.singleton_append, numeral_append, Nat.add_eq_zero_iff, Nat.mul_eq_zero] at zero
        have front : numeral 10 [c] = 0 := zero.1.resolve_right (by positivity)
        have value : digitValue c = 0 := by simpa [numeral, Positional.value] using front
        simp only [isDigit, Bool.and_eq_true, decide_eq_true_eq] at digit
        rw [digitValue, if_pos digit.2] at value
        have same : c = '0' := Char.toNat_inj.mp (show c.toNat = 48 by omega)
        exact List.forall_mem_cons.mpr ⟨same, ih all.2 zero.2⟩
  · intro zeros
    rw [List.eq_replicate_of_mem zeros, numeral_zeros]

theorem all_isDigit_replicate (n : Nat) : (List.replicate n '0').all isDigit = true := by
  rw [List.all_eq_true]
  intro c mem
  rw [(List.mem_replicate.mp mem).2]
  decide

/-- The digits of a number below a power of ten, as a fraction: filled up again, they
are that many digits and denote the number. -/
theorem padEnd_fraction {m d : Nat} (below : m < 10 ^ d) :
    numeral 10 (padEnd d '0' (stripZeros (padStart d '0' (Nat.toDigits 10 m)))) = m ∧
      (padEnd d '0' (stripZeros (padStart d '0' (Nat.toDigits 10 m)))).length = d := by
  rcases Nat.eq_zero_or_pos d with rfl | positive
  · obtain rfl : m = 0 := by
      rw [pow_zero] at below
      omega
    decide
  · have short : (Nat.toDigits 10 m).length ≤ d :=
      (Nat.length_toDigits_le_iff (by norm_num) positive).mpr below
    have length : (padStart d '0' (Nat.toDigits 10 m)).length = d := by
      rw [padStart, List.length_append, List.length_replicate]
      omega
    have whole := padEnd_stripZeros (padStart d '0' (Nat.toDigits 10 m))
    rw [length] at whole
    rw [whole]
    exact ⟨by rw [numeral_padStart, numeral_toDigits], length⟩

/-- A decimal is read as its digits, filled up to the number of decimals. -/
theorem IsDecimal.bigInt_digits (decimal : IsDecimal s whole fraction) (decimals : Nat) :
    bigInt (whole ++ padEnd decimals '0' fraction) =
      .ok (numeral 10 (whole ++ padEnd decimals '0' fraction) : Nat) := by
  have digits : (whole ++ padEnd decimals '0' fraction).all isDigit = true := by
    rw [padEnd, List.all_append, List.all_append, decimal.whole, decimal.fraction,
      all_isDigit_replicate]
    rfl
  exact bigInt_of_all_isDigit (List.append_ne_nil_of_left_ne_nil decimal.nonempty _) digits

/-- A decimal has nothing to trim. -/
theorem IsDecimal.solid (decimal : IsDecimal s whole fraction) : ∀ c ∈ s, isSpace c = false := by
  intro c mem
  have digit : isDigit c = true ∨ c = '.' := by
    rw [decimal.text, decimalText] at mem
    split_ifs at mem
    · exact .inl (List.all_eq_true.mp decimal.whole c mem)
    · rcases List.mem_append.mp mem with front | behind
      · exact .inl (List.all_eq_true.mp decimal.whole c front)
      · rcases List.mem_cons.mp behind with point | behind
        · exact .inr point
        · exact .inl (List.all_eq_true.mp decimal.fraction c behind)
  rcases digit with digit | rfl
  · exact isSpace_of_isHexDigit (by rw [isHexDigit, digit]; rfl)
  · decide

/-- A decimal does not begin with a sign. -/
theorem IsDecimal.head (decimal : IsDecimal s whole fraction) :
    ∃ c rest, s = c :: rest ∧ isDigit c = true := by
  obtain ⟨c, rest, rfl⟩ := List.exists_cons_of_ne_nil decimal.nonempty
  have digit := List.all_eq_true.mp decimal.whole c List.mem_cons_self
  rw [decimal.text, decimalText]
  split_ifs
  · exact ⟨c, rest, rfl, digit⟩
  · exact ⟨c, _, rfl, digit⟩

end Decimal

end Js

namespace Sdk

open Js

/-- `/^-?\d+(\.\d+)?$/`. -/
def isPolicyAmount : Text → Bool
  | '-' :: digits => isDecimal digits
  | digits => isDecimal digits

def parsePolicyAmount (value : Text) (decimals : Nat) : Except JsError Int :=
  let trimmed := trim value
  if ¬ isPolicyAmount trimmed then thrown ("Invalid policy amount: ".toList ++ jsonString value)
  else
    let negative := trimmed.head? = some '-'
    let (whole, fraction) := splitFraction (if negative then trimmed.drop 1 else trimmed)
    if fraction.length > decimals then
      thrown ("Amount ".toList ++ value ++ " has more precision than ".toList ++
        toDecimal decimals ++ " decimals allows".toList)
    else do
      let scaled ← bigInt (whole ++ padEnd decimals '0' fraction)
      .ok (if negative then -scaled else scaled)

def formatUsdc (amount : Int) (decimals : Nat) : Text :=
  let scale : Int := 10 ^ decimals
  let absolute := if amount < 0 then -amount else amount
  let whole := absolute.tdiv scale
  let fraction := stripZeros (padStart decimals '0' (toDecimal (absolute.tmod scale)))
  let body :=
    if fraction.length > 0 then toDecimal whole ++ '.' :: fraction else toDecimal whole
  if amount < 0 then '-' :: body else body

section Amounts

variable {value s whole fraction : Text} {decimals : Nat}

/-- A decimal is an amount, and has no sign. -/
theorem isPolicyAmount_of_isDecimal (decimal : IsDecimal s whole fraction) :
    isPolicyAmount s = true ∧ s.head? ≠ some '-' := by
  obtain ⟨c, rest, text, digit⟩ := decimal.head
  have unsigned : c ≠ '-' := by
    rintro rfl
    exact absurd digit (by decide)
  refine ⟨?_, by rwa [text, List.head?_cons, Ne, Option.some.injEq]⟩
  have whole := isDecimal_iff.mpr ⟨_, _, decimal⟩
  rw [text] at whole ⊢
  unfold isPolicyAmount
  split
  · next same => exact absurd (List.cons.inj same).1 unsigned
  · exact whole

theorem parsePolicyAmount_of_isDecimal (trims : trim value = s)
    (decimal : IsDecimal s whole fraction) (fits : fraction.length ≤ decimals) :
    parsePolicyAmount value decimals =
      .ok (numeral 10 (whole ++ padEnd decimals '0' fraction) : Nat) := by
  obtain ⟨matched, positive⟩ := isPolicyAmount_of_isDecimal decimal
  simp only [parsePolicyAmount, trims, matched, positive, decimal.splitFraction, not_true_eq_false,
    if_false, not_lt.mpr fits, decimal.bigInt_digits]
  rfl

theorem parsePolicyAmount_of_excess (trims : trim value = s)
    (decimal : IsDecimal s whole fraction) (excess : decimals < fraction.length) :
    ∃ e, parsePolicyAmount value decimals = .error e := by
  obtain ⟨matched, positive⟩ := isPolicyAmount_of_isDecimal decimal
  simp only [parsePolicyAmount, trims, matched, positive, decimal.splitFraction, not_true_eq_false,
    if_false, excess, if_true]
  exact ⟨_, rfl⟩

theorem parsePolicyAmount_of_negative (trims : trim value = '-' :: s)
    (decimal : IsDecimal s whole fraction) (fits : fraction.length ≤ decimals) :
    parsePolicyAmount value decimals =
      .ok (-(numeral 10 (whole ++ padEnd decimals '0' fraction) : Nat)) := by
  have matched : isPolicyAmount ('-' :: s) = true := isDecimal_iff.mpr ⟨_, _, decimal⟩
  simp only [parsePolicyAmount, trims, matched, List.head?_cons, List.drop_succ_cons, List.drop_zero,
    decimal.splitFraction, not_true_eq_false, if_false, if_true, not_lt.mpr fits,
    decimal.bigInt_digits]
  rfl

/-- The digits behind the point. -/
def fractionText (n decimals : Nat) : Text :=
  stripZeros (padStart decimals '0' (Nat.toDigits 10 (n % 10 ^ decimals)))

/-- The text of a natural amount. -/
def amountText (n decimals : Nat) : Text :=
  decimalText (Nat.toDigits 10 (n / 10 ^ decimals)) (fractionText n decimals)

theorem isDecimal_amountText (n decimals : Nat) :
    IsDecimal (amountText n decimals) (Nat.toDigits 10 (n / 10 ^ decimals))
      (fractionText n decimals) where
  text := rfl
  nonempty := Nat.toDigits_ne_nil
  whole := all_isDigit_toDigits _
  fraction := by
    have digits : (padStart decimals '0' (Nat.toDigits 10 (n % 10 ^ decimals))).all isDigit = true := by
      rw [padStart, List.all_append, all_isDigit_replicate, all_isDigit_toDigits]
      rfl
    rw [List.all_eq_true] at digits ⊢
    exact fun c mem => digits c ((List.rdropWhile_prefix _ _).subset mem)

/-- Filled up again, the digits of an amount denote it. -/
theorem numeral_amountText (n decimals : Nat) :
    numeral 10 (Nat.toDigits 10 (n / 10 ^ decimals) ++ padEnd decimals '0' (fractionText n decimals)) =
      n := by
  obtain ⟨value, length⟩ := padEnd_fraction (Nat.mod_lt n (Nat.pow_pos (n := decimals) (by norm_num)))
  rw [numeral_append, numeral_toDigits, fractionText, value, length]
  exact Nat.div_add_mod' n (10 ^ decimals)

theorem length_fractionText_le (n decimals : Nat) : (fractionText n decimals).length ≤ decimals := by
  obtain ⟨-, length⟩ := padEnd_fraction (Nat.mod_lt n (Nat.pow_pos (n := decimals) (by norm_num)))
  rw [padEnd, List.length_append, List.length_replicate] at length
  rw [fractionText]
  omega

theorem formatUsdc_eq (amount : Int) (decimals : Nat) :
    formatUsdc amount decimals =
      if amount < 0 then '-' :: amountText amount.natAbs decimals
      else amountText amount.natAbs decimals := by
  have absolute : (if amount < 0 then -amount else amount) = (amount.natAbs : Int) := by
    split_ifs <;> omega
  have scale : (10 : Int) ^ decimals = ((10 ^ decimals : Nat) : Int) := by push_cast; rfl
  have digits (n : Nat) : toDecimal (n : Int) = Nat.toDigits 10 n := by
    rw [toDecimal, if_neg (by omega), Int.natAbs_natCast]
  have body (fraction whole : Text) : (if fraction.length > 0 then whole ++ '.' :: fraction else whole) =
      decimalText whole fraction := by
    rw [decimalText]
    cases fraction <;> simp
  simp only [formatUsdc, absolute, scale, ← Int.ofNat_tdiv, ← Int.ofNat_tmod, digits, body]
  rfl

/-- Text of digits, a point and a sign has nothing to trim. -/
theorem trim_amountText (n decimals : Nat) :
    trim (amountText n decimals) = amountText n decimals ∧
      trim ('-' :: amountText n decimals) = '-' :: amountText n decimals := by
  have solid := (isDecimal_amountText n decimals).solid
  exact ⟨trim_of_solid solid, trim_of_solid (List.forall_mem_cons.mpr ⟨by decide, solid⟩)⟩

/-- What is formatted parses as the amount. -/
theorem parsePolicyAmount_formatUsdc (amount : Int) (decimals : Nat) :
    parsePolicyAmount (formatUsdc amount decimals) decimals = .ok amount := by
  have decimal := isDecimal_amountText amount.natAbs decimals
  have fits := length_fractionText_le amount.natAbs decimals
  have trims := trim_amountText amount.natAbs decimals
  rw [formatUsdc_eq]
  split_ifs with negative
  · rw [parsePolicyAmount_of_negative trims.2 decimal fits, numeral_amountText, Except.ok.injEq]
    omega
  · rw [parsePolicyAmount_of_isDecimal trims.1 decimal fits, numeral_amountText, Except.ok.injEq]
    omega

end Amounts

end Sdk

end AgentProof
