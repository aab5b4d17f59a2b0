import AgentProof.Sdk.UniswapV4

/-!
# Where the swap parameters are read

The parameters of a single-hop swap are a dynamic struct: word 0 of the blob is
the byte offset at which the router finds it.  The decoder reads the words that
follow word 0 whatever the offset says, so the two readings agree on every blob
whose offset is 32, and on others only by what the bytes happen to be.
-/

namespace AgentProof

open Js

/-! ## The router's reading -/

/-- The two single-hop swaps. -/
inductive SingleSwap
  | exactIn
  | exactOut
  deriving DecidableEq, Repr

/-- The fields of the struct that decide what is paid: `amount` is `amountIn` of
an exact-input swap and `amountInMaximum` of an exact-output swap. -/
structure SwapParams where
  currency0 : Uint256
  currency1 : Uint256
  zeroForOne : Uint256
  amount : Uint256

/-- The byte position of `amount` in the struct. -/
def SingleSwap.amountOffset : SingleSwap → Nat
  | exactIn => 192
  | exactOut => 224

/-- The struct at a byte offset: a five-word pool key, the direction, the amounts. -/
def SingleSwap.paramsAt (kind : SingleSwap) (blob : Bytes) (base : Nat) : SwapParams where
  currency0 := wordAt blob base
  currency1 := wordAt blob (base + 32)
  zeroForOne := wordAt blob (base + 160)
  amount := wordAt blob (base + kind.amountOffset)

/-- The byte offset word 0 gives. -/
def structOffset (blob : Bytes) : Nat := (wordAt blob 0).toNat

/-- The currency word the direction selects. -/
def SwapParams.currency (p : SwapParams) : Uint256 :=
  if p.zeroForOne.toNat ≠ 0 then p.currency0 else p.currency1

/-- The nine head words of the struct lie inside the blob. -/
def InRange (blob : Bytes) (offset : Nat) : Prop := offset + 288 ≤ blob.length

instance (blob : Bytes) (offset : Nat) : Decidable (InRange blob offset) :=
  inferInstanceAs (Decidable (_ ≤ _))

namespace Sdk

namespace UniswapV4

/-! ## The decoder's reading -/

def actionOf : SingleSwap → Int
  | .exactIn => 0x06
  | .exactOut => 0x08

/-- The word the decoder takes for the amount. -/
def amountIndex : SingleSwap → Nat
  | .exactIn => 7
  | .exactOut => 8

theorem readV4Action_eq_singleSwap (kind : SingleSwap) (o : Outflow) (params : Text) :
    readV4Action o (some (actionOf kind)) params =
      (singleSwap params (amountIndex kind) >>= fun swap =>
        o.add swap.1 swap.2 >>= fun outflow => .ok (some outflow)) := by
  cases kind with
  | exactIn => rfl
  | exactOut => rfl

/-- The key a currency word is recorded under; a word that is no address has none. -/
def wordKey (w : Uint256) : Option Text :=
  if w.toNat < 2 ^ 160 then some (assetKey (w.setWidth 160)) else none

section Reads

variable {blob : Bytes} {index : Nat}

theorem wordAt_hexText (inside : 32 * index + 32 ≤ blob.length) :
    wordAt (hexText blob) index = .ok (AgentProof.wordAt blob (32 * index)).toNat := by
  have digits := slice_word_hexText inside
  rw [show 2 * (32 * index) = index * 64 by ring] at digits
  unfold wordAt
  simp only [digits, length_hexText, length_readPadded, ne_eq, not_true_eq_false, if_false]
  exact bigIntHex_word blob _

/-- A currency word read as an address and recorded. -/
theorem add_wordAsAddress (inside : 32 * index + 32 ≤ blob.length) (o : Outflow) (amount : Int) :
    (wordKey (AgentProof.wordAt blob (32 * index)) = none ∧
      ∃ e, wordAsAddress (hexText blob) index = .error e) ∨
    ∃ key currency, wordKey (AgentProof.wordAt blob (32 * index)) = some key ∧
      wordAsAddress (hexText blob) index = .ok currency ∧
      o.add currency amount = .ok (o.addAt key amount) := by
  unfold wordAsAddress wordKey
  rw [wordAt_hexText inside]
  by_cases clean : (AgentProof.wordAt blob (32 * index)).toNat < 2 ^ 160
  · rw [if_pos clean]
    refine .inr ⟨_, _, rfl, normalizeAddress_addressDigits clean, ?_⟩
    rw [BitVec.ofNat_toNat]
    exact o.add_addressText _ amount
  · rw [if_neg clean]
    exact .inl ⟨rfl, normalizeAddress_addressDigits_of_ge (not_lt.mp clean)⟩

/-- The decoder's turn on a single-hop swap reads the struct at byte 32. -/
theorem readV4Action_actionOf (kind : SingleSwap) (long : 288 ≤ blob.length) (o : Outflow) :
    (wordKey (kind.paramsAt blob 32).currency = none ∧
      ∃ e, readV4Action o (some (actionOf kind)) (hexText blob) = .error e) ∨
    ∃ key, wordKey (kind.paramsAt blob 32).currency = some key ∧
      readV4Action o (some (actionOf kind)) (hexText blob) =
        .ok (some (o.addAt key (kind.paramsAt blob 32).amount.toNat)) := by
  have direction : wordAt (hexText blob) 6 = .ok (kind.paramsAt blob 32).zeroForOne.toNat :=
    wordAt_hexText (by omega)
  have amount : wordAt (hexText blob) (amountIndex kind) =
      .ok (kind.paramsAt blob 32).amount.toNat := by
    cases kind with
    | exactIn => exact wordAt_hexText (by simp only [amountIndex]; omega)
    | exactOut => exact wordAt_hexText (by simp only [amountIndex]; omega)
  have selected : (kind.paramsAt blob 32).currency = AgentProof.wordAt blob
      (32 * if (kind.paramsAt blob 32).zeroForOne.toNat ≠ 0 then 1 else 2) := by
    rw [SwapParams.currency]
    split_ifs <;> rfl
  have inside : 32 * (if (kind.paramsAt blob 32).zeroForOne.toNat ≠ 0 then 1 else 2) + 32 ≤
      blob.length := by
    split_ifs <;> omega
  rw [readV4Action_eq_singleSwap, selected]
  unfold singleSwap
  rw [direction, amount]
  rcases add_wordAsAddress inside o (kind.paramsAt blob 32).amount.toNat with
    ⟨unkeyed, e, refused⟩ | ⟨key, currency, keyed, read, added⟩
  · refine .inl ⟨unkeyed, e, ?_⟩
    simp only [bind, Except.bind, refused]
  · refine .inr ⟨key, keyed, ?_⟩
    simp only [bind, Except.bind, read, added]

end Reads

/-! ## When the two readings agree -/

/-- In every stream that holds the swap, the decoder refuses the stream or goes
on with the contribution of the struct the router reads. -/
def ReadsAsRouter (kind : SingleSwap) (blob : Bytes) : Prop :=
  ∀ (front rest : List (Option Int × Text)) (o : Outflow), readV4Actions .empty front = some o →
    readV4Actions .empty (front ++ (some (actionOf kind), hexText blob) :: rest) = none ∨
    ∃ key, wordKey (kind.paramsAt blob (structOffset blob)).currency = some key ∧
      readV4Actions .empty (front ++ (some (actionOf kind), hexText blob) :: rest) =
        readV4Actions
          (o.addAt key (kind.paramsAt blob (structOffset blob)).amount.toNat) rest

/-- The currency at byte 32 is no address, or it and the amount there are those
of the struct. -/
def SameContribution (kind : SingleSwap) (blob : Bytes) : Prop :=
  wordKey (kind.paramsAt blob 32).currency = none ∨
    (wordKey (kind.paramsAt blob 32).currency =
        wordKey (kind.paramsAt blob (structOffset blob)).currency ∧
      (kind.paramsAt blob 32).amount = (kind.paramsAt blob (structOffset blob)).amount)

theorem sameContribution_of_canonical {kind : SingleSwap} {blob : Bytes}
    (canonical : structOffset blob = 32) : SameContribution kind blob := by
  rw [SameContribution, canonical]
  exact .inr ⟨rfl, rfl⟩

theorem readV4Actions_append {o : Outflow} {front rest : List (Option Int × Text)} :
    readV4Actions o (front ++ rest) = (readV4Actions o front).bind (readV4Actions · rest) := by
  induction front generalizing o with
  | nil => rfl
  | cons head front ih =>
      obtain ⟨action, params⟩ := head
      rw [List.cons_append, readV4Actions, readV4Actions]
      split
      · exact ih
      · rfl
      · rfl

/-- The contribution recorded determines the key and the amount. -/
theorem Outflow.addAt_empty_injective {key key' : Text} {amount amount' : Int}
    (same : Outflow.empty.addAt key amount = Outflow.empty.addAt key' amount') :
    key = key' ∧ amount = amount' := by
  have entries := congrArg (fun o => o.byAsset.entries) same
  simpa [Outflow.addAt, Outflow.empty, OrderedMap.set, OrderedMap.setEntry, Outflow.amountAt,
    OrderedMap.get] using entries

theorem readsAsRouter_iff (kind : SingleSwap) {blob : Bytes}
    (inRange : InRange blob (structOffset blob)) :
    ReadsAsRouter kind blob ↔ SameContribution kind blob := by
  have long : 288 ≤ blob.length := (Nat.le_add_left _ _).trans inRange
  constructor
  · intro agrees
    rcases readV4Action_actionOf kind long .empty with ⟨unkeyed, -⟩ | ⟨key, keyed, read⟩
    · exact .inl unkeyed
    · have alone : readV4Actions .empty ([] ++ [(some (actionOf kind), hexText blob)]) =
          some (Outflow.empty.addAt key (kind.paramsAt blob 32).amount.toNat) := by
        rw [List.nil_append, readV4Actions, read]
        rfl
      rcases agrees [] [] .empty rfl with refused | ⟨key', keyed', recorded⟩
      · rw [alone] at refused
        cases refused
      · rw [alone, readV4Actions, Option.some.injEq] at recorded
        obtain ⟨sameKey, sameAmount⟩ := Outflow.addAt_empty_injective recorded
        refine .inr ⟨by rw [keyed, keyed', sameKey], ?_⟩
        exact BitVec.eq_of_toNat_eq (Int.ofNat.inj sameAmount)
  · intro same front rest o readFront
    rw [readV4Actions_append, readFront, Option.bind_some, readV4Actions]
    rcases readV4Action_actionOf kind long o with ⟨-, e, refused⟩ | ⟨key, keyed, read⟩
    · rw [refused]
      exact .inl rfl
    · rw [read]
      rcases same with unkeyed | ⟨sameCurrency, sameAmount⟩
      · rw [unkeyed] at keyed
        cases keyed
      · refine .inr ⟨key, by rw [← sameCurrency, keyed], ?_⟩
        rw [← sameAmount]

/-- A swap of 1000 laid out canonically. -/
def canonicalBlob : Bytes := encodeWords [0x20, 0x11, 0x22, 500, 10, 0, 1, 1000, 1, 0x120, 0]

theorem readsAsRouter_canonicalBlob : ReadsAsRouter .exactIn canonicalBlob :=
  (readsAsRouter_iff .exactIn (by decide +kernel)).mpr
    (sameContribution_of_canonical (by decide +kernel))

/-- A swap of 1000 behind a swap of 1 that the router skips. -/
def decoyBlob : Bytes :=
  encodeWords [0x140, 0x11, 0x22, 500, 10, 0, 1, 1, 1, 0x120,
    0x11, 0x22, 500, 10, 0, 1, 1000, 1, 0x120, 0]

/-- The decoder records the decoy. -/
theorem not_readsAsRouter_decoyBlob :
    InRange decoyBlob (structOffset decoyBlob) ∧ ¬ ReadsAsRouter .exactIn decoyBlob := by
  refine ⟨by decide +kernel, fun agrees => ?_⟩
  have recorded : readV4Actions .empty ([] ++ [(some (actionOf .exactIn), hexText decoyBlob)]) =
      some (Outflow.empty.addAt (assetKey 0x11) 1) := by decide +kernel
  rcases agrees [] [] .empty rfl with refused | ⟨key, -, struct⟩
  · rw [recorded] at refused
    cases refused
  · rw [recorded, readV4Actions, Option.some.injEq] at struct
    have amount := (Outflow.addAt_empty_injective struct).2
    revert amount
    decide +kernel

end UniswapV4

end Sdk

end AgentProof
