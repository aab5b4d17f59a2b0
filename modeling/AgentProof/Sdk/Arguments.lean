import AgentProof.Sdk.Execute
import AgentProof.Sdk.LetterCase
import AgentProof.Sdk.RouterWords

/-!
# Arguments that cannot be read

The token and payment decoders read one or two addresses and an amount from the
words behind the selector.  Where a word is missing, or an address word holds
more than an address, the read throws, and so does the registry: only what no
decoder claims is made an intent without a bound.
-/

namespace AgentProof

namespace Sdk

open Js UniswapV4

/-! ## The argument words -/

/-- The digits of the nth argument. -/
def argument (data : Text) (index : Nat) : Text :=
  slice data (10 + index * 64) (10 + index * 64 + 64)

/-- The selectors whose arguments are read: ERC-20, Permit2 and x402. -/
def tokenSelectors : List Text := erc20Decoder.selectors ++ x402Decoder.selectors

/-- How many addresses stand before the amount. -/
def addressCount (selector : Text) : Nat :=
  if selector ∈ [SELECTOR_TRANSFER_FROM, SELECTOR_PERMIT2_APPROVE, SELECTOR_X402_SETTLE] then 2
  else 1

/-- The calldata reaches to the end of the amount, and its address words are addresses. -/
structure Readable (data : Text) (addresses : Nat) : Prop where
  long : 10 + (addresses + 1) * 64 ≤ data.length
  clean : ∀ i < addresses, numeral 16 (argument data i) < 2 ^ 160

instance (data : Text) (addresses : Nat) : Decidable (Readable data addresses) :=
  decidable_of_iff (10 + (addresses + 1) * 64 ≤ data.length ∧
      ∀ i < addresses, numeral 16 (argument data i) < 2 ^ 160)
    ⟨fun ⟨long, clean⟩ => ⟨long, clean⟩, fun readable => ⟨readable.long, readable.clean⟩⟩

section Words

variable {data : Text} {index : Nat}

theorem allHex_drop (hex : isHex data = true) (n : Nat) : AllHex (data.drop (n + 2)) := by
  unfold isHex at hex
  split at hex
  · next body =>
      exact List.all_eq_true.mpr fun c mem => List.all_eq_true.mp hex c (List.mem_of_mem_drop mem)
  · cases hex

theorem allHex_argument (hex : isHex data = true) (index : Nat) : AllHex (argument data index) := by
  have rest := (allHex_drop hex (8 + index * 64)).slice 0 64
  have cut : argument data index = slice (data.drop (8 + index * 64 + 2)) 0 64 := by
    rw [argument, slice, slice, List.drop_zero, Nat.add_sub_cancel_left, Nat.add_right_comm]
  rwa [← cut] at rest

theorem readWord_eq_ok_iff (hex : isHex data = true) {value : Nat} :
    readWord data index = .ok value ↔
      10 + (index + 1) * 64 ≤ data.length ∧ numeral 16 (argument data index) = value := by
  have length : (argument data index).length = 64 ↔ 10 + (index + 1) * 64 ≤ data.length := by
    rw [argument, slice, List.length_take, List.length_drop]
    omega
  change (if (argument data index).length ≠ 64 then thrown _ else bigIntHex (argument data index)) =
    .ok value ↔ _
  by_cases whole : (argument data index).length = 64
  · have nonempty : argument data index ≠ [] := by
      rw [← List.length_pos_iff, whole]
      norm_num
    rw [if_neg (not_not.mpr whole), bigIntHex_of_allHex (allHex_argument hex index) nonempty,
      Except.ok.injEq, and_iff_right (length.mp whole)]
  · rw [if_pos whole]
    refine iff_of_false (by simp [thrown]) fun read => whole (length.mpr read.1)

theorem readAddress_iff (hex : isHex data = true) :
    (∃ address, readAddress data index = .ok address) ↔
      10 + (index + 1) * 64 ≤ data.length ∧ numeral 16 (argument data index) < 2 ^ 160 := by
  unfold readAddress
  simp only [bind_eq_ok_iff, readWord_eq_ok_iff hex]
  constructor
  · rintro ⟨address, value, ⟨inside, rfl⟩, normal⟩
    refine ⟨inside, ?_⟩
    by_contra large
    obtain ⟨e, refused⟩ := normalizeAddress_addressDigits_of_ge (not_lt.mp large)
    rw [refused] at normal
    cases normal
  · rintro ⟨inside, small⟩
    exact ⟨_, _, ⟨inside, rfl⟩, normalizeAddress_addressDigits small⟩

/-- An address and an amount are read exactly when both arguments are there. -/
theorem reads_one_iff {α : Type} (hex : isHex data = true) {made : Text → Int → Except JsError α}
    (makes : ∀ address amount, ∃ answer, made address amount = .ok answer) :
    (∃ answer, (do
      let address ← readAddress data 0
      let amount : Int ← readWord data 1
      made address amount) = .ok answer) ↔ Readable data 1 := by
  simp only [bind_eq_ok_iff]
  constructor
  · rintro ⟨-, address, first, amount, ⟨word, second, -⟩, -⟩
    have small := ((readAddress_iff hex).mp ⟨address, first⟩).2
    have inside := ((readWord_eq_ok_iff hex).mp second).1
    refine ⟨inside, fun i below => ?_⟩
    obtain rfl : i = 0 := by omega
    exact small
  · intro readable
    have long := readable.long
    obtain ⟨address, first⟩ :=
      (readAddress_iff hex).mpr ⟨by omega, readable.clean 0 (by omega)⟩
    obtain ⟨answer, made⟩ := makes address (numeral 16 (argument data 1) : Nat)
    exact ⟨answer, address, first, _, ⟨_, (readWord_eq_ok_iff hex).mpr ⟨by omega, rfl⟩, rfl⟩, made⟩

/-- Two addresses and an amount. -/
theorem reads_two_iff {α : Type} (hex : isHex data = true)
    {made : Text → Text → Int → Except JsError α}
    (makes : ∀ first second amount, ∃ answer, made first second amount = .ok answer) :
    (∃ answer, (do
      let first ← readAddress data 0
      let second ← readAddress data 1
      let amount : Int ← readWord data 2
      made first second amount) = .ok answer) ↔ Readable data 2 := by
  simp only [bind_eq_ok_iff]
  constructor
  · rintro ⟨-, first, firstRead, second, secondRead, amount, ⟨word, amountRead, -⟩, -⟩
    have small := ((readAddress_iff hex).mp ⟨first, firstRead⟩).2
    have small' := ((readAddress_iff hex).mp ⟨second, secondRead⟩).2
    have inside := ((readWord_eq_ok_iff hex).mp amountRead).1
    refine ⟨inside, fun i below => ?_⟩
    obtain rfl | rfl : i = 0 ∨ i = 1 := by omega
    · exact small
    · exact small'
  · intro readable
    have long := readable.long
    obtain ⟨first, firstRead⟩ :=
      (readAddress_iff hex).mpr ⟨by omega, readable.clean 0 (by omega)⟩
    obtain ⟨second, secondRead⟩ :=
      (readAddress_iff hex).mpr ⟨by omega, readable.clean 1 (by omega)⟩
    obtain ⟨answer, made⟩ := makes first second (numeral 16 (argument data 2) : Nat)
    exact ⟨answer, first, firstRead, second, secondRead, _,
      ⟨_, (readWord_eq_ok_iff hex).mpr ⟨by omega, rfl⟩, rfl⟩, made⟩

end Words

/-! ## Who reads them -/

section Decoders

variable {action : Action} {ctx : DecoderContext}

/-- The ERC-20 decoder answers one of its selectors exactly when the arguments are readable. -/
theorem erc20Decoder_answers_iff (target : isAddress action.toAddress = true)
    (hex : isHex action.data = true) (listed : selectorOf action.data ∈ erc20Decoder.selectors) :
    (∃ answer, erc20Decoder.decode action ctx = .ok answer) ↔
      Readable action.data (addressCount (selectorOf action.data)) := by
  have one : selectorOf action.data ∈ [SELECTOR_TRANSFER, SELECTOR_TRANSFER_FROM, SELECTOR_APPROVE,
      SELECTOR_INCREASE_ALLOWANCE, SELECTOR_PERMIT2_APPROVE] := listed
  simp only [List.mem_cons, List.not_mem_nil, or_false] at one
  simp only [erc20Decoder, normalizeAddress_of_isAddress target]
  rcases one with selector | selector | selector | selector | selector
  all_goals rw [selector]
  · exact reads_one_iff hex fun _ _ => ⟨_, rfl⟩
  · exact reads_two_iff hex fun _ _ _ => ⟨_, rfl⟩
  · exact reads_one_iff hex fun _ _ => ⟨_, rfl⟩
  · exact reads_one_iff hex fun _ _ => ⟨_, rfl⟩
  · exact reads_two_iff hex fun _ _ _ => ⟨_, rfl⟩

theorem x402Decoder_answers_iff (target : isAddress action.toAddress = true)
    (hex : isHex action.data = true) (listed : selectorOf action.data ∈ x402Decoder.selectors) :
    (∃ answer, x402Decoder.decode action ctx = .ok answer) ↔
      Readable action.data (addressCount (selectorOf action.data)) := by
  have selector : selectorOf action.data = SELECTOR_X402_SETTLE := List.mem_singleton.mp listed
  simp only [x402Decoder, if_neg (not_not.mpr selector), normalizeAddress_of_isAddress target]
  rw [selector]
  exact reads_two_iff hex fun _ _ _ => ⟨_, rfl⟩

/-- A token or payment selector, in whatever case, before arguments that cannot be read. -/
def Unreadable (data : Text) : Prop :=
  toLowerCase (selectorOf data) ∈ tokenSelectors ∧
    ¬ Readable data (addressCount (toLowerCase (selectorOf data)))

instance : DecidablePred Unreadable := fun data =>
  inferInstanceAs (Decidable (toLowerCase (selectorOf data) ∈ tokenSelectors ∧
    ¬ Readable data (addressCount (toLowerCase (selectorOf data)))))

/-- With an address as the target the registry returns whenever the decoder does. -/
theorem bind_settle_iff (target : isAddress action.toAddress = true)
    {asked : Except JsError (Option NormalizedIntent)} :
    (∃ intent, (asked >>= settle action ctx) = .ok intent) ↔ ∃ answer, asked = .ok answer := by
  constructor
  · rintro ⟨intent, settles⟩
    obtain ⟨answer, asks, -⟩ := bind_eq_ok_iff.mp settles
    exact ⟨answer, asks⟩
  · rintro ⟨answer, rfl⟩
    cases answer with
    | some intent => exact ⟨intent, rfl⟩
    | none =>
        refine ⟨unreadIntent action ctx (addressText (addressOf action.toAddress)), ?_⟩
        simp only [bind, Except.bind, settle, normalizeAddress_of_isAddress target]

theorem nativeDecoder_answers (target : isAddress action.toAddress = true) :
    ∃ answer, nativeDecoder.decode action ctx = .ok answer := by
  simp only [nativeDecoder, normalizeAddress_of_isAddress target]
  split_ifs
  · exact ⟨_, rfl⟩
  · exact ⟨_, rfl⟩

/-- The default registry returns, except on a selector in lower case whose arguments cannot be
read. -/
theorem decode_returns_iff (target : isAddress action.toAddress = true)
    (hex : isHex action.data = true) (tracked : isAddress ctx.trackedAsset = true) :
    (∃ intent, createDefaultRegistry.decode action ctx = .ok intent) ↔
      (Unreadable action.data → ¬ InLowerCase action.data) := by
  by_cases listed : toLowerCase (selectorOf action.data) ∈ erc20Decoder.selectors ∨
      toLowerCase (selectorOf action.data) ∈ x402Decoder.selectors
  · have token : toLowerCase (selectorOf action.data) ∈ tokenSelectors := List.mem_append.mpr listed
    by_cases lower : InLowerCase action.data
    swap
    · exact iff_of_true ⟨_, decode_of_mixed target lower listed⟩ fun _ => lower
    have answers : (∃ intent, createDefaultRegistry.decode action ctx = .ok intent) ↔
        Readable action.data (addressCount (selectorOf action.data)) := by
      rcases listed with listed | listed
      · rw [decode_of_claimed (claimant_erc20 listed), bind_settle_iff target]
        rw [lower] at listed
        exact erc20Decoder_answers_iff target hex listed
      · rw [decode_of_claimed (claimant_x402 listed), bind_settle_iff target]
        rw [lower] at listed
        exact x402Decoder_answers_iff target hex listed
    rw [answers, Unreadable, and_iff_right token, lower, imp_not_comm, imp_iff_right lower, not_not]
  · refine iff_of_true ?_ fun unreadable => absurd (List.mem_append.mp unreadable.1) listed
    rw [not_or] at listed
    by_cases router : toLowerCase (selectorOf action.data) ∈ uniswapV4Decoder.selectors
    · obtain ⟨intent, decoded⟩ := decode_answers target tracked
      rw [decode_of_claimed ((if_neg listed.1).trans (if_pos router)), decoded]
      exact ⟨intent, rfl⟩
    · rw [decode_of_unclaimed (by rw [claimant, if_neg listed.1, if_neg router, if_neg listed.2]),
        bind_settle_iff target]
      exact nativeDecoder_answers target

end Decoders

/-! ## What becomes of the call -/

/-- The engine blocks the action, and every call of `execute` that decides on it publishes that. -/
def Refused (engine : PolicyEngineOptions) (action : Action) (intent : NormalizedIntent)
    (state : PolicyState) : Prop :=
  ∃ result, engine.verify action state = .ok result ∧ result.decision = .block ∧
    ∀ (account : ProtectedAccount) (s : Process) (i : Nat), account.deps.engine = engine →
      s.evaluate account i intent state =
        { s with sequence := s.sequence + 1 }.finish i
          ⟨result, s.sequence + 1, none, none⟩

/-- The action is made an intent; if its arguments cannot be read, one without a bound, which is
blocked. -/
def Classified (policy : ResolvedPolicy) (allowUnknownSelectors : Bool) (ctx : DecoderContext)
    (action : Action) (state : PolicyState) : Prop :=
  ∃ intent, createDefaultRegistry.decode action ctx = .ok intent ∧
    (Unreadable action.data → intent.kind = .unknown ∧ intent.notionalUSDC = UNBOUNDED ∧
      Refused (engineIn policy allowUnknownSelectors ctx) action intent state)

section Classified

variable {policy : ResolvedPolicy} {allowUnknownSelectors : Bool} {ctx : DecoderContext}
  {action : Action} {state : PolicyState} {intent : NormalizedIntent}

theorem refused_iff (decoded : createDefaultRegistry.decode action ctx = .ok intent) :
    Refused (engineIn policy allowUnknownSelectors ctx) action intent state ↔
      ¬ policy.Passes allowUnknownSelectors intent state := by
  have verified : (engineIn policy allowUnknownSelectors ctx).verify action state =
      .ok (PolicyEngine.evaluate (createEngine policy allowUnknownSelectors).policies intent
        state) :=
    bind_eq_ok_iff.mpr ⟨intent, decoded, rfl⟩
  rw [← evaluate_createEngine_eq_block_iff]
  constructor
  · rintro ⟨result, found, blocked, -⟩
    rw [verified] at found
    cases found
    exact blocked
  · intro blocked
    refine ⟨_, verified, blocked, fun account s i engine => ?_⟩
    rw [Process.evaluate, engine]
    simp only [engineIn, blocked]

/-- When the five policies refuse what could not be read. -/
theorem not_passes_unreadIntent_iff {target : Text} :
    ¬ policy.Passes allowUnknownSelectors (unreadIntent action ctx target) state ↔
      allowUnknownSelectors = false ∨ target ∉ policy.allowedContracts ∨
        policy.maxTransaction < UNBOUNDED ∨ state.balance - UNBOUNDED < policy.minBalance ∨
        policy.dailySpend < state.dailySpend + UNBOUNDED := by
  constructor
  · intro refused
    by_contra accepts
    simp only [not_or, not_not, not_lt, Bool.not_eq_false] at accepts
    obtain ⟨unknown, listed, ceiling, floor, daily⟩ := accepts
    exact refused ⟨⟨fun _ => unknown, listed, fun _ named => by cases named⟩, ceiling, floor, daily⟩
  · rintro (unknown | unlisted | above | below | spent) passes
    · rw [passes.listed.1 rfl] at unknown
      cases unknown
    · exact unlisted passes.listed.2.1
    · exact absurd passes.ceiling (not_le.mpr above)
    · exact absurd passes.floor (not_le.mpr below)
    · exact absurd passes.daily (not_le.mpr spent)

/-- A call is classified, and where its arguments cannot be read blocked, exactly when they can be
read, or the selector in front of them is in another case than lower and the policy refuses what it
does not know: it permits no unknown selectors, the target is not listed, or the sentinel exceeds
the transaction limit, what is left above the reserve, or what is left of the day. -/
theorem unreadable_classified_iff (target : isAddress action.toAddress = true)
    (hex : isHex action.data = true) (tracked : isAddress ctx.trackedAsset = true) :
    Classified policy allowUnknownSelectors ctx action state ↔
      (Unreadable action.data → ¬ InLowerCase action.data ∧
        (allowUnknownSelectors = false ∨
          addressText (addressOf action.toAddress) ∉ policy.allowedContracts ∨
          policy.maxTransaction < UNBOUNDED ∨ state.balance - UNBOUNDED < policy.minBalance ∨
          policy.dailySpend < state.dailySpend + UNBOUNDED)) := by
  by_cases unreadable : Unreadable action.data
  · rw [imp_iff_right unreadable]
    constructor
    · rintro ⟨intent, decoded, blocked⟩
      have mixed := (decode_returns_iff target hex tracked).mp ⟨intent, decoded⟩ unreadable
      have refused := (blocked unreadable).2.2
      have unread := @decode_of_mixed _ ctx target mixed (List.mem_append.mp unreadable.1)
      obtain rfl := Except.ok.inj (decoded.symm.trans unread)
      exact ⟨mixed, not_passes_unreadIntent_iff.mp ((refused_iff decoded).mp refused)⟩
    · rintro ⟨mixed, refuses⟩
      have unread := @decode_of_mixed _ ctx target mixed (List.mem_append.mp unreadable.1)
      exact ⟨_, unread, fun _ => ⟨rfl, rfl, (refused_iff unread).mpr
        (not_passes_unreadIntent_iff.mpr refuses)⟩⟩
  · refine iff_of_true ?_ fun unread => absurd unread unreadable
    obtain ⟨intent, decoded⟩ :=
      (decode_returns_iff target hex tracked).mpr fun unread => absurd unread unreadable
    exact ⟨intent, decoded, fun unread => absurd unread unreadable⟩

end Classified

/-! ### A transfer that stops short -/

/-- A transfer without its amount, the selector as written. -/
def shortTransfer (selector : Text) : Action where
  toAddress := addressText 0xa55e7
  data := selector ++ wordText 0x22
  value := 0

theorem isAddress_shortTransfer (selector : Text) :
    isAddress (shortTransfer selector).toAddress = true :=
  isAddress_addressText 0xa55e7

theorem shortTransfer_input :
    isHex (shortTransfer "0xA9059CBB".toList).data = true ∧
      isHex (shortTransfer SELECTOR_TRANSFER).data = true ∧
      isAddress sampleContext.trackedAsset = true ∧
      ¬ InLowerCase (shortTransfer "0xA9059CBB".toList).data ∧
      InLowerCase (shortTransfer SELECTOR_TRANSFER).data ∧
      Unreadable (shortTransfer SELECTOR_TRANSFER).data := by
  decide +kernel

/-- With its selector in upper case it is blocked by every policy that permits no unknown
selectors. -/
theorem unreadable_classified_shortTransfer : ∃ policy,
    resolvePolicy (fun _ => []) (limitedTo "100000000".toList) = .ok policy ∧
      Classified policy false sampleContext (shortTransfer "0xA9059CBB".toList) (richest policy) := by
  obtain ⟨policy, accepted, -⟩ := resolvePolicy_limitedTo.1
  obtain ⟨hex, -, tracked, mixed, -⟩ := shortTransfer_input
  exact ⟨policy, accepted, (unreadable_classified_iff (isAddress_shortTransfer _) hex tracked).mpr
    fun _ => ⟨mixed, .inl rfl⟩⟩

/-- As agents write it, nothing is decided: the registry throws. -/
theorem not_classified_shortTransfer : ∃ policy,
    resolvePolicy (fun _ => []) (limitedTo "100000000".toList) = .ok policy ∧
      (∃ e, createDefaultRegistry.decode (shortTransfer SELECTOR_TRANSFER) sampleContext =
        .error e) ∧
      Unreadable (shortTransfer SELECTOR_TRANSFER).data ∧
      ¬ Classified policy false sampleContext (shortTransfer SELECTOR_TRANSFER)
        (richest policy) := by
  obtain ⟨policy, accepted, -⟩ := resolvePolicy_limitedTo.1
  obtain ⟨-, hex, tracked, -, lower, unreadable⟩ := shortTransfer_input
  have throws : ¬ ∃ intent, createDefaultRegistry.decode (shortTransfer SELECTOR_TRANSFER)
      sampleContext = .ok intent := fun returns =>
    (decode_returns_iff (isAddress_shortTransfer _) hex tracked).mp returns unreadable lower
  refine ⟨policy, accepted, ?_, unreadable, ?_⟩
  · cases decoded : createDefaultRegistry.decode (shortTransfer SELECTOR_TRANSFER) sampleContext with
    | error e => exact ⟨e, rfl⟩
    | ok intent => exact absurd ⟨intent, decoded⟩ throws
  · rintro ⟨intent, decoded, -⟩
    exact throws ⟨intent, decoded⟩

end Sdk

end AgentProof
