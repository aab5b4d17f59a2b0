import AgentProof.Sdk.Amounts
import AgentProof.X402.Client

/-!
# The amount that is signed

The amount of a challenge is in atomic units: so the server quotes it, and so the signer
reads it.  The client takes it for display units on the way to the policy, and what
`authorise` is asked about is a million times what is signed.  The two agree on nothing
but the amount 0.
-/

namespace AgentProof

namespace X402

open Js Sdk Binary64

/-! ## A million times an amount -/

/-- The largest amount whose millionfold is no infinity. -/
@[irreducible] def LARGEST_AMOUNT : Nat := 9444732965739289 * 2 ^ 951

/-- The millionfold of a rounded amount, rounded again. -/
def millionfold (a : Rat) : Rat := nearest (nearest a * 10 ^ 6)

theorem millionfold_mono {a b : Nat} (pos : 0 < a) (le : a ≤ b) :
    millionfold a ≤ millionfold b := by
  have scaled : nearest a * 10 ^ 6 ≤ nearest b * 10 ^ 6 :=
    mul_le_mul_of_nonneg_right (nearest_mono (Nat.cast_pos.mpr pos) (Nat.cast_le.mpr le))
      (by norm_num)
  exact nearest_mono (mul_pos (nearest_pos pos) (by norm_num)) scaled

set_option maxRecDepth 100000 in
theorem millionfold_largest :
    nearest LARGEST_AMOUNT < 2 ^ 1024 ∧ millionfold LARGEST_AMOUNT < 2 ^ 1024 ∧
      2 ^ 1024 ≤ millionfold (LARGEST_AMOUNT + 1 : Nat) := by
  decide +kernel

section Amount

variable {s : Text} {a : Nat}

theorem policyAmount_of_zero (read : bigInt s = .ok ((0 : Nat) : Int)) :
    policyAmount s = .ok 0 := by
  rw [policyAmount, number_of_bigInt read]
  decide +kernel

theorem mul_million (pos : 0 < a) :
    (Double.round a).mul (.finite (10 ^ 6)) =
      if nearest a < 2 ^ 1024 ∧ millionfold a < 2 ^ 1024 then .finite (millionfold a)
      else .infinite false := by
  have positive := nearest_pos pos
  rw [round_of_pos (Nat.cast_pos.mpr pos)]
  by_cases finite : nearest a < 2 ^ 1024
  · rw [if_pos finite, Double.mul, round_of_pos (mul_pos positive (by norm_num)), millionfold]
    simp only [finite, true_and]
  · rw [if_neg finite, if_neg fun both => finite both.1]
    decide

/-- What the policy is asked about is a million times the amount, as far as doubles can tell. -/
theorem policyAmount_of_le (read : bigInt s = .ok (a : Int)) (pos : 0 < a)
    (fits : a ≤ LARGEST_AMOUNT) :
    ∃ y : Nat, policyAmount s = .ok (y : Int) ∧ 999999 * a ≤ y ∧ y ≤ 1000001 * a := by
  obtain ⟨m, near, rounded⟩ := nearest_natCast a
  obtain ⟨y, near', rounded'⟩ := nearest_natCast (m * 10 ^ 6)
  have whole : millionfold a = y := by
    rw [millionfold, rounded]
    exact_mod_cast rounded'
  have finite := (nearest_mono (Nat.cast_pos.mpr pos) (Nat.cast_le.mpr fits)).trans_lt
    millionfold_largest.1
  have finite' := (millionfold_mono pos fits).trans_lt millionfold_largest.2.1
  obtain ⟨below, above⟩ := abs_le.mp ((le_div_iff₀ (by norm_num)).mpr near)
  obtain ⟨below', above'⟩ := abs_le.mp ((le_div_iff₀ (by norm_num)).mpr near')
  push_cast at below' above'
  have nonneg : (0 : Rat) ≤ a := Nat.cast_nonneg a
  refine ⟨y, ?_, ?_, ?_⟩
  · have half : ⌊(y : Rat) + 1 / 2⌋ = y := by
      rw [Int.floor_eq_iff]
      constructor <;> push_cast <;> linarith
    rw [policyAmount, number_of_bigInt read, mul_million pos, if_pos ⟨finite, finite'⟩, whole,
      Double.roundHalfUp, half]
    rfl
  · have least : (999999 * a : Rat) ≤ y := by linarith
    exact_mod_cast least
  · have most : (y : Rat) ≤ 1000001 * a := by linarith
    exact_mod_cast most

/-- The double is infinite, and `BigInt` throws. -/
theorem policyAmount_of_gt (read : bigInt s = .ok (a : Int)) (large : LARGEST_AMOUNT < a) :
    ∃ e, policyAmount s = .error e := by
  have pos : 0 < a := (Nat.zero_le _).trans_lt large
  have infinite : ¬ (nearest a < 2 ^ 1024 ∧ millionfold a < 2 ^ 1024) := fun both =>
    have above := millionfold_mono (Nat.succ_pos _) (Nat.succ_le_of_lt large)
    absurd (millionfold_largest.2.2.trans above) both.2.not_ge
  rw [policyAmount, number_of_bigInt read, mul_million pos, if_neg infinite]
  exact ⟨_, rfl⟩

end Amount

/-! ## The action -/

/-- The party that a `payTo` names, by its address or by the number of its Hedera account. -/
inductive Names : Text → Address → Prop
  | evm {payTo : Text} (address : isAddress payTo = true) : Names payTo (addressOf payTo)
  | hedera {num : Text} (nonempty : num ≠ []) (digits : num.all isDigit = true)
      (fits : numeral 10 num < 2 ^ 64) :
      Names ("0.0.".toList ++ num) (BitVec.ofNat 160 (numeral 10 num))

theorem toEvmAddress_of_names {payTo : Text} {party : Address} (names : Names payTo party) :
    toEvmAddress payTo = .ok (addressText party) := by
  cases names with
  | evm address =>
      have normal := normalizeAddress_of_isAddress address
      rw [normalizeAddress, if_pos address] at normal
      rw [toEvmAddress, if_pos address, normal]
  | @hedera num nonempty digits fits =>
      have parts : ("0.0.".toList ++ num).splitOn '.' = ["0".toList, "0".toList, num] := by
        have zero : "0".toList.splitOn '.' = ["0".toList] := by decide
        rw [show "0.0.".toList ++ num = "0".toList ++ '.' :: ("0".toList ++ '.' :: num) from rfl,
          List.splitOn_append_cons_self, List.splitOn_append_cons_self, zero,
          List.splitOn_eq_singleton (point_not_mem digits)]
        rfl
      have read := bigInt_of_all_isDigit nonempty digits
      have number : (BitVec.ofNat 160 (numeral 10 num)).toNat = numeral 10 num := by
        rw [BitVec.toNat_ofNat]
        exact Nat.mod_eq_of_lt (fits.trans (by norm_num))
      have text := padStart_toHex (fits.trans (show 2 ^ 64 < 16 ^ 40 by norm_num)) (by norm_num)
      rw [toEvmAddress, if_neg (by simp [isAddress]), parts]
      simp only [List.getLastD_cons, List.getLastD_nil, read, bind, Except.bind, toString16]
      rw [if_neg (not_lt.mpr (Int.natCast_nonneg _)), Int.natAbs_natCast, text, addressText_eq,
        number]

section Payment

variable {context : PolicyContext} {requirements : PaymentRequirements} {party : Address} {y : Nat}

/-- Selector, token, party, amount and the rest. -/
def paymentData (token party : Address) (y : Nat) (rest : Text) : Text :=
  SELECTOR_X402_SETTLE ++ (Calldata.word token.toNat ++ (Calldata.word party.toNat ++
    (Calldata.word y ++ rest)))

theorem proposedAction_of_names (names : Names requirements.payTo party)
    (token : isAddress context.token = true)
    (amount : policyAmount requirements.amount = .ok (y : Int)) :
    ∃ rest, proposedAction context requirements =
      .ok ⟨context.facilitator, paymentData (addressOf context.token) party y rest, 0⟩ := by
  have payTo := Calldata.bigInt_of_isAddress (isAddress_addressText party)
  rw [addressOf_addressText] at payTo
  refine ⟨padStart 64 '0' ((requestIdOf requirements.nonce).drop 2), ?_⟩
  simp only [proposedAction, x402PaymentAction, toEvmAddress_of_names names, amount, payTo,
    Calldata.bigInt_of_isAddress token, Calldata.bigWord_natCast, bind, Except.bind, paymentData,
    List.append_assoc]

theorem proposedAction_error (names : Names requirements.payTo party) {e : JsError}
    (amount : policyAmount requirements.amount = .error e) :
    proposedAction context requirements = .error e := by
  simp only [proposedAction, toEvmAddress_of_names names, amount, bind, Except.bind]

variable {token : Address} {rest : Text}

theorem selectorOf_paymentData :
    Sdk.selectorOf (paymentData token party y rest) = SELECTOR_X402_SETTLE := by
  have head : slice (paymentData token party y rest) 0 10 = SELECTOR_X402_SETTLE :=
    List.take_left' (by decide)
  have long : (paymentData token party y rest).length ≥ 10 := by
    rw [paymentData, List.length_append]
    exact Nat.le_add_right 10 _
  rw [Sdk.selectorOf, if_pos long, head]

/-- Of the amount, the digits that stand in its word. -/
theorem readWord_paymentData :
    ∃ j, readWord (paymentData token party y rest) 2 = .ok (y / 16 ^ j) := by
  obtain ⟨j, digits, small⟩ := Calldata.take_word y
  have parts : Calldata.word y = Calldata.word (y / 16 ^ j) ++ (Calldata.word y).drop 64 := by
    rw [Calldata.word_eq small, ← digits, List.take_append_drop]
  have front : (SELECTOR_X402_SETTLE ++ Calldata.word token.toNat ++
      Calldata.word party.toNat).length = 10 + 2 * 64 := by
    rw [List.length_append, List.length_append, Calldata.length_word_address, Calldata.length_word_address]
    rfl
  have whole : paymentData token party y rest =
      SELECTOR_X402_SETTLE ++ Calldata.word token.toNat ++ Calldata.word party.toNat ++
        (Calldata.word (y / 16 ^ j) ++ ((Calldata.word y).drop 64 ++ rest)) := by
    rw [← List.append_assoc (Calldata.word (y / 16 ^ j)), ← parts]
    simp only [paymentData, List.append_assoc]
  exact ⟨j, whole ▸ Calldata.readWord_append small front⟩

/-- A payment decodes to its party, and to what is read of the amount. -/
theorem decode_paymentData {facilitator : Text} (address : isAddress facilitator = true)
    (ctx : DecoderContext) :
    ∃ j intent, x402Decoder.decode ⟨facilitator, paymentData token party y rest, 0⟩ ctx =
        .ok (some intent) ∧
      intent.notionalUSDC = (if addressText token = ctx.trackedAsset then ((y / 16 ^ j : Nat) : Int)
        else 0) ∧
      intent.counterparty = some (addressText party) := by
  have selector := @selectorOf_paymentData party y token rest
  have first : readAddress (paymentData token party y rest) 0 = .ok (addressText token) :=
    Calldata.readAddress_append token (by decide)
  have second : readAddress (paymentData token party y rest) 1 = .ok (addressText party) := by
    rw [paymentData, ← List.append_assoc]
    exact Calldata.readAddress_append party (by rw [List.length_append, Calldata.length_word_address]; decide)
  obtain ⟨j, third⟩ := @readWord_paymentData party y token rest
  simp only [x402Decoder, selector, first, second, third, normalizeAddress_of_isAddress address,
    bind, Except.bind, ne_eq, not_true_eq_false, if_false]
  exact ⟨j, _, rfl, rfl, rfl⟩

end Payment

/-! ## What the client does -/

/-- With the token of the context tracked, the action pays `a` to the party. -/
def ReadsAs (context : PolicyContext) (a : Nat) (party : Address) (action : Sdk.Action) : Prop :=
  ∀ account, ∃ intent, x402Decoder.decode action ⟨account, context.token⟩ = .ok (some intent) ∧
    intent.notionalUSDC = a ∧ intent.counterparty = some (addressText party)

def Event.isSigning : Event → Bool
  | signPayment _ => true
  | _ => false

/-- The policy is asked about what is signed, and nothing is signed that it did not approve. -/
structure SignsApproved (context : PolicyContext) (requirements : PaymentRequirements) (a : Nat)
    (party : Address) (events : List Event) : Prop where
  reads : ∀ action asked answer, .authorise action asked answer ∈ events →
    ReadsAs context a party action
  once : (events.filter Event.isSigning).length ≤ 1
  approved : ∀ before signed after, events = before ++ .signPayment signed :: after →
    signed = requirements ∧ ∃ action, .authorise action requirements (.ok true) ∈ before
  amount : ∀ signed amount, .signPayment signed ∈ events → signedAmount signed = .ok amount →
    amount = a

/-- The first attempt is answered with a challenge, and the client has a policy to ask. -/
structure Challenged {Data : Type} (options : X402ClientOptions) (endpoint : Endpoint Data)
    (authorise : Sdk.Action → PaymentRequirements → Except JsError Bool) (context : PolicyContext)
    (requirements : PaymentRequirements) : Prop where
  asks : options.authorise = some authorise
  tracks : options.policyContext = some context
  facilitator : isAddress context.facilitator = true
  token : isAddress context.token = true
  challenge : ∃ response others, endpoint.first = .ok response ∧ response.status = 402 ∧
    response.accepts = .ok (some (requirements :: others))

section Run

variable {Data : Type} {options : X402ClientOptions} {endpoint : Endpoint Data}
  {authorise : Sdk.Action → PaymentRequirements → Except JsError Bool} {context : PolicyContext}
  {requirements : PaymentRequirements} {action : Sdk.Action} {e : JsError}

/-- The policy is asked about the action, or nobody is asked. -/
theorem Challenged.checkPolicy_eq
    (challenged : Challenged options endpoint authorise context requirements) :
    checkPolicy options requirements =
      match proposedAction context requirements with
      | .ok action => ⟨[.authorise action requirements (authorise action requirements)], do
          let approved ← authorise action requirements
          if approved then .ok ()
          else paymentRefused "AgentProof policy declined this payment".toList⟩
      | .error e => ⟨[], .error e⟩ := by
  rw [checkPolicy, challenged.asks, challenged.tracks]
  dsimp only
  cases proposedAction context requirements with
  | error => rfl
  | ok action =>
      show (Traced.call (.authorise action requirements (authorise action requirements))
        (authorise action requirements) >>= _) = ⟨_, _⟩
      cases authorise action requirements with
      | error => rfl
      | ok approved => cases approved <;> rfl

theorem Challenged.events_eq
    (challenged : Challenged options endpoint authorise context requirements) :
    (fetchPaid options endpoint).events = .attempt none ::
      match checkPrice options requirements with
      | .ok _ => (checkPolicy options requirements >>= fun _ => pay options endpoint requirements).events
      | .error _ => [] := by
  obtain ⟨response, others, answered, status, accepts⟩ := challenged.challenge
  rw [fetchPaid, Traced.events_bind, Traced.call, answered]
  dsimp only
  rw [if_neg (not_not.mpr status), accepts]
  show .attempt none :: (Traced.silent (checkPrice options requirements) >>= fun _ =>
    checkPolicy options requirements >>= fun _ => pay options endpoint requirements).events = _
  cases checkPrice options requirements <;> rfl

/-- The second attempt, if there is one, comes last. -/
theorem events_pay : ∃ payments : List (Option Text),
    (pay options endpoint requirements).events =
      .signPayment requirements :: payments.map Event.attempt := by
  rw [pay, Traced.events_bind, Traced.call]
  dsimp only
  cases options.signPayment requirements with
  | error => exact ⟨[], rfl⟩
  | ok payload =>
      refine ⟨[if payload = [] then none else some payload], ?_⟩
      dsimp only
      rw [Traced.events_bind, Traced.call]
      dsimp only
      cases endpoint.second (if payload = [] then none else some payload) with
      | error => rfl
      | ok second =>
          dsimp only
          split_ifs <;> rfl

/-- Nobody is asked about a price above the ceiling, nor about an amount that is no integer. -/
theorem Challenged.events_of_error
    (challenged : Challenged options endpoint authorise context requirements)
    (raised : checkPrice options requirements = .error e ∨
      proposedAction context requirements = .error e) :
    (fetchPaid options endpoint).events = [.attempt none] := by
  rw [challenged.events_eq]
  rcases raised with price | proposed
  · rw [price]
  · cases checkPrice options requirements with
    | error => rfl
    | ok => rw [challenged.checkPolicy_eq, proposed]; rfl

/-- Otherwise the policy is asked, and what it approves is signed. -/
theorem Challenged.events_of_proposed
    (challenged : Challenged options endpoint authorise context requirements)
    (price : checkPrice options requirements = .ok ())
    (proposed : proposedAction context requirements = .ok action) :
    ∃ later, (fetchPaid options endpoint).events =
        .attempt none :: .authorise action requirements (authorise action requirements) :: later ∧
      (later = [] ∨ authorise action requirements = .ok true ∧
        ∃ payments : List (Option Text),
          later = .signPayment requirements :: payments.map Event.attempt) := by
  rw [challenged.events_eq, price]
  dsimp only
  rw [Traced.events_bind, challenged.checkPolicy_eq, proposed]
  dsimp only
  cases authorise action requirements with
  | error => exact ⟨[], rfl, .inl rfl⟩
  | ok approved =>
      cases approved with
      | false => exact ⟨[], rfl, .inl rfl⟩
      | true => exact ⟨_, rfl, .inr ⟨rfl, events_pay⟩⟩

/-- A client that asks nobody signs nothing. -/
theorem signsApproved_of_attempt (context : PolicyContext) (requirements : PaymentRequirements)
    (a : Nat) (party : Address) :
    SignsApproved context requirements a party [.attempt none] where
  reads action asked answer mem := by simp at mem
  once := by decide
  approved before signed after split := by
    have mem : Event.signPayment signed ∈ [.attempt none] := split ▸ List.mem_append_cons_self
    simp at mem
  amount signed amount mem := by simp at mem

/-- A run in which the policy is asked is right where the action is. -/
theorem Challenged.signsApproved_iff_readsAs {a : Nat} {party : Address}
    (challenged : Challenged options endpoint authorise context requirements)
    (price : checkPrice options requirements = .ok ())
    (proposed : proposedAction context requirements = .ok action)
    (read : bigInt requirements.amount = .ok (a : Int)) :
    SignsApproved context requirements a party (fetchPaid options endpoint).events ↔
      ReadsAs context a party action := by
  obtain ⟨later, events, rest⟩ := challenged.events_of_proposed price proposed
  rw [events]
  constructor
  · intro signs
    exact signs.reads action requirements _ (List.mem_cons_of_mem _ List.mem_cons_self)
  · intro reads
    have signed_eq : ∀ signed, .signPayment signed ∈ (.attempt none ::
        .authorise action requirements (authorise action requirements) :: later) →
        signed = requirements ∧ authorise action requirements = .ok true := by
      intro signed mem
      rcases rest with rfl | ⟨approves, payments, rfl⟩
      · simp at mem
      · exact ⟨by simpa using mem, approves⟩
    refine ⟨?_, ?_, ?_, ?_⟩
    · intro other asked answer mem
      have same : other = action := by
        rcases rest with rfl | ⟨-, payments, rfl⟩
        · simp only [List.mem_cons, reduceCtorEq, Event.authorise.injEq, List.not_mem_nil,
            false_or, or_false] at mem
          exact mem.1
        · simp only [List.mem_cons, reduceCtorEq, Event.authorise.injEq, List.mem_map, false_or,
            and_false, exists_false, or_false] at mem
          exact mem.1
      exact same ▸ reads
    · rcases rest with rfl | ⟨-, payments, rfl⟩
      · exact Nat.zero_le 1
      · have quiet : (payments.map Event.attempt).filter Event.isSigning = [] := by
          rw [List.filter_eq_nil_iff]
          simp [Event.isSigning]
        rw [List.filter_cons_of_neg Bool.false_ne_true, List.filter_cons_of_neg Bool.false_ne_true,
          List.filter_cons_of_pos rfl, quiet]
        exact le_rfl
    · intro before signed after split
      obtain ⟨same, approves⟩ := signed_eq signed (by rw [split]; exact List.mem_append_cons_self)
      refine ⟨same, action, ?_⟩
      -- the request and the question come before anything is signed
      rcases before with _ | ⟨first, _ | ⟨second, before⟩⟩
      · simp at split
      · simp at split
      · rw [List.cons_append, List.cons_append, List.cons.injEq, List.cons.injEq] at split
        rw [← split.2.1, approves]
        exact List.mem_cons_of_mem _ List.mem_cons_self
    · intro signed amount mem valid
      rw [(signed_eq signed mem).1, signedAmount, read] at valid
      simp only [bind, Except.bind, thrown, guard_eq_ok_iff, Except.ok.injEq] at valid
      exact valid.2.symm

end Run

/-- Sixteen to no power is close to a million. -/
theorem div_pow_ne {a y : Nat} (pos : 0 < a) (least : 999999 * a ≤ y) (most : y ≤ 1000001 * a)
    (j : Nat) : y / 16 ^ j ≠ a := by
  rcases Nat.lt_or_ge j 5 with few | many
  · have power : 16 ^ j ≤ 16 ^ 4 := Nat.pow_le_pow_right (by norm_num) (by omega)
    have above : y / 16 ^ 4 ≤ y / 16 ^ j := Nat.div_le_div_left power (by positivity)
    omega
  · have power : 16 ^ 5 ≤ 16 ^ j := Nat.pow_le_pow_right (by norm_num) many
    have below : y / 16 ^ j ≤ y / 16 ^ 5 := Nat.div_le_div_left power (by norm_num)
    omega

theorem readsAs_paymentData_iff {context : PolicyContext} {a y : Nat} {party : Address} {rest : Text}
    (facilitator : isAddress context.facilitator = true) (zero : a = 0 → y = 0)
    (close : 0 < a → 999999 * a ≤ y ∧ y ≤ 1000001 * a) :
    ReadsAs context a party
        ⟨context.facilitator, paymentData (addressOf context.token) party y rest, 0⟩ ↔ a = 0 := by
  constructor
  · intro reads
    obtain ⟨intent, decoded, notional, -⟩ := reads []
    obtain ⟨j, found, decoded', notional', -⟩ :=
      @decode_paymentData party y (addressOf context.token) rest _ facilitator ⟨[], context.token⟩
    obtain rfl := Option.some.inj (Except.ok.inj (decoded.symm.trans decoded'))
    rw [notional] at notional'
    by_contra nonzero
    have pos : 0 < a := Nat.pos_of_ne_zero nonzero
    split_ifs at notional'
    · exact div_pow_ne pos (close pos).1 (close pos).2 j (by exact_mod_cast notional'.symm)
    · exact nonzero (by exact_mod_cast notional')
  · rintro rfl account
    obtain ⟨j, intent, decoded, notional, counterparty⟩ :=
      @decode_paymentData party y (addressOf context.token) rest _ facilitator
        ⟨account, context.token⟩
    refine ⟨intent, decoded, ?_, counterparty⟩
    rw [notional, zero rfl, Nat.zero_div, Nat.cast_zero, ite_self]

/-! ## Refused prices -/

theorem checkPrice_eq_ok_iff {options : X402ClientOptions} {requirements : PaymentRequirements} :
    checkPrice options requirements = .ok () ↔
      aboveCeiling options.maxPricePerCall requirements.amount = false := by
  rw [checkPrice, paymentRefused]
  split_ifs with above <;> simp [above]

/-- The policy is asked about the amount that is signed, and nothing else is, exactly where
the amount is 0, or the policy is never asked: above the ceiling, and where the millionfold
of the amount is no double. -/
theorem fetchPaid_signsApproved_iff {Data : Type} {options : X402ClientOptions}
    {endpoint : Endpoint Data} {authorise : Sdk.Action → PaymentRequirements → Except JsError Bool}
    {context : PolicyContext} {requirements : PaymentRequirements} {a : Nat} {party : Address}
    (challenged : Challenged options endpoint authorise context requirements)
    (read : bigInt requirements.amount = .ok (a : Int))
    (names : Names requirements.payTo party) :
    SignsApproved context requirements a party (fetchPaid options endpoint).events ↔
      a = 0 ∨ aboveCeiling options.maxPricePerCall requirements.amount = true ∨
        LARGEST_AMOUNT < a := by
  have unasked {e : JsError} (raised : checkPrice options requirements = .error e ∨
      proposedAction context requirements = .error e) :
      SignsApproved context requirements a party (fetchPaid options endpoint).events := by
    rw [challenged.events_of_error raised]
    exact signsApproved_of_attempt context requirements a party
  cases above : aboveCeiling options.maxPricePerCall requirements.amount with
  | true =>
      have refused : ∃ e, checkPrice options requirements = .error e := by
        rw [checkPrice, if_pos above]
        exact ⟨_, rfl⟩
      obtain ⟨e, refused⟩ := refused
      exact ⟨fun _ => .inr (.inl rfl), fun _ => unasked (.inl refused)⟩
  | false =>
      have price := checkPrice_eq_ok_iff.mpr above
      rcases Nat.lt_or_ge LARGEST_AMOUNT a with large | fits
      · obtain ⟨e, infinite⟩ := policyAmount_of_gt read large
        have raised := @proposedAction_error context _ _ names _ infinite
        exact ⟨fun _ => .inr (.inr large), fun _ => unasked (.inr raised)⟩
      · obtain ⟨y, asked, zero, close⟩ : ∃ y : Nat,
            policyAmount requirements.amount = .ok (y : Int) ∧ (a = 0 → y = 0) ∧
              (0 < a → 999999 * a ≤ y ∧ y ≤ 1000001 * a) := by
          rcases Nat.eq_zero_or_pos a with rfl | pos
          · exact ⟨0, policyAmount_of_zero read, fun _ => rfl, fun pos => absurd pos (by omega)⟩
          · obtain ⟨y, asked, close⟩ := policyAmount_of_le read pos fits
            exact ⟨y, asked, fun zero => absurd pos (by omega), fun _ => close⟩
        obtain ⟨rest, proposed⟩ := proposedAction_of_names names challenged.token asked
        rw [challenged.signsApproved_iff_readsAs price proposed read,
          readsAs_paymentData_iff challenged.facilitator zero close]
        simp only [Bool.false_eq_true, fits.not_gt, or_false]

/-! ## A query for tinybars -/

def sampleContext : PolicyContext where
  facilitator := addressText 0x402
  token := addressText 0xa55e7

def sampleRequirements (amount : Text) : PaymentRequirements where
  scheme := "exact".toList
  network := "hedera:testnet".toList
  asset := "0.0.0".toList
  amount := amount
  payTo := "0.0.1234".toList
  resource := "/v1/verify".toList
  nonce := "6f9619ff-8b86-d011-b42d-00cf4fc964ff".toList
  maxTimeoutSeconds := some 60
  extra := none

/-- A policy that approves of everything, and the signer, whose scheme gives the amount back. -/
def sampleOptions : X402ClientOptions where
  signPayment := hederaSigner (fun asked => .ok asked.amount) Envelope.payload
  authorise := some fun _ _ => .ok true
  policyContext := some sampleContext
  maxPricePerCall := some "1000000".toList

def sampleEndpoint (amount : Text) : Endpoint Text where
  first := .ok ⟨402, .ok (some [sampleRequirements amount]), thrown "payment required".toList,
    .ok none⟩
  second _ := .ok ⟨200, .ok none, .ok "ALLOW".toList, .ok (some "0.0.1234@1".toList)⟩

theorem challenged_sample (amount : Text) :
    Challenged sampleOptions (sampleEndpoint amount) (fun _ _ => .ok true) sampleContext
      (sampleRequirements amount) :=
  ⟨rfl, rfl, isAddress_addressText _, isAddress_addressText _, _, [], rfl, rfl, rfl⟩

theorem names_sample (amount : Text) :
    Names (sampleRequirements amount).payTo (BitVec.ofNat 160 1234) :=
  @Names.hedera "1234".toList (by decide) (by decide) (by decide)

theorem fetchPaid_signsApproved_free :
    SignsApproved sampleContext (sampleRequirements "0".toList) 0 (BitVec.ofNat 160 1234)
      (fetchPaid sampleOptions (sampleEndpoint "0".toList)).events :=
  (fetchPaid_signsApproved_iff (challenged_sample _) (by decide) (names_sample _)).mpr (.inl rfl)

/-- The policy is asked about ten thousand million, and ten thousand are signed. -/
theorem not_fetchPaid_signsApproved_tinybars :
    Challenged sampleOptions (sampleEndpoint "10000".toList) (fun _ _ => .ok true) sampleContext
        (sampleRequirements "10000".toList) ∧
      bigInt (sampleRequirements "10000".toList).amount = .ok 10000 ∧
      Names (sampleRequirements "10000".toList).payTo (BitVec.ofNat 160 1234) ∧
      ¬ SignsApproved sampleContext (sampleRequirements "10000".toList) 10000
        (BitVec.ofNat 160 1234) (fetchPaid sampleOptions (sampleEndpoint "10000".toList)).events := by
  have challenged := challenged_sample "10000".toList
  have names := names_sample "10000".toList
  have price : checkPrice sampleOptions (sampleRequirements "10000".toList) = .ok () := by
    decide +kernel
  have asked : policyAmount (sampleRequirements "10000".toList).amount =
      .ok ((10000000000 : Nat) : Int) := by
    decide +kernel
  have read : bigInt (sampleRequirements "10000".toList).amount = .ok ((10000 : Nat) : Int) := by
    decide
  obtain ⟨rest, proposed⟩ := proposedAction_of_names names challenged.token asked
  refine ⟨challenged, read, names, ?_⟩
  rw [challenged.signsApproved_iff_readsAs price proposed read,
    readsAs_paymentData_iff challenged.facilitator (by decide) (by decide)]
  decide

end X402

end AgentProof
