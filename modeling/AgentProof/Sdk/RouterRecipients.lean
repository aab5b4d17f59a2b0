import AgentProof.Sdk.UniswapV4
import AgentProof.Sdk.Policies

/-!
# Recipients of a router stream

An intent has one counterparty while a stream has many commands.  The decoder
keeps the recipient of the first command that names one, and the allowlist
checks that recipient alone.  A stream that is allowed therefore pays listed
recipients exactly when each later command that moves something names the first
recipient again or a listed one.
-/

namespace AgentProof

namespace Sdk

namespace UniswapV4

open Js

/-! ## What the commands name -/

/-- The payee of a value-moving command and the amount it moves. -/
structure Transfer where
  recipient : Address
  amount : Nat
  deriving DecidableEq, Repr

def transferAt (input : Text) (recipientIndex amountIndex : Nat) : Option Transfer := do
  let recipient ← (wordAt input recipientIndex).toOption
  let amount ← (wordAt input amountIndex).toOption
  some ⟨.ofNat 160 recipient, amount⟩

/-- V2 and V3 swaps name the recipient in word 0, transfers in word 1. -/
def transferOf (command : Nat) (input : Text) : Option Transfer :=
  match command with
  | 0x00 | 0x08 => transferAt input 0 1
  | 0x01 | 0x09 => transferAt input 0 2
  | 0x05 | 0x02 => transferAt input 1 2
  | _ => none

/-- The value-moving commands of a stream. -/
def transfers (stream : List (Option Int × Text)) : List Transfer :=
  stream.flatMap fun (byte, input) => (transferOf (maskBits byte 6) input).toList

/-! ## Recorded amounts only grow -/

/-- No recorded amount is lowered. -/
def Grows (o o' : Outflow) : Prop := ∀ key, o.amountAt key ≤ o'.amountAt key

theorem Grows.refl (o : Outflow) : Grows o o := fun _ => le_rfl

theorem Grows.trans {o o' o'' : Outflow} (first : Grows o o') (second : Grows o' o'') :
    Grows o o'' :=
  fun key => (first key).trans (second key)

section Growth

variable {o o' : Outflow} {asset : Text} {amount : Int}

theorem canonicalAsset_eq_ok {key : Text} (canonical : canonicalAsset asset = .ok key) :
    canonicalAsset key = .ok key := by
  simp only [canonicalAsset, bind_eq_ok_iff, Except.ok.injEq] at canonical
  obtain ⟨normalised, read, rfl⟩ := canonical
  rw [canonicalKey]
  split_ifs with native
  · decide +kernel
  · have address := normalizeAddress_eq_ok read
    have again : normalizeAddress normalised = .ok normalised := by
      rw [address, normalizeAddress_addressText]
    rw [canonicalAsset, again]
    exact congrArg Except.ok (if_neg native)

theorem Outflow.add_eq_ok (added : o.add asset amount = .ok o') :
    ∃ key, canonicalAsset asset = .ok key ∧ o' = o.addAt key amount := by
  simp only [Outflow.add, bind_eq_ok_iff, Except.ok.injEq] at added
  obtain ⟨key, canonical, rfl⟩ := added
  exact ⟨key, canonical, rfl⟩

theorem grows_of_add (added : o.add asset amount = .ok o') (nonneg : 0 ≤ amount) :
    Grows o o' := by
  obtain ⟨key, -, rfl⟩ := Outflow.add_eq_ok added
  intro key'
  rw [Outflow.amountAt_addAt]
  split_ifs with here
  · rw [here]
    omega
  · exact le_rfl

theorem grows_of_atLeast (raised : o.atLeast asset amount = .ok o') : Grows o o' := by
  simp only [Outflow.atLeast, bind_eq_ok_iff, Except.ok.injEq] at raised
  obtain ⟨key, -, rfl⟩ := raised
  intro key'
  have bound := o.amountAt_atLeastAt key key' amount
  rw [Outflow.atLeastAt] at bound
  rw [bound]
  split_ifs with here
  · rw [here]
    exact le_max_left _ _
  · exact le_rfl

theorem added_of_singleSwap {params : Text} {amountIndex : Nat}
    (read : (do
      let swap ← singleSwap params amountIndex
      let outflow ← o.add swap.1 swap.2
      .ok (some outflow) : Except JsError (Option Outflow)) = .ok (some o')) :
    ∃ asset, ∃ amount : Nat, o.add asset amount = .ok o' := by
  simp only [bind_eq_ok_iff, Except.ok.injEq, Option.some.injEq] at read
  obtain ⟨swap, -, outflow, added, rfl⟩ := read
  exact ⟨swap.1, swap.2, added⟩

/-- What a turn of the action loop can do to the outflow. -/
theorem readV4Action_cases {action : Option Int} {params : Text}
    (read : readV4Action o action params = .ok (some o')) :
    o' = o ∨ (∃ asset, ∃ amount : Nat, o.add asset amount = .ok o') ∨
      ∃ asset, ∃ amount : Nat, o.atLeast asset amount = .ok o' := by
  unfold readV4Action at read
  split at read
  case h_1 => exact .inr (.inl (added_of_singleSwap read))
  case h_2 => exact .inr (.inl (added_of_singleSwap read))
  -- SETTLE
  case h_5 =>
    simp only [bind_eq_ok_iff] at read
    obtain ⟨payer, -, read⟩ := read
    split_ifs at read
    · simp only [bind_eq_ok_iff, Except.ok.injEq, Option.some.injEq] at read
      obtain ⟨currency, -, amount, -, outflow, added, rfl⟩ := read
      exact .inr (.inl ⟨currency, amount, added⟩)
    · cases read
      exact .inl rfl
  -- SETTLE_ALL
  case h_6 =>
    simp only [bind_eq_ok_iff, Except.ok.injEq, Option.some.injEq] at read
    obtain ⟨currency, -, amount, -, outflow, raised, rfl⟩ := read
    exact .inr (.inr ⟨currency, amount, raised⟩)
  all_goals
    cases read
    try exact .inl rfl

theorem grows_of_readV4Action {action : Option Int} {params : Text}
    (read : readV4Action o action params = .ok (some o')) : Grows o o' := by
  rcases readV4Action_cases read with rfl | ⟨_, _, added⟩ | ⟨_, _, raised⟩
  · exact Grows.refl _
  · exact grows_of_add added (Int.natCast_nonneg _)
  · exact grows_of_atLeast raised

theorem grows_of_readV4Actions {actions : List (Option Int × Text)}
    (read : readV4Actions o actions = some o') : Grows o o' := by
  induction actions generalizing o with
  | nil =>
      cases read
      exact Grows.refl _
  | cons head rest ih =>
      obtain ⟨action, params⟩ := head
      rw [readV4Actions] at read
      split at read
      · next turn => exact (grows_of_readV4Action turn).trans (ih read)
      · cases read
      · cases read

theorem grows_of_readV4Outflow {input : Text} (read : readV4Outflow input = some o) :
    Grows .empty o := by
  simp only [readV4Outflow, Option.bind_eq_bind, Option.bind_eq_some_iff] at read
  obtain ⟨inner, -, actions⟩ := read
  exact grows_of_readV4Actions actions

theorem grows_of_merge {nested : Outflow} (merged : o.merge nested = .ok o')
    (nonneg : Grows .empty nested) : Grows o o' := by
  have entries : ∀ entry ∈ nested.byAsset.entries, 0 ≤ entry.2 := by
    rintro ⟨key, amount⟩ mem
    have bound := nonneg key
    rw [Outflow.amountAt_empty, Outflow.amountAt, (OrderedMap.get_eq_some_iff _).mpr mem] at bound
    exact bound
  unfold Outflow.merge at merged
  generalize nested.byAsset.entries = es at merged entries
  induction es generalizing o with
  | nil =>
      cases merged
      exact Grows.refl _
  | cons entry rest ih =>
      rw [List.foldlM_cons, bind_eq_ok_iff] at merged
      obtain ⟨next, added, remaining⟩ := merged
      obtain ⟨here, later⟩ := List.forall_mem_cons.mp entries
      exact (grows_of_add added here).trans (ih remaining later)

end Growth

/-! ## One command -/

/-- What a turn of the command loop does for a command's transfer. -/
structure Turn (g : Gathered) (transfer : Option Transfer) (g' : Gathered) : Prop where
  grows : Grows g.outflow g'.outflow
  named : g'.recipient = g.recipient.or (transfer.map fun t => addressText t.recipient)
  counted : ∀ t, transfer = some t → t.amount ≠ 0 →
    ∃ key, canonicalAsset key = .ok key ∧ 0 < g'.outflow.amountAt key

section Turns

variable {g g' : Gathered} {input : Text}

/-- A turn that names nobody. -/
theorem Turn.plain {o : Outflow} (grows : Grows g.outflow o) :
    Turn g none { g with outflow := o } :=
  ⟨grows, by rw [Option.map_none, Option.or_none], nofun⟩

/-- A turn that adds an amount for a recipient. -/
theorem Turn.moving {o : Outflow} {recipient : Option Text} {currency : Text} {amount : Nat}
    {recipientIndex amountIndex : Nat} (nonneg : Grows .empty g.outflow)
    (named : g.named (wordAsAddress input recipientIndex) = .ok recipient)
    (read : wordAt input amountIndex = .ok amount)
    (added : g.outflow.add currency amount = .ok o) :
    Turn g (transferAt input recipientIndex amountIndex) ⟨o, recipient⟩ := by
  refine ⟨grows_of_add added (Int.natCast_nonneg _), ?_, ?_⟩
  · unfold Gathered.named at named
    cases known : g.recipient with
    | some first =>
        rw [known] at named
        cases named
        rfl
    | none =>
        rw [known] at named
        simp only [wordAsAddress, bind_eq_ok_iff, Except.ok.injEq] at named
        obtain ⟨address, ⟨value, word, normalised⟩, rfl⟩ := named
        have fits : value < 2 ^ 160 := by
          by_contra large
          obtain ⟨e, refused⟩ := normalizeAddress_addressDigits_of_ge (not_lt.mp large)
          rw [refused] at normalised
          cases normalised
        rw [normalizeAddress_addressDigits fits] at normalised
        cases normalised
        rw [transferAt, word, read]
        rfl
  · intro t transfer moves
    simp only [transferAt, read, Option.bind_eq_bind, Option.bind_eq_some_iff] at transfer
    obtain ⟨_, -, _, same, transfer⟩ := transfer
    cases same
    cases transfer
    obtain ⟨key, canonical, rfl⟩ := Outflow.add_eq_ok added
    refine ⟨key, canonicalAsset_eq_ok canonical, ?_⟩
    have before := nonneg key
    rw [Outflow.amountAt_empty] at before
    rw [Outflow.amountAt_addAt, if_pos rfl]
    have positive : 0 < amount := Nat.pos_of_ne_zero moves
    omega

theorem Gathered.swap_eq_ok {recipient currency : Option Text} {amount : Except JsError Nat}
    (swapped : g.swap recipient currency amount = .ok (.ok g')) :
    ∃ currency value o, amount = .ok value ∧ g.outflow.add currency value = .ok o ∧
      g' = ⟨o, recipient⟩ := by
  cases currency with
  | none => cases swapped
  | some currency =>
      simp only [Gathered.swap, bind_eq_ok_iff, Except.ok.injEq] at swapped
      obtain ⟨value, read, o, added, rfl⟩ := swapped
      exact ⟨currency, value, o, read, added, rfl⟩

theorem turn_of_readCommand {command : Nat} (nonneg : Grows .empty g.outflow)
    (read : readCommand g command input = .ok (.ok g')) : Turn g (transferOf command input) g' := by
  unfold readCommand at read
  split at read
  -- the V2 and V3 swaps
  case h_1 | h_2 | h_3 | h_4 =>
    simp only [bind_eq_ok_iff] at read
    obtain ⟨recipient, named, path, -, swapped⟩ := read
    obtain ⟨currency, value, o, amount, added, rfl⟩ := Gathered.swap_eq_ok swapped
    exact Turn.moving nonneg named amount added
  -- V4_SWAP
  case h_5 =>
    split at read
    · cases read
    · next nested inner =>
        simp only [bind_eq_ok_iff, Except.ok.injEq] at read
        obtain ⟨o, merged, rfl⟩ := read
        exact Turn.plain (grows_of_merge merged (grows_of_readV4Outflow inner))
  -- TRANSFER, PERMIT2_TRANSFER_FROM
  case h_6 | h_7 =>
    simp only [bind_eq_ok_iff, Except.ok.injEq] at read
    obtain ⟨recipient, named, currency, -, value, amount, o, added, rfl⟩ := read
    exact Turn.moving nonneg named amount added
  -- PERMIT2_PERMIT
  case h_8 =>
    simp only [bind_eq_ok_iff, Except.ok.injEq] at read
    obtain ⟨_, ⟨allowance, -, cast⟩, currency, -, o, added, rfl⟩ := read
    cases cast
    refine Turn.plain (grows_of_add added ?_)
    split_ifs
    · exact by decide
    · exact Int.natCast_nonneg _
  -- WRAP_ETH
  case h_9 =>
    simp only [bind_eq_ok_iff, Except.ok.injEq] at read
    obtain ⟨value, -, o, added, rfl⟩ := read
    exact Turn.plain (grows_of_add added (Int.natCast_nonneg _))
  -- UNWRAP_WETH, PAY_PORTION, SWEEP
  case h_10 | h_11 | h_12 =>
    cases read
    exact Turn.plain (Grows.refl _)
  case h_13 => cases read

/-- What a whole run of the loop does for the transfers of the stream. -/
structure Sweep (g : Gathered) (ts : List Transfer) (g' : Gathered) : Prop where
  grows : Grows g.outflow g'.outflow
  named : g'.recipient = g.recipient.or (ts.head?.map fun t => addressText t.recipient)
  counted : ∀ t ∈ ts, t.amount ≠ 0 →
    ∃ key, canonicalAsset key = .ok key ∧ 0 < g'.outflow.amountAt key

theorem Turn.sweep {transfer : Option Transfer} {g'' : Gathered} {ts : List Transfer}
    (turn : Turn g transfer g') (rest : Sweep g' ts g'') : Sweep g (transfer.toList ++ ts) g'' := by
  refine ⟨turn.grows.trans rest.grows, ?_, fun t mem moves => ?_⟩
  · rw [rest.named, turn.named]
    cases transfer with
    | none => simp
    | some t => cases g.recipient <;> simp
  · rcases List.mem_append.mp mem with here | later
    · obtain ⟨key, canonical, counted⟩ := turn.counted t (Option.mem_toList.mp here) moves
      exact ⟨key, canonical, counted.trans_le (rest.grows key)⟩
    · exact rest.counted t later moves

theorem sweep_of_readCommands {stream : List (Option Int × Text)}
    (nonneg : Grows .empty g.outflow) (read : readCommands g stream = .ok g') :
    Sweep g (transfers stream) g' := by
  induction stream generalizing g with
  | nil =>
      cases read
      exact ⟨Grows.refl _, (Option.or_none).symm, nofun⟩
  | cons head rest ih =>
      obtain ⟨byte, input⟩ := head
      rw [readCommands] at read
      split at read
      · next next turned =>
          have turn := turn_of_readCommand nonneg turned
          rw [transfers, List.flatMap_cons]
          exact turn.sweep (ih (nonneg.trans turn.grows) read)
      · cases read
      · cases read

end Turns

/-! ## The allowlist on a decoded stream -/

section Allowed

variable {action : Action} {ctx : DecoderContext} {intent : NormalizedIntent}

/-- The stream of a router call. -/
def streamOf (action : Action) : Except JsError CommandStream :=
  readCommandStream action.data (selectorOf action.data = SELECTOR_EXECUTE)

/-- The transfers of a router call. -/
def transfersOf (action : Action) : List Transfer :=
  match streamOf action with
  | .error _ => []
  | .ok stream => transfers (stream.commands.zip stream.inputs)

/-- A call decoded to a swap had its whole stream read. -/
theorem decode_eq_swap (decoded : decode action ctx = .ok (some intent))
    (swap : intent.kind = .swap) :
    ∃ router g, Sweep ⟨.empty, none⟩ (transfersOf action) g ∧
      swapIntent action ctx router (selectorOf action.data) g = .ok intent := by
  simp only [decode, bind_eq_ok_iff] at decoded
  obtain ⟨router, -, decoded⟩ := decoded
  split at decoded
  · cases decoded
    cases swap
  · next stream read =>
      split at decoded
      · cases decoded
        cases swap
      · next g gathered =>
          simp only [bind_eq_ok_iff, Except.ok.injEq, Option.some.injEq] at decoded
          obtain ⟨_, built, rfl⟩ := decoded
          refine ⟨router, g, ?_, built⟩
          rw [transfersOf, streamOf, read]
          exact sweep_of_readCommands (Grows.refl _) gathered

/-- A positive recorded amount shows in the intent. -/
theorem movesValue_of_swapIntent {router selector key : Text} {g : Gathered}
    (built : swapIntent action ctx router selector g = .ok intent)
    (canonical : canonicalAsset key = .ok key) (positive : 0 < g.outflow.amountAt key) :
    movesValue intent = true := by
  simp only [swapIntent, bind_eq_ok_iff, Except.ok.injEq] at built
  obtain ⟨tracked, gets, native, -, rfl⟩ := built
  rw [movesValue, List.any_cons, Bool.or_eq_true, decide_eq_true_eq]
  by_cases here : key = ctx.trackedAsset
  · refine .inl ?_
    rw [Outflow.get, ← here, canonical] at gets
    cases gets
    exact positive
  · refine .inr ?_
    rw [List.any_eq_true]
    have entry : (key, g.outflow.amountAt key) ∈ g.outflow.byAsset.entries := by
      rw [← OrderedMap.get_eq_some_iff]
      unfold Outflow.amountAt at positive ⊢
      cases found : g.outflow.byAsset.get key with
      | none =>
          rw [found] at positive
          exact absurd positive (lt_irrefl 0)
      | some amount => rfl
    refine ⟨_, List.mem_map.mpr ⟨_, List.mem_filter.mpr
      ⟨List.mem_filter.mpr ⟨entry, ?_⟩, ?_⟩, rfl⟩, ?_⟩
    all_goals simpa using by assumption

variable {contracts recipients : List Text} {state : PolicyState}

/-- A recipient the policy knows. -/
def Listed (contracts recipients : List Text) (recipient : Address) : Prop :=
  addressText recipient ∈ recipients ∨ addressText recipient ∈ contracts

/-- Every transfer of a positive amount goes to a listed recipient. -/
def PaysListed (contracts recipients : List Text) (ts : List Transfer) : Prop :=
  ∀ t ∈ ts, t.amount ≠ 0 → Listed contracts recipients t.recipient

/-- No later transfer of a positive amount leaves the first recipient for one
that is not listed. -/
def StaysWithFirst (contracts recipients : List Text) : List Transfer → Prop
  | [] => True
  | first :: later => ∀ t ∈ later, t.amount ≠ 0 → t.recipient ≠ first.recipient →
      Listed contracts recipients t.recipient

/-- In an allowed stream the recipient of the first transfer is listed, if any
transfer moves something. -/
theorem listed_first {first : Transfer} {later : List Transfer}
    (decoded : decode action ctx = .ok (some intent)) (swap : intent.kind = .swap)
    (allowed : ((AllowlistPolicy contracts recipients false).evaluate intent state).decision =
      .allow)
    (stream : transfersOf action = first :: later)
    (moves : ∃ t ∈ first :: later, t.amount ≠ 0) :
    Listed contracts recipients first.recipient := by
  obtain ⟨router, g, sweep, built⟩ := decode_eq_swap decoded swap
  rw [stream] at sweep
  obtain ⟨t, mem, positive⟩ := moves
  obtain ⟨key, canonical, counted⟩ := sweep.counted t mem positive
  have value := movesValue_of_swapIntent built canonical counted
  obtain ⟨-, -, known⟩ := allowlist_eq_allow_iff.mp allowed
  have counterparty : intent.counterparty = some (addressText first.recipient) := by
    simp only [swapIntent, bind_eq_ok_iff, Except.ok.injEq] at built
    obtain ⟨_, -, _, -, rfl⟩ := built
    rw [sweep.named]
    rfl
  exact known _ counterparty value

/-- An allowed stream pays listed recipients only, exactly when no later command
that moves something names another recipient that is not listed. -/
theorem paysListed_iff_staysWithFirst (decoded : decode action ctx = .ok (some intent))
    (swap : intent.kind = .swap)
    (allowed : ((AllowlistPolicy contracts recipients false).evaluate intent state).decision =
      .allow) :
    PaysListed contracts recipients (transfersOf action) ↔
      StaysWithFirst contracts recipients (transfersOf action) := by
  have listed (first : Transfer) (later : List Transfer) :=
    @listed_first action ctx intent contracts recipients state first later decoded swap allowed
  cases stream : transfersOf action with
  | nil => exact iff_of_true nofun trivial
  | cons head later =>
      constructor
      · intro pays t mem moves _
        exact pays t (List.mem_cons_of_mem _ mem) moves
      · intro stays t mem moves
        by_cases same : t.recipient = head.recipient
        · rw [same]
          exact listed head later stream ⟨t, mem, moves⟩
        · rcases List.mem_cons.mp mem with rfl | inLater
          · exact absurd rfl same
          · exact stays t inLater moves same

end Allowed

/-! ### Two transfers in one stream -/

def sampleContext : DecoderContext where
  account := addressText 0x01
  trackedAsset := addressText 0x11

/-- A transfer of 1 to `0x22` and one of 1000 to a second recipient, through the
router `0x77`. -/
def sampleTransfers (second : Nat) : Action where
  toAddress := addressText 0x77
  data := SELECTOR_EXECUTE_NO_DEADLINE ++ streamText [0x05, 0x05]
    [[0x11, 0x22, 1].flatMap wordText, [0x11, second, 1000].flatMap wordText]
  value := 0

def sampleIntent (second : Nat) : NormalizedIntent where
  kind := .swap
  target := addressText 0x77
  selector := SELECTOR_EXECUTE_NO_DEADLINE
  nativeValue := 0
  outflow := [⟨addressText 0x11, 1001, .decoded⟩]
  counterparty := some (addressText 0x22)
  notionalUSDC := 1001
  summary := summarise 1001 []
  raw := sampleTransfers second

def sampleState : PolicyState where
  account := addressText 0x01
  dayUtc := 0
  dailySpend := 0
  balance := 0
  asset := addressText 0x11

theorem paysListed_sampleTransfers :
    PaysListed [addressText 0x77] [addressText 0x22] (transfersOf (sampleTransfers 0x22)) := by
  have decoded : decode (sampleTransfers 0x22) sampleContext = .ok (some (sampleIntent 0x22)) := by
    decide +kernel
  have allowed : ((AllowlistPolicy [addressText 0x77] [addressText 0x22] false).evaluate
      (sampleIntent 0x22) sampleState).decision = .allow := by decide +kernel
  have stream : transfersOf (sampleTransfers 0x22) = [⟨0x22, 1⟩, ⟨0x22, 1000⟩] := by
    decide +kernel
  refine (paysListed_iff_staysWithFirst decoded rfl allowed).mpr ?_
  rw [stream]
  intro t mem _ other
  rw [List.mem_singleton.mp mem] at other
  exact absurd rfl other

/-- The second transfer pays a recipient no list holds. -/
theorem not_paysListed_sampleTransfers :
    decode (sampleTransfers 0xbad) sampleContext = .ok (some (sampleIntent 0xbad)) ∧
      (sampleIntent 0xbad).kind = .swap ∧
      ((AllowlistPolicy [addressText 0x77] [addressText 0x22] false).evaluate
        (sampleIntent 0xbad) sampleState).decision = .allow ∧
      ¬ PaysListed [addressText 0x77] [addressText 0x22] (transfersOf (sampleTransfers 0xbad)) := by
  refine ⟨by decide +kernel, rfl, by decide +kernel, fun pays => ?_⟩
  have stream : transfersOf (sampleTransfers 0xbad) = [⟨0x22, 1⟩, ⟨0xbad, 1000⟩] := by
    decide +kernel
  rw [stream] at pays
  have listed := pays ⟨0xbad, 1000⟩ (by simp) (by decide)
  simp only [Listed, List.mem_singleton, addressText_injective.eq_iff] at listed
  revert listed
  decide

end UniswapV4

end Sdk

end AgentProof
