import AgentProof.Sdk.Encode
import AgentProof.Sdk.StreamMeaning

/-!
# Compositional meaning of a stream

The intent of a router call built from a list of command bytes and inputs.  An
undecodable pair makes every stream it stands in unbounded, and otherwise the
outflow of a stream is the sum over its pairs, whatever their order, exactly
when the pairs' recipient words are alike: all addresses or none of them.  Only
the first of them is ever read.
-/

namespace AgentProof

namespace Sdk

namespace UniswapV4

open Js Calldata KeyedSum

/-! ## Built calls -/

/-- The router call of a list of command bytes and inputs. -/
def encodePairs (pairs : List (Byte × Text)) : Except JsError Text :=
  encodeUniversalRouterExecute ((pairs.map Prod.fst).map BitVec.toNat) (pairs.map Prod.snd)

/-- The intent of that call. -/
def intentOf (action : Action) (ctx : DecoderContext) (pairs : List (Byte × Text)) :
    Except JsError (Option NormalizedIntent) := do
  let data ← encodePairs pairs
  decode { action with data := data } ctx

/-- The outflow an intent shows in a currency. -/
def outflowOf (intent : NormalizedIntent) (asset : Text) : Int :=
  total (intent.outflow.map fun flow => (flow.asset, flow.amount)) asset

/-- The stream the parser returns. -/
def streamOfPairs (pairs : List (Byte × Text)) : List (Option Int × Text) :=
  pairs.map fun (byte, input) => (some (byte.toNat : Int), input)

section Built

variable {action : Action} {ctx : DecoderContext} {pairs order : List (Byte × Text)} {data : Text}

/-- The calls that can be built. -/
def Encodable (pairs : List (Byte × Text)) : Prop :=
  (∀ input ∈ pairs.map Prod.snd, input.length % 2 = 0) ∧
    10 + argumentsSize (hexText (pairs.map Prod.fst)) (pairs.map Prod.snd) ≤ MAX_LENGTH

instance (pairs : List (Byte × Text)) : Decidable (Encodable pairs) :=
  inferInstanceAs (Decidable (_ ∧ _))

theorem encodable_iff : Encodable pairs ↔ ∃ data, encodePairs pairs = .ok data := by
  have same : (pairs.map Prod.fst).length = (pairs.map Prod.snd).length := by
    rw [List.length_map, List.length_map]
  simp only [encodePairs, encodeUniversalRouterExecute_eq_ok_iff, Encodable, same, true_and,
    argumentsText_short_iff, exists_and_left, exists_eq', and_true]

theorem argumentsSize_perm (same : order.Perm pairs) :
    argumentsSize (hexText (order.map Prod.fst)) (order.map Prod.snd) =
      argumentsSize (hexText (pairs.map Prod.fst)) (pairs.map Prod.snd) := by
  have elements := ((same.map Prod.snd).map fun input => 64 + frameLength input).sum_eq
  rw [argumentsSize, argumentsSize, elements, frameLength, frameLength, length_hexText,
    length_hexText, List.length_map, List.length_map, same.length_eq]

theorem Encodable.perm (encodable : Encodable pairs) (same : order.Perm pairs) :
    Encodable order := by
  refine ⟨fun input mem => encodable.1 input ((same.map Prod.snd).subset mem), ?_⟩
  rw [argumentsSize_perm same]
  exact encodable.2

theorem Encodable.single {pair : Byte × Text} (encodable : Encodable pairs) (mem : pair ∈ pairs) :
    Encodable [pair] := by
  obtain ⟨evens, short⟩ := encodable
  obtain ⟨front, rest, rfl⟩ := List.append_of_mem mem
  refine ⟨fun input here => evens input ?_, le_trans ?_ short⟩
  · rw [List.map_singleton, List.mem_singleton] at here
    exact List.mem_map.mpr ⟨pair, mem, here.symm⟩
  · simp only [argumentsSize, frameLength, length_hexText, List.map_append, List.map_cons,
      List.map_nil, List.length_append, List.length_cons, List.length_nil, List.length_map,
      List.sum_append, List.sum_cons, List.sum_nil]
    omega

theorem zip_streamOfPairs : (commandsOf (pairs.map Prod.fst)).zip (pairs.map Prod.snd) =
    streamOfPairs pairs := by
  rw [commandsOf, List.map_map, List.zip_map', streamOfPairs]
  rfl

/-- A built call is decoded by the command loop over its pairs. -/
theorem intentOf_eq {router : Text} (built : encodePairs pairs = .ok data)
    (address : normalizeAddress action.toAddress = .ok router) :
    intentOf action ctx pairs =
      match readCommands ⟨.empty, none⟩ (streamOfPairs pairs) with
      | .error why => .ok (some (unboundedSwap { action with data := data } router
          (selectorOf data) ctx.trackedAsset why))
      | .ok g => (do
          let intent ← swapIntent { action with data := data } ctx router (selectorOf data) g
          .ok (some intent)) := by
  have read := readCommandStream_encodeUniversalRouterExecute
    (decide (selectorOf data = SELECTOR_EXECUTE)) built
  cases gathered : readCommands ⟨.empty, none⟩ (streamOfPairs pairs) with
  | error why =>
      simp only [intentOf, built, decode, address, read, zip_streamOfPairs, gathered, bind,
        Except.bind]
  | ok g =>
      simp only [intentOf, built, decode, address, read, zip_streamOfPairs, gathered, bind,
        Except.bind]

/-- The key whose amount is shown under a currency. -/
def shownKey (ctx : DecoderContext) (asset : Text) : Text :=
  if asset = ctx.trackedAsset then assetKey (addressOf ctx.trackedAsset) else asset

theorem canonicalAsset_of_isAddress {asset : Text} (address : isAddress asset = true) :
    canonicalAsset asset = .ok (assetKey (addressOf asset)) := by
  rw [canonicalAsset, normalizeAddress_of_isAddress address]
  rfl

theorem get_of_isAddress {asset : Text} (o : Outflow) (address : isAddress asset = true) :
    o.get asset = .ok (o.amountAt (assetKey (addressOf asset))) := by
  rw [Outflow.get, canonicalAsset_of_isAddress address]
  rfl

/-- The amounts an outflow lists. -/
theorem total_entries_of_nonneg {o : Outflow} (nonneg : Grows .empty o) (key : Text) :
    total o.entries key = o.amountAt key := by
  have listed : total o.byAsset.entries key = o.amountAt key := total_entries o.byAsset key
  rw [← listed, Outflow.entries]
  refine total_filter_of_zero ?_
  rintro ⟨k, amount⟩ mem rfl dropped
  have bound := nonneg k
  rw [Outflow.amountAt_empty, Outflow.amountAt, (OrderedMap.get_eq_some_iff _).mpr mem] at bound
  have small : ¬ amount > 0 := of_decide_eq_false dropped
  exact le_antisymm (not_lt.mp small) bound

theorem get_native (o : Outflow) : o.get NATIVE_ASSET = .ok (o.amountAt NATIVE_ASSET) := by
  have canonical : canonicalAsset NATIVE_ASSET = .ok NATIVE_ASSET := by decide +kernel
  rw [Outflow.get, canonical]
  rfl

/-- The amounts of an intent's outflow: the tracked asset's, and the others'. -/
theorem total_outflow (o : Outflow) (nonneg : Grows .empty o) (asset : Text) :
    total ((ctx.trackedAsset, o.amountAt (assetKey (addressOf ctx.trackedAsset))) ::
      o.entries.filter fun entry => entry.1 ≠ ctx.trackedAsset) asset =
        o.amountAt (shownKey ctx asset) := by
  rw [total_cons, shownKey]
  by_cases here : asset = ctx.trackedAsset
  · have absent : asset ∉ (o.entries.filter fun entry => entry.1 ≠ ctx.trackedAsset).map
        Prod.fst := by
      intro mem
      obtain ⟨entry, kept, rfl⟩ := List.mem_map.mp mem
      exact of_decide_eq_true (List.mem_filter.mp kept).2 here
    rw [if_pos here.symm, if_pos here, total_of_not_mem absent, add_zero]
  · rw [if_neg (Ne.symm here), if_neg here, zero_add, ← total_entries_of_nonneg nonneg]
    refine total_filter_of_zero fun entry _ same dropped => ?_
    have other : ¬ entry.1 ≠ ctx.trackedAsset := of_decide_eq_false dropped
    exact absurd (same.symm.trans (not_not.mp other)) here

/-- What a swap intent shows of the outflow gathered. -/
theorem swapIntent_spec {router selector : Text} (g : Gathered)
    (tracked : isAddress ctx.trackedAsset = true) (nonneg : Grows .empty g.outflow) :
    ∃ intent, swapIntent action ctx router selector g = .ok intent ∧ intent.kind = .swap ∧
      intent.notionalUSDC = g.outflow.amountAt (assetKey (addressOf ctx.trackedAsset)) ∧
      ∀ asset, outflowOf intent asset = g.outflow.amountAt (shownKey ctx asset) := by
  rw [swapIntent, get_of_isAddress _ tracked, get_native]
  refine ⟨_, rfl, rfl, rfl, fun asset => ?_⟩
  rw [← total_outflow g.outflow nonneg, outflowOf, List.map_cons, List.map_map]
  exact congrArg (fun others => total (_ :: others) asset) (List.map_id _)

/-! ## What the pairs pay -/

/-- The command type of a command byte. -/
def commandOf (byte : Byte) : Nat := maskBits (some (byte.toNat : Int)) 6

/-- What a pair pays, its recipient apart. -/
def paidBy (pair : Byte × Text) : Option Payments := payments (commandOf pair.1) pair.2

/-- The recipients the pairs name, in order. -/
def recipientsNamed (pairs : List (Byte × Text)) : List (Except JsError Text) :=
  pairs.flatMap fun pair => (recipientOf (commandOf pair.1) pair.2).toList

/-- The amount of a currency that a pair pays. -/
def amountPaid (key : Text) (pair : Byte × Text) : Int := total ((paidBy pair).getD []) key

theorem recipientsOf_streamOfPairs : recipientsOf (streamOfPairs pairs) = recipientsNamed pairs := by
  rw [recipientsOf, streamOfPairs, List.flatMap_map]
  rfl

theorem paymentsOf_streamOfPairs (readable : ∀ pair ∈ pairs, paidBy pair ≠ none) :
    ∃ pay, paymentsOf (streamOfPairs pairs) = some pay ∧
      ∀ key, total pay key = (pairs.map (amountPaid key)).sum := by
  induction pairs with
  | nil => exact ⟨[], rfl, fun _ => rfl⟩
  | cons pair rest ih =>
      obtain ⟨here, later⟩ := List.forall_mem_cons.mp readable
      obtain ⟨first, reads⟩ := Option.ne_none_iff_exists'.mp here
      obtain ⟨pay, pays, sums⟩ := ih later
      have head : payments (maskBits (some (pair.1.toNat : Int)) 6) pair.2 = some first := reads
      refine ⟨first ++ pay, ?_, fun key => ?_⟩
      · rw [streamOfPairs, List.map_cons, ← streamOfPairs, paymentsOf, head, pays]
        rfl
      · rw [total_append, sums, List.map_cons, List.sum_cons, amountPaid, reads]
        rfl

theorem paymentsOf_eq_none (unreadable : ∃ pair ∈ pairs, paidBy pair = none) :
    paymentsOf (streamOfPairs pairs) = none := by
  induction pairs with
  | nil => simp at unreadable
  | cons pair rest ih =>
      rw [streamOfPairs, List.map_cons, ← streamOfPairs, paymentsOf]
      obtain ⟨pair', mem, missing⟩ := unreadable
      rcases List.mem_cons.mp mem with rfl | later
      · have head : payments (maskBits (some (pair'.1.toNat : Int)) 6) pair'.2 = none := missing
        rw [head]
        rfl
      · rw [ih ⟨pair', later, missing⟩]
        cases payments (maskBits (some (pair.1.toNat : Int)) 6) pair.2 <;> rfl

/-- The loop reads the stream of these pairs. -/
def Reads (pairs : List (Byte × Text)) : Prop :=
  (∀ pair ∈ pairs, paidBy pair ≠ none) ∧
    ∀ named, (recipientsNamed pairs).head? = some named → ∃ recipient, named = .ok recipient

theorem opened_none {recipients : List (Except JsError Text)} :
    (∃ final, opened none recipients = some final) ↔
      ∀ named, recipients.head? = some named → ∃ recipient, named = .ok recipient := by
  cases recipients with
  | nil => simp [opened]
  | cons named rest =>
      cases named with
      | error e => simp [opened, Except.toOption]
      | ok recipient => simp [opened, Except.toOption]

theorem readCommands_of_reads (reads : Reads pairs) :
    ∃ g, readCommands ⟨.empty, none⟩ (streamOfPairs pairs) = .ok g ∧ Grows .empty g.outflow ∧
      ∀ key, g.outflow.amountAt key = (pairs.map (amountPaid key)).sum := by
  obtain ⟨pay, pays, sums⟩ := paymentsOf_streamOfPairs reads.1
  obtain ⟨final, opens⟩ := opened_none.mpr reads.2
  rw [← recipientsOf_streamOfPairs] at opens
  have read := (@readCommands_eq_ok_iff ⟨.empty, none⟩ _ _).mpr ⟨final, pay, opens, pays, rfl⟩
  refine ⟨_, read, (sweep_of_readCommands (Grows.refl _) read).grows, fun key => ?_⟩
  rw [Outflow.amountAt_addAll, Outflow.amountAt_empty, sums, Int.zero_add]

theorem readCommands_of_not_reads (unread : ¬ Reads pairs) :
    ∃ why, readCommands ⟨.empty, none⟩ (streamOfPairs pairs) = .error why := by
  cases read : readCommands ⟨.empty, none⟩ (streamOfPairs pairs) with
  | error why => exact ⟨why, rfl⟩
  | ok g =>
      refine absurd ?_ unread
      obtain ⟨final, pay, opens, pays, -⟩ := readCommands_eq_ok_iff.mp read
      constructor
      · intro pair mem unreadable
        rw [paymentsOf_eq_none ⟨pair, mem, unreadable⟩] at pays
        cases pays
      · rw [recipientsOf_streamOfPairs] at opens
        exact opened_none.mp ⟨final, opens⟩

/-! ## The intent of a built call -/

theorem intentOf_of_reads (router : isAddress action.toAddress = true)
    (tracked : isAddress ctx.trackedAsset = true) (encodable : Encodable pairs)
    (reads : Reads pairs) :
    ∃ intent, intentOf action ctx pairs = .ok (some intent) ∧ intent.kind = .swap ∧
      intent.notionalUSDC =
        (pairs.map (amountPaid (assetKey (addressOf ctx.trackedAsset)))).sum ∧
      ∀ asset, outflowOf intent asset = (pairs.map (amountPaid (shownKey ctx asset))).sum := by
  obtain ⟨data, built⟩ := encodable_iff.mp encodable
  obtain ⟨g, read, nonneg, sums⟩ := readCommands_of_reads reads
  obtain ⟨intent, swap, kind, notional, shows⟩ := @swapIntent_spec { action with data := data } ctx
    (addressText (addressOf action.toAddress)) (selectorOf data) g tracked nonneg
  refine ⟨intent, ?_, kind, by rw [notional, sums], fun asset => by rw [shows, sums]⟩
  rw [intentOf_eq built (normalizeAddress_of_isAddress router), read]
  simp only [swap, bind, Except.bind]

theorem intentOf_of_not_reads (router : isAddress action.toAddress = true)
    (encodable : Encodable pairs) (unread : ¬ Reads pairs) :
    ∃ intent, intentOf action ctx pairs = .ok (some intent) ∧ intent.kind = .unknown ∧
      intent.notionalUSDC = UNBOUNDED ∧
      intent.outflow = [⟨ctx.trackedAsset, UNBOUNDED, .declared⟩] := by
  obtain ⟨data, built⟩ := encodable_iff.mp encodable
  obtain ⟨why, read⟩ := readCommands_of_not_reads unread
  rw [intentOf_eq built (normalizeAddress_of_isAddress router), read]
  exact ⟨_, rfl, rfl, rfl, rfl⟩

theorem intentOf_kind_iff (router : isAddress action.toAddress = true)
    (tracked : isAddress ctx.trackedAsset = true) (encodable : Encodable pairs) :
    (∃ intent, intentOf action ctx pairs = .ok (some intent) ∧ intent.kind = .unknown) ↔
      ¬ Reads pairs := by
  constructor
  · rintro ⟨intent, decoded, unknown⟩ reads
    obtain ⟨swap, decodes, kind, -⟩ := intentOf_of_reads router tracked encodable reads
    rw [decodes] at decoded
    cases decoded
    rw [kind] at unknown
    cases unknown
  · intro unread
    obtain ⟨intent, decoded, unknown, -⟩ := @intentOf_of_not_reads action ctx _ router encodable unread
    exact ⟨intent, decoded, unknown⟩

theorem Reads.single (reads : Reads pairs)
    (alike : ∀ named ∈ recipientsNamed pairs, ∃ recipient, named = .ok recipient)
    {pair : Byte × Text} (mem : pair ∈ pairs) : Reads [pair] := by
  refine ⟨fun pair' here => reads.1 pair' ?_, fun named first => alike named ?_⟩
  · rw [List.mem_singleton.mp here]
    exact mem
  · rw [recipientsNamed, List.flatMap_singleton] at first
    exact List.mem_flatMap.mpr ⟨pair, mem, List.mem_of_mem_head? first⟩

end Built

/-! ## Compositionality -/

section Compositionality

variable (action : Action) (ctx : DecoderContext)

/-- Alone in a stream the pair leaves it unknown. -/
def Undecodable (pair : Byte × Text) : Prop :=
  ∃ intent, intentOf action ctx [pair] = .ok (some intent) ∧ intent.kind = .unknown

/-- The outflow of the stream of one pair. -/
def outflowAlone (asset : Text) (pair : Byte × Text) : Int :=
  match intentOf action ctx [pair] with
  | .ok (some intent) => outflowOf intent asset
  | _ => 0

/-- The meaning of a stream is made of the meanings of its pairs. -/
structure Compositional (pairs : List (Byte × Text)) : Prop where
  /-- An undecodable pair makes the stream unbounded, wherever it stands. -/
  unbounded : (∃ pair ∈ pairs, Undecodable action ctx pair) → ∀ order, order.Perm pairs →
    ∃ intent, intentOf action ctx order = .ok (some intent) ∧ intent.kind = .unknown ∧
      intent.notionalUSDC = UNBOUNDED
  /-- Otherwise every outflow is the sum over the pairs. -/
  additive : (∀ pair ∈ pairs, ¬ Undecodable action ctx pair) →
    ∃ intent, intentOf action ctx pairs = .ok (some intent) ∧ intent.kind = .swap ∧
      ∀ asset, outflowOf intent asset = (pairs.map (outflowAlone action ctx asset)).sum
  /-- The order does not matter. -/
  invariant : ∀ order, order.Perm pairs → ∀ intent intent',
    intentOf action ctx pairs = .ok (some intent) →
    intentOf action ctx order = .ok (some intent') →
      ∀ asset, outflowOf intent' asset = outflowOf intent asset

/-- The recipient words of the pairs are all addresses, or none is. -/
def RecipientsAlike (pairs : List (Byte × Text)) : Prop :=
  (∀ named ∈ recipientsNamed pairs, ∃ recipient, named = .ok recipient) ∨
    ∀ named ∈ recipientsNamed pairs, ∃ e, named = .error e

variable {action ctx} {pairs order : List (Byte × Text)}

theorem outflowAlone_of_reads {pair : Byte × Text} (router : isAddress action.toAddress = true)
    (tracked : isAddress ctx.trackedAsset = true) (encodable : Encodable [pair])
    (reads : Reads [pair]) (asset : Text) :
    outflowAlone action ctx asset pair = amountPaid (shownKey ctx asset) pair := by
  obtain ⟨intent, decoded, -, -, shows⟩ := intentOf_of_reads router tracked encodable reads
  simp only [outflowAlone, decoded, shows, List.map_singleton, List.sum_singleton]

/-- The stream reads, and every pair on its own. -/
theorem compositional_of_addresses (router : isAddress action.toAddress = true)
    (tracked : isAddress ctx.trackedAsset = true) (encodable : Encodable pairs)
    (readable : ∀ pair ∈ pairs, paidBy pair ≠ none)
    (alike : ∀ named ∈ recipientsNamed pairs, ∃ recipient, named = .ok recipient) :
    Compositional action ctx pairs := by
  have all : ∀ order, order.Perm pairs → Reads order := by
    intro order same
    refine ⟨fun pair mem => readable pair (same.subset mem), fun named first => alike named ?_⟩
    exact (same.flatMap_right _).subset (List.mem_of_mem_head? first)
  have reads := all pairs (List.Perm.refl pairs)
  have alone : ∀ pair ∈ pairs, ¬ Undecodable action ctx pair := fun pair mem undecodable =>
    (intentOf_kind_iff router tracked (encodable.single mem)).mp undecodable
      (reads.single alike mem)
  refine ⟨?_, ?_, ?_⟩
  · rintro ⟨pair, mem, undecodable⟩
    exact absurd undecodable (alone pair mem)
  · intro _
    obtain ⟨intent, decoded, kind, -, shows⟩ := intentOf_of_reads router tracked encodable reads
    refine ⟨intent, decoded, kind, fun asset => ?_⟩
    rw [shows, List.map_congr_left fun pair mem =>
      (outflowAlone_of_reads router tracked (encodable.single mem) (reads.single alike mem) asset).symm]
  · intro order same intent intent' decoded decoded' asset
    obtain ⟨_, decodes, -, -, shows⟩ := intentOf_of_reads router tracked encodable reads
    obtain ⟨_, decodes', -, -, shows'⟩ :=
      intentOf_of_reads router tracked (encodable.perm same) (all order same)
    rw [decodes] at decoded
    rw [decodes'] at decoded'
    cases decoded
    cases decoded'
    rw [shows, shows']
    exact (same.map _).sum_eq

/-- No order of the stream reads. -/
theorem compositional_of_unread (router : isAddress action.toAddress = true)
    (tracked : isAddress ctx.trackedAsset = true) (encodable : Encodable pairs)
    (unread : ∀ order, order.Perm pairs → ¬ Reads order)
    (alone : ∃ pair ∈ pairs, ¬ Reads [pair]) : Compositional action ctx pairs := by
  refine ⟨?_, ?_, ?_⟩
  · intro _ order same
    obtain ⟨intent, decoded, unknown, unbounded, -⟩ :=
      @intentOf_of_not_reads action ctx _ router (encodable.perm same) (unread order same)
    exact ⟨intent, decoded, unknown, unbounded⟩
  · intro decodable
    obtain ⟨pair, mem, unread_pair⟩ := alone
    exact absurd ((intentOf_kind_iff router tracked (encodable.single mem)).mpr unread_pair)
      (decodable pair mem)
  · intro order same intent intent' decoded decoded' asset
    obtain ⟨_, decodes, -, -, shows⟩ := @intentOf_of_not_reads action ctx _ router encodable
      (unread pairs (List.Perm.refl pairs))
    obtain ⟨_, decodes', -, -, shows'⟩ := @intentOf_of_not_reads action ctx _ router
      (encodable.perm same) (unread order same)
    rw [decodes] at decoded
    rw [decodes'] at decoded'
    cases decoded
    cases decoded'
    rw [outflowOf, outflowOf, shows, shows']

theorem mem_recipientsNamed {named : Except JsError Text} : named ∈ recipientsNamed pairs ↔
    ∃ pair ∈ pairs, recipientOf (commandOf pair.1) pair.2 = some named := by
  simp only [recipientsNamed, List.mem_flatMap, Option.mem_toList]

/-- A pair that names a recipient, at the head of a stream. -/
theorem head_recipientsNamed {pair : Byte × Text} {named : Except JsError Text}
    (names : recipientOf (commandOf pair.1) pair.2 = some named) (rest : List (Byte × Text)) :
    (recipientsNamed (pair :: rest)).head? = some named := by
  rw [recipientsNamed, List.flatMap_cons, names]
  rfl

/-- A pair whose payments cannot be read. -/
theorem compositional_of_unpaid (router : isAddress action.toAddress = true)
    (tracked : isAddress ctx.trackedAsset = true) (encodable : Encodable pairs)
    {pair : Byte × Text} (mem : pair ∈ pairs) (unpaid : paidBy pair = none) :
    Compositional action ctx pairs := by
  refine compositional_of_unread router tracked encodable ?_ ⟨pair, mem, ?_⟩
  · intro order same reads
    exact reads.1 pair (same.mem_iff.mpr mem) unpaid
  · intro reads
    exact reads.1 pair List.mem_cons_self unpaid

/-- No recipient word is an address, and there is one. -/
theorem compositional_of_words (router : isAddress action.toAddress = true)
    (tracked : isAddress ctx.trackedAsset = true) (encodable : Encodable pairs)
    (words : ∀ named ∈ recipientsNamed pairs, ∃ e, named = .error e)
    (some_named : recipientsNamed pairs ≠ []) : Compositional action ctx pairs := by
  refine compositional_of_unread router tracked encodable ?_ ?_
  · intro order same reads
    have named_same : (recipientsNamed order).Perm (recipientsNamed pairs) :=
      same.flatMap_right _
    cases heads : (recipientsNamed order).head? with
    | none =>
        rw [List.head?_eq_none_iff] at heads
        rw [heads] at named_same
        exact some_named named_same.symm.eq_nil
    | some named =>
        obtain ⟨e, refused⟩ := words named (named_same.subset (List.mem_of_mem_head? heads))
        obtain ⟨recipient, read⟩ := reads.2 named heads
        rw [refused] at read
        cases read
  · obtain ⟨named, mem_named⟩ := List.exists_mem_of_ne_nil _ some_named
    obtain ⟨e, refused⟩ := words named mem_named
    obtain ⟨pair, mem, names⟩ := mem_recipientsNamed.mp mem_named
    refine ⟨pair, mem, fun reads => ?_⟩
    obtain ⟨recipient, read⟩ := reads.2 named (head_recipientsNamed names [])
    rw [refused] at read
    cases read

/-- A pair with an address in front of one without reads, though that one does not alone. -/
theorem alike_of_compositional (router : isAddress action.toAddress = true)
    (tracked : isAddress ctx.trackedAsset = true) (encodable : Encodable pairs)
    (readable : ∀ pair ∈ pairs, paidBy pair ≠ none)
    (compositional : Compositional action ctx pairs) : RecipientsAlike pairs := by
  by_contra mixed
  simp only [RecipientsAlike, not_or, not_forall] at mixed
  obtain ⟨⟨bad, named_bad, unread_bad⟩, good, named_good, read_good⟩ := mixed
  obtain ⟨pair, mem, names⟩ := mem_recipientsNamed.mp named_bad
  obtain ⟨front, mem_front, names_front⟩ := mem_recipientsNamed.mp named_good
  have undecodable : Undecodable action ctx pair :=
    (intentOf_kind_iff router tracked (encodable.single mem)).mpr fun reads =>
      unread_bad (reads.2 bad (head_recipientsNamed names []))
  have same : (front :: pairs.erase front).Perm pairs := (List.perm_cons_erase mem_front).symm
  have reads : Reads (front :: pairs.erase front) := by
    refine ⟨fun pair mem => readable pair (same.subset mem), fun named first => ?_⟩
    rw [head_recipientsNamed names_front, Option.some.injEq] at first
    subst first
    cases good with
    | error e => exact absurd ⟨e, rfl⟩ read_good
    | ok recipient => exact ⟨recipient, rfl⟩
  obtain ⟨intent, decoded, unknown, -⟩ := compositional.unbounded ⟨pair, mem, undecodable⟩ _ same
  exact (intentOf_kind_iff router tracked (encodable.perm same)).mp ⟨intent, decoded, unknown⟩ reads

/-- A stream means what its pairs mean exactly when one of them cannot be read at all, or their
recipient words are alike. -/
theorem compositional_iff (router : isAddress action.toAddress = true)
    (tracked : isAddress ctx.trackedAsset = true) (encodable : Encodable pairs) :
    Compositional action ctx pairs ↔
      (∃ pair ∈ pairs, paidBy pair = none) ∨ RecipientsAlike pairs := by
  by_cases readable : ∀ pair ∈ pairs, paidBy pair ≠ none
  · constructor
    · intro compositional
      exact .inr (alike_of_compositional router tracked encodable readable compositional)
    · rintro (⟨pair, mem, unpaid⟩ | addresses | words)
      · exact absurd unpaid (readable pair mem)
      · exact compositional_of_addresses router tracked encodable readable addresses
      · by_cases none_named : recipientsNamed pairs = []
        · refine compositional_of_addresses router tracked encodable readable ?_
          rw [none_named]
          exact fun named mem => absurd mem List.not_mem_nil
        · exact compositional_of_words router tracked encodable words none_named
  · simp only [not_forall, not_not] at readable
    obtain ⟨pair, mem, unpaid⟩ := readable
    constructor
    · intro _
      exact .inl ⟨pair, mem, unpaid⟩
    · intro _
      exact compositional_of_unpaid router tracked encodable mem unpaid

end Compositionality

end UniswapV4

end Sdk

end AgentProof
