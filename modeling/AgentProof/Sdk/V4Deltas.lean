import AgentProof.Sdk.UniswapV4

/-!
# v4 delta accounting and the recorded outflow

The settlement rules of the v4 router and pool manager, as far as the action
decoder relies on them: swaps and takes open debts, settles pay them.  The
decoder reads the same actions from the same words and records an outflow.  A
payment of an open debt is not recorded when it is made, so the recorded
outflow covers the payments only if what the debt came from was recorded: the
swaps are, a `TAKE` is not.
-/

namespace AgentProof

namespace Sdk

namespace UniswapV4

open Js

/-- A v4 action with the arguments that matter to the payer. -/
inductive V4Action
  | swapExactInSingle (currency : Address) (amountIn : Nat)
  | swapExactOutSingle (currency : Address) (amountInMaximum : Nat)
  | settle (currency : Address) (amount : Nat) (payerIsUser : Bool)
  | settleAll (currency : Address) (maxAmount : Nat)
  | settlePair (currency0 currency1 : Address)
  | take (currency : Address) (amount : Nat)
  /-- `TAKE_ALL`, `TAKE_PORTION`, `TAKE_PAIR`, `CLOSE_CURRENCY`, `CLEAR_OR_TAKE` -/
  | inbound
  deriving DecidableEq, Repr

/-! ## The settlement rules -/

/-- The account's open debts and payments, by currency.  `taken` sums the
non-zero takes and `settled` the payments of a stated amount. -/
structure Deltas where
  debt : Address → Int
  paid : Address → Int
  taken : Address → Int
  settled : Address → Int

namespace Deltas

def zero : Deltas := ⟨fun _ => 0, fun _ => 0, fun _ => 0, fun _ => 0⟩

/-- `f` with `amount` added at `c`. -/
def raise (f : Address → Int) (c : Address) (amount : Int) : Address → Int :=
  fun d => f d + if d = c then amount else 0

/-- `amount` more is owed. -/
def owe (s : Deltas) (c : Address) (amount : Int) : Deltas :=
  { s with debt := raise s.debt c amount }

/-- The account pays `amount` towards its debt. -/
def pay (s : Deltas) (c : Address) (amount : Int) : Deltas :=
  { s.owe c (-amount) with paid := raise s.paid c amount }

/-- The account pays the whole open debt. -/
def payOpen (s : Deltas) (c : Address) : Deltas := s.pay c (s.debt c)

end Deltas

/-- One action of a successful execution.  An open debt can be paid only when
there is no credit, and an exact-output swap takes what it needs. -/
inductive Executes : Deltas → V4Action → Deltas → Prop
  | swapExactInSingle {s c amountIn} :
      Executes s (.swapExactInSingle c amountIn) (s.owe c amountIn)
  | swapExactOutSingle {s c amountInMaximum} (amount : Nat) (within : amount ≤ amountInMaximum) :
      Executes s (.swapExactOutSingle c amountInMaximum) (s.owe c amount)
  | take {s c amount} (nonzero : amount ≠ 0) :
      Executes s (.take c amount)
        { s.owe c amount with taken := Deltas.raise s.taken c amount }
  | takeCredit {s c} : Executes s (.take c 0) s
  | settle {s c amount} (nonzero : amount ≠ 0) :
      Executes s (.settle c amount true)
        { s.pay c amount with settled := Deltas.raise s.settled c amount }
  | settleOpen {s c} (owed : 0 ≤ s.debt c) : Executes s (.settle c 0 true) (s.payOpen c)
  | settleByRouter {s c amount} (covered : Int) (owed : 0 ≤ covered) :
      Executes s (.settle c amount false) (s.owe c (-covered))
  | settleAll {s c} {maxAmount : Nat} (owed : 0 ≤ s.debt c) (within : s.debt c ≤ (maxAmount : Int)) :
      Executes s (.settleAll c maxAmount) (s.payOpen c)
  | settlePair {s c d} (owed : 0 ≤ s.debt c) (owed' : 0 ≤ (s.payOpen c).debt d) :
      Executes s (.settlePair c d) ((s.payOpen c).payOpen d)
  | inbound {s} : Executes s .inbound s

/-- A successful execution of a list of actions, each step meeting `Meets`. -/
inductive Run (Meets : Deltas → V4Action → Prop) : Deltas → List V4Action → Deltas → Prop
  | nil {s} : Run Meets s [] s
  | cons {s s' t action actions} (meets : Meets s action) (executes : Executes s action s')
      (rest : Run Meets s' actions t) : Run Meets s (action :: actions) t

/-- What the decoder relies on when an open debt is paid: payments of a stated
amount have made good the takes of the currency, or the maximum a `SETTLE_ALL`
states covers the payments made so far as well. -/
def TakesSettled (s : Deltas) : V4Action → Prop
  | .settle c 0 true => s.taken c ≤ s.settled c
  | .settleAll c maxAmount => s.taken c ≤ s.settled c ∨ s.paid c + s.debt c ≤ (maxAmount : Int)
  | .settlePair c d => s.taken c ≤ s.settled c ∧ s.taken d ≤ s.settled d
  | _ => True

/-! ## What the decoder records -/

/-- The router's reading of an action, from the same words as the decoder's. -/
def parseAction (action : Option Int) (params : Text) : Except JsError V4Action :=
  match action with
  | some 0x06 => do
      let (currency, amount) ← singleSwap params 7
      .ok (.swapExactInSingle (addressOf currency) amount)
  | some 0x08 => do
      let (currency, amount) ← singleSwap params 8
      .ok (.swapExactOutSingle (addressOf currency) amount)
  | some 0x0b => do
      let currency ← wordAsAddress params 0
      let amount ← wordAt params 1
      let payerIsUser ← wordAt params 2
      .ok (.settle (addressOf currency) amount (payerIsUser ≠ 0))
  | some 0x0c => do
      let currency ← wordAsAddress params 0
      let maxAmount ← wordAt params 1
      .ok (.settleAll (addressOf currency) maxAmount)
  | some 0x0d => do
      let currency0 ← wordAsAddress params 0
      let currency1 ← wordAsAddress params 1
      .ok (.settlePair (addressOf currency0) (addressOf currency1))
  | some 0x0e => do
      let currency ← wordAsAddress params 0
      let amount ← wordAt params 2
      .ok (.take (addressOf currency) amount)
  | some 0x0f | some 0x10 | some 0x11 | some 0x12 | some 0x13 => .ok .inbound
  | _ => thrown "not modelled".toList

/-- The actions of a stream. -/
def parseActions (actions : List (Option Int × Text)) : Except JsError (List V4Action) :=
  actions.mapM fun (action, params) => parseAction action params

/-- The outflow after an action, in terms of the action itself. -/
def Outflow.record (o : Outflow) : V4Action → Outflow
  | .swapExactInSingle c amount => o.addAt (assetKey c) amount
  | .swapExactOutSingle c amount => o.addAt (assetKey c) amount
  | .settle c amount true => o.addAt (assetKey c) amount
  | .settleAll c maxAmount => o.atLeastAt (assetKey c) maxAmount
  | _ => o

section Records

theorem wordAsAddress_eq_ok {input : Text} {index : Nat} {currency : Text}
    (read : wordAsAddress input index = .ok currency) :
    currency = addressText (addressOf currency) := by
  obtain ⟨value, -, normalised⟩ := bind_eq_ok_iff.mp read
  exact normalizeAddress_eq_ok normalised

theorem singleSwap_eq_ok {params currency : Text} {amountIndex amount : Nat}
    (read : singleSwap params amountIndex = .ok (currency, amount)) :
    currency = addressText (addressOf currency) := by
  simp only [singleSwap, bind_eq_ok_iff, Except.ok.injEq, Prod.mk.injEq] at read
  obtain ⟨_, -, _, address, _, -, rfl, -⟩ := read
  exact wordAsAddress_eq_ok address

/-- The decoder's turn on a readable action records that action. -/
theorem readV4Action_eq_record {o o' : Outflow} {action : Option Int} {params : Text}
    {parsed : V4Action} (read : readV4Action o action params = .ok (some o'))
    (parses : parseAction action params = .ok parsed) : o' = o.record parsed := by
  unfold readV4Action at read
  split at read
  -- the two single-hop swaps
  · simp only [bind_eq_ok_iff, Except.ok.injEq, Prod.exists, Option.some.injEq] at read
    obtain ⟨currency, amount, swapped, outflow, added, rfl⟩ := read
    have parses : parsed = .swapExactInSingle (addressOf currency) amount := by
      simpa [parseAction, swapped, bind, Except.bind, eq_comm] using parses
    rw [singleSwap_eq_ok swapped, Outflow.add_addressText, Except.ok.injEq] at added
    rw [parses, ← added]
    rfl
  · simp only [bind_eq_ok_iff, Except.ok.injEq, Prod.exists, Option.some.injEq] at read
    obtain ⟨currency, amount, swapped, outflow, added, rfl⟩ := read
    have parses : parsed = .swapExactOutSingle (addressOf currency) amount := by
      simpa [parseAction, swapped, bind, Except.bind, eq_comm] using parses
    rw [singleSwap_eq_ok swapped, Outflow.add_addressText, Except.ok.injEq] at added
    rw [parses, ← added]
    rfl
  · simp at read
  · simp at read
  -- SETTLE
  · simp only [parseAction, bind_eq_ok_iff, Except.ok.injEq] at parses
    obtain ⟨currency, address, amount, word, payer, flag, rfl⟩ := parses
    simp only [flag, address, word, bind, Except.bind] at read
    by_cases byUser : payer ≠ 0
    · rw [if_pos byUser, wordAsAddress_eq_ok address, Outflow.add_addressText] at read
      simp only [Except.ok.injEq, Option.some.injEq] at read
      rw [decide_eq_true byUser, ← read]
      rfl
    · rw [if_neg byUser] at read
      simp only [Except.ok.injEq, Option.some.injEq] at read
      rw [decide_eq_false byUser, ← read]
      rfl
  -- SETTLE_ALL
  · simp only [parseAction, bind_eq_ok_iff, Except.ok.injEq] at parses
    obtain ⟨currency, address, maxAmount, word, rfl⟩ := parses
    simp only [address, word, bind, Except.bind] at read
    rw [wordAsAddress_eq_ok address, Outflow.atLeast_addressText] at read
    simp only [Except.ok.injEq, Option.some.injEq] at read
    rw [← read]
    rfl
  -- SETTLE_PAIR and TAKE
  · simp only [Except.ok.injEq, Option.some.injEq] at read
    simp only [parseAction, bind_eq_ok_iff, Except.ok.injEq] at parses
    obtain ⟨_, -, _, -, rfl⟩ := parses
    exact read.symm
  · simp only [Except.ok.injEq, Option.some.injEq] at read
    simp only [parseAction, bind_eq_ok_iff, Except.ok.injEq] at parses
    obtain ⟨_, -, _, -, rfl⟩ := parses
    exact read.symm
  -- the inbound actions, and no others
  all_goals cases read
  all_goals
    cases parses
    rfl

end Records

/-! ## The recorded outflow covers the payments -/

/-- What holds between the recorded outflow and the account after the same
actions: payments are covered, and so is the open debt, up to the takes that
no payment of a stated amount has made good. -/
structure Covers (o : Outflow) (s : Deltas) : Prop where
  paid : ∀ c, s.paid c ≤ o.amountAt (assetKey c)
  owed : ∀ c, s.paid c + s.debt c + s.settled c ≤ o.amountAt (assetKey c) + s.taken c

theorem Covers.zero : Covers .empty .zero := ⟨fun _ => le_rfl, fun _ => le_rfl⟩

/-- Recording adds to the currency and lowers no other. -/
theorem Outflow.le_addAt (o : Outflow) (c d : Address) {amount : Int} (nonneg : 0 ≤ amount) :
    o.amountAt (assetKey d) + (if d = c then amount else 0) ≤
      (o.addAt (assetKey c) amount).amountAt (assetKey d) := by
  rw [Outflow.amountAt_addAt]
  by_cases same : d = c
  · rw [if_pos same, if_pos (by rw [same]), same]
  · rw [if_neg same, add_zero]
    split_ifs with key
    · rw [key]
      omega
    · exact le_rfl

theorem Outflow.le_atLeastAt (o : Outflow) (key key' : Text) (amount : Int) :
    o.amountAt key' ≤ (o.atLeastAt key amount).amountAt key' := by
  rw [Outflow.amountAt_atLeastAt]
  split_ifs with here
  · rw [here]
    exact le_max_left _ _
  · exact le_rfl

section Steps

variable {o o' : Outflow} {s : Deltas} {c : Address}

/-- A larger record covers the same account. -/
theorem Covers.mono (covers : Covers o s)
    (more : ∀ d, o.amountAt (assetKey d) ≤ o'.amountAt (assetKey d)) : Covers o' s :=
  ⟨fun d => (covers.paid d).trans (more d),
    fun d => (covers.owed d).trans (add_le_add_left (more d) _)⟩

/-- A recorded debt. -/
theorem Covers.owe_recorded (covers : Covers o s) {owed recorded : Nat} (within : owed ≤ recorded) :
    Covers (o.addAt (assetKey c) recorded) (s.owe c owed) := by
  refine ⟨fun d => ?_, fun d => ?_⟩
  · have room := o.le_addAt c d (Int.natCast_nonneg recorded)
    have paid := covers.paid d
    simp only [Deltas.owe]
    split_ifs at room <;> omega
  · have room := o.le_addAt c d (Int.natCast_nonneg recorded)
    have owes := covers.owed d
    simp only [Deltas.owe, Deltas.raise]
    split_ifs at room ⊢ <;> omega

/-- A take opens a debt that is counted as taken. -/
theorem Covers.take (covers : Covers o s) (amount : Int) :
    Covers o { s.owe c amount with taken := Deltas.raise s.taken c amount } := by
  refine ⟨covers.paid, fun d => ?_⟩
  have owes := covers.owed d
  simp only [Deltas.owe, Deltas.raise]
  omega

/-- A payment of a stated amount is recorded. -/
theorem Covers.settle (covers : Covers o s) (amount : Nat) :
    Covers (o.addAt (assetKey c) amount)
      { s.pay c amount with settled := Deltas.raise s.settled c amount } := by
  refine ⟨fun d => ?_, fun d => ?_⟩
  · have room := o.le_addAt c d (Int.natCast_nonneg amount)
    have paid := covers.paid d
    simp only [Deltas.pay, Deltas.raise]
    omega
  · have room := o.le_addAt c d (Int.natCast_nonneg amount)
    have owes := covers.owed d
    simp only [Deltas.pay, Deltas.owe, Deltas.raise]
    split_ifs at room ⊢ <;> omega

/-- Paying an open debt is covered when the takes have been made good. -/
theorem Covers.payOpen (covers : Covers o s) (settled : s.taken c ≤ s.settled c) :
    Covers o (s.payOpen c) := by
  refine ⟨fun d => ?_, fun d => ?_⟩
  · have paid := covers.paid d
    have owes := covers.owed d
    simp only [Deltas.payOpen, Deltas.pay, Deltas.raise]
    split_ifs with here
    · subst here
      omega
    · omega
  · have owes := covers.owed d
    simp only [Deltas.payOpen, Deltas.pay, Deltas.owe, Deltas.raise]
    split_ifs <;> omega

/-- Whatever the router pays for lowers the debt. -/
theorem Covers.owe_less (covers : Covers o s) {amount : Int} (nonneg : 0 ≤ amount) :
    Covers o (s.owe c (-amount)) := by
  refine ⟨covers.paid, fun d => ?_⟩
  have owes := covers.owed d
  simp only [Deltas.owe, Deltas.raise]
  split_ifs <;> omega

/-- The maximum a `SETTLE_ALL` states is recorded, so it covers what it covers. -/
theorem Covers.payAll (covers : Covers o s) {maxAmount : Nat}
    (within : s.paid c + s.debt c ≤ (maxAmount : Int)) :
    Covers (o.atLeastAt (assetKey c) maxAmount) (s.payOpen c) := by
  have more (d : Address) := o.le_atLeastAt (assetKey c) (assetKey d) maxAmount
  refine ⟨fun d => ?_, fun d => ?_⟩
  · have paid := covers.paid d
    have atLeast := more d
    simp only [Deltas.payOpen, Deltas.pay, Deltas.raise]
    split_ifs with here
    · subst here
      have bound := o.amountAt_atLeastAt (assetKey d) (assetKey d) maxAmount
      rw [if_pos rfl] at bound
      omega
    · omega
  · have owes := covers.owed d
    have atLeast := more d
    simp only [Deltas.payOpen, Deltas.pay, Deltas.owe, Deltas.raise]
    split_ifs <;> omega

end Steps

/-- One action. -/
theorem Covers.step {o : Outflow} {s s' : Deltas} {action : V4Action} (covers : Covers o s)
    (settled : TakesSettled s action) (executes : Executes s action s') :
    Covers (o.record action) s' := by
  cases executes with
  | swapExactInSingle => exact covers.owe_recorded le_rfl
  | swapExactOutSingle amount within => exact covers.owe_recorded within
  | take nonzero => exact covers.take _
  | takeCredit => exact covers
  | settle nonzero => exact covers.settle _
  | @settleOpen c owed =>
      have more (d : Address) : o.amountAt (assetKey d) ≤
          (o.addAt (assetKey c) ((0 : Nat) : Int)).amountAt (assetKey d) := by
        have room := o.le_addAt c d (Int.natCast_nonneg 0)
        split_ifs at room <;> omega
      exact (covers.payOpen settled).mono more
  | settleByRouter covered owed => exact covers.owe_less owed
  | settleAll owed within =>
      rcases settled with madeGood | stated
      · exact (covers.payOpen madeGood).mono fun d => o.le_atLeastAt _ _ _
      · exact covers.payAll stated
  | settlePair owed owed' =>
      obtain ⟨first, second⟩ := settled
      exact (covers.payOpen first).payOpen second
  | inbound => exact covers

/-- A whole list of actions, read by the decoder and by the router. -/
theorem Covers.run {o o' : Outflow} {s s' : Deltas} {read : List (Option Int × Text)}
    {actions : List V4Action} (covers : Covers o s) (decoded : readV4Actions o read = some o')
    (parses : parseActions read = .ok actions) (ran : Run TakesSettled s actions s') :
    Covers o' s' := by
  induction read generalizing o s actions with
  | nil =>
      cases parses
      cases ran
      cases decoded
      exact covers
  | cons head rest ih =>
      obtain ⟨action, params⟩ := head
      simp only [parseActions, List.mapM_cons, bind_eq_ok_iff] at parses
      obtain ⟨parsed, parsesHead, parsedRest, parsesRest, collected⟩ := parses
      cases collected
      rw [readV4Actions] at decoded
      split at decoded
      · rename_i next readHead
        cases ran with
        | cons meets executes rest =>
            have recorded := readV4Action_eq_record readHead parsesHead
            rw [recorded] at decoded
            exact ih (covers.step meets executes) decoded parsesRest rest
      · cases decoded
      · cases decoded

/-- Under the settlement rules the recorded outflow is at least what the account
pays, in every execution that pays no open debt of unsettled takes. -/
theorem readV4Outflow_covers {input : Text} {stream : CommandStream} {outflow : Outflow}
    {actions : List V4Action} {s : Deltas} (inner : readV4Stream input = some stream)
    (decoded : readV4Outflow input = some outflow)
    (parses : parseActions (stream.commands.zip stream.inputs) = .ok actions)
    (ran : Run TakesSettled .zero actions s) (c : Address) :
    ∃ amount, outflow.get (addressText c) = .ok amount ∧ s.paid c ≤ amount := by
  have read : readV4Actions .empty (stream.commands.zip stream.inputs) = some outflow := by
    rw [← readV4Outflow_of_stream inner]
    exact decoded
  have covers := Covers.zero.run read parses ran
  exact ⟨_, outflow.get_addressText c, covers.paid c⟩

/-- A swap of 100 for at least 1, its debt settled up to 100, the output taken. -/
def sampleSwap : CommandStream where
  commands := [some 0x06, some 0x0c, some 0x0f]
  inputs := [[0x20, 0x11, 0x22, 500, 10, 0, 1, 100, 1, 0x120, 0].flatMap wordText,
    [0x11, 100].flatMap wordText, [0x22, 1].flatMap wordText]

theorem readV4Outflow_covers_sampleSwap :
    ∃ outflow amount, readV4Outflow (streamText [0x06, 0x0c, 0x0f] sampleSwap.inputs) =
      some outflow ∧ outflow.get (addressText 0x11) = .ok amount ∧ 100 ≤ amount := by
  have ran : Run TakesSettled .zero [.swapExactInSingle 0x11 100, .settleAll 0x11 100, .inbound]
      ((Deltas.zero.owe 0x11 100).payOpen 0x11) :=
    .cons trivial .swapExactInSingle
      (.cons (.inl (by decide)) (.settleAll (by decide) (by decide)) (.cons trivial .inbound .nil))
  have inner : readV4Stream (streamText [0x06, 0x0c, 0x0f] sampleSwap.inputs) =
      some sampleSwap := by decide +kernel
  have decoded : readV4Outflow (streamText [0x06, 0x0c, 0x0f] sampleSwap.inputs) =
      some ((Outflow.empty.addAt (assetKey 0x11) 100).atLeastAt (assetKey 0x11) 100) := by
    rw [readV4Outflow_of_stream inner]
    decide +kernel
  obtain ⟨amount, read, covered⟩ :=
    readV4Outflow_covers inner decoded (by decide +kernel) ran 0x11
  exact ⟨_, amount, decoded, read, covered⟩

/-- A take of 100 whose debt is then settled with the open-delta amount. -/
def sampleTake : CommandStream where
  commands := [some 0x0e, some 0x0b]
  inputs := [[0x11, 0x99, 100].flatMap wordText, [0x11, 0, 1].flatMap wordText]

/-- The debt of a take is paid by a `SETTLE` of the open delta, and no outflow is recorded. -/
theorem readV4Outflow_misses_take :
    ∃ input stream outflow actions s, readV4Stream input = some stream ∧
      readV4Outflow input = some outflow ∧
      parseActions (stream.commands.zip stream.inputs) = .ok actions ∧
      Run (fun _ _ => True) .zero actions s ∧
      s.paid 0x11 = 100 ∧ outflow.get (addressText 0x11) = .ok 0 := by
  have inner : readV4Stream (streamText [0x0e, 0x0b] sampleTake.inputs) = some sampleTake := by
    decide +kernel
  have decoded : readV4Outflow (streamText [0x0e, 0x0b] sampleTake.inputs) =
      some (Outflow.empty.addAt (assetKey 0x11) 0) := by
    rw [readV4Outflow_of_stream inner]
    decide +kernel
  have ran : Run (fun _ _ => True) .zero [.take 0x11 100, .settle 0x11 0 true] _ :=
    .cons trivial (.take (by decide)) (.cons trivial (.settleOpen (by decide)) .nil)
  refine ⟨_, sampleTake, _, _, _, inner, decoded, ?_, ran, by decide, ?_⟩
  · decide +kernel
  · decide +kernel

end UniswapV4

end Sdk

end AgentProof
