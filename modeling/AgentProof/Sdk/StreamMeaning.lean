import AgentProof.Lib.KeyedSum
import AgentProof.Sdk.RouterRecipients
import AgentProof.Sdk.V4Deltas

/-!
# The meaning of a command stream

A command pays amounts of currencies and may name a recipient.  The command loop
succeeds when every command's payments can be read and the first recipient named
is an address, and records the payments of all commands; recipients named later
are not read.
-/

namespace AgentProof

namespace Sdk

namespace UniswapV4

open Js KeyedSum

/-- Amounts by the key of their currency. -/
abbrev Payments := List (Text × Int)

/-! ## One command -/

/-- One amount of one currency. -/
def paid (currency : Option Text) (amount : Option Int) : Option Payments := do
  let currency ← currency
  let key ← (canonicalAsset currency).toOption
  let amount ← amount
  some [(key, amount)]

/-- An amount word. -/
def amountWord (input : Text) (index : Nat) : Option Int :=
  (wordAt input index).toOption.map Int.ofNat

/-- The worst case of a Permit2 allowance. -/
def permitted (allowance : Int) : Int :=
  if allowance ≥ PERMIT2_UNLIMITED then UNBOUNDED else allowance

/-- What a command pays; `none` when that cannot be read. -/
def payments (command : Nat) (input : Text) : Option Payments :=
  match command with
  | 0x00 | 0x08 => paid (pathFirstToken input 3).toOption.join (amountWord input 1)
  | 0x01 | 0x09 => paid (pathLastToken input 3).toOption.join (amountWord input 2)
  | 0x10 => (readV4Outflow input).map fun nested => nested.byAsset.entries
  | 0x05 | 0x02 => paid (wordAsAddress input 0).toOption (amountWord input 2)
  | 0x0a => paid (wordAsAddress input 0).toOption ((amountWord input 1).map permitted)
  | 0x0b => paid (some NATIVE_ASSET) (amountWord input 1)
  | 0x0c | 0x06 | 0x04 => some []
  | _ => none

/-- The recipient a command names, if it is one that names any. -/
def recipientOf (command : Nat) (input : Text) : Option (Except JsError Text) :=
  match command with
  | 0x00 | 0x08 | 0x01 | 0x09 => some (wordAsAddress input 0)
  | 0x05 | 0x02 => some (wordAsAddress input 1)
  | _ => none

/-- The recipient known after those named: the one known before, or the first. -/
def opened : Option Text → List (Except JsError Text) → Option (Option Text)
  | some known, _ => some (some known)
  | none, [] => some none
  | none, named :: _ => named.toOption.map some

namespace Outflow

/-- Record payments one after the other. -/
def addAll (o : Outflow) (pay : Payments) : Outflow :=
  pay.foldl (fun o e => o.addAt e.1 e.2) o

theorem addAll_append (o : Outflow) (pay later : Payments) :
    o.addAll (pay ++ later) = (o.addAll pay).addAll later :=
  List.foldl_append

theorem amountAt_addAll (o : Outflow) (pay : Payments) (key : Text) :
    (o.addAll pay).amountAt key = o.amountAt key + total pay key := by
  induction pay generalizing o with
  | nil => exact (Int.add_zero _).symm
  | cons e rest ih =>
      rw [addAll, List.foldl_cons, ← addAll, ih, amountAt_addAt, total_cons]
      by_cases here : e.1 = key
      · rw [if_pos here.symm, if_pos here, here, Int.add_assoc]
      · rw [if_neg (Ne.symm here), if_neg here, Int.zero_add]

end Outflow

section Turns

variable {g g' : Gathered} {input : Text} {o o' : Outflow} {r : Option Text} {currency : Text}

theorem toOption_eq_some_iff {α : Type} {x : Except JsError α} {a : α} :
    x.toOption = some a ↔ x = .ok a := by
  cases x with
  | error e => simp [Except.toOption]
  | ok b => simp [Except.toOption]

theorem Outflow.add_eq_ok_iff {amount : Int} : o.add currency amount = .ok o' ↔
    ∃ key, canonicalAsset currency = .ok key ∧ o.addAt key amount = o' := by
  simp only [Outflow.add, bind_eq_ok_iff, Except.ok.injEq]

theorem paid_eq_some_iff {currency : Option Text} {amount : Option Int} {pay : Payments} :
    paid currency amount = some pay ↔ ∃ asset key value, currency = some asset ∧
      canonicalAsset asset = .ok key ∧ amount = some value ∧ [(key, value)] = pay := by
  simp only [paid, Option.bind_eq_bind, Option.bind_eq_some_iff, toOption_eq_some_iff,
    Option.some.injEq]
  constructor
  · rintro ⟨asset, named, key, canonical, value, read, rfl⟩
    exact ⟨asset, key, value, named, canonical, read, rfl⟩
  · rintro ⟨asset, key, value, named, canonical, read, rfl⟩
    exact ⟨asset, named, key, canonical, value, read, rfl⟩

theorem amountWord_eq_some_iff {index : Nat} {value : Int} :
    amountWord input index = some value ↔ ∃ amount : Nat, wordAt input index = .ok amount ∧
      (amount : Int) = value := by
  simp only [amountWord, Option.map_eq_some_iff, toOption_eq_some_iff, Int.ofNat_eq_natCast]

/-- `recipient ??= address` opens with the address. -/
theorem named_eq_ok_iff {address : Except JsError Text} :
    g.named address = .ok r ↔ opened g.recipient [address] = some r := by
  unfold Gathered.named
  cases g.recipient with
  | some known => simp only [opened, Except.ok.injEq, Option.some.injEq]
  | none =>
      simp only [opened, bind_eq_ok_iff, Except.ok.injEq, Option.map_eq_some_iff,
        toOption_eq_some_iff]

/-- Recording one amount of a currency is recording its payment. -/
theorem add_eq_ok_iff_paid {value : Int} : (∃ o', o.add currency value = .ok o' ∧ ⟨o', r⟩ = g') ↔
    ∃ pay, paid (some currency) (some value) = some pay ∧ ⟨o.addAll pay, r⟩ = g' := by
  simp only [Outflow.add_eq_ok_iff, paid_eq_some_iff, Option.some.injEq]
  constructor
  · rintro ⟨_, ⟨key, canonical, rfl⟩, rfl⟩
    exact ⟨_, ⟨currency, key, value, rfl, canonical, rfl, rfl⟩, rfl⟩
  · rintro ⟨_, ⟨_, key, _, rfl, canonical, rfl, rfl⟩, rfl⟩
    exact ⟨_, ⟨key, canonical, rfl⟩, rfl⟩

theorem toOption_join_eq_some_iff {α : Type} {x : Except JsError (Option α)} {a : α} :
    x.toOption.join = some a ↔ x = .ok (some a) := by
  rw [Option.join_eq_some_iff, toOption_eq_some_iff]

/-- What a turn leaves: the recipient opened and the payments recorded. -/
def Turned (g : Gathered) (named : Option (Except JsError Text)) (pay : Option Payments)
    (g' : Gathered) : Prop :=
  ∃ r payments, opened g.recipient named.toList = some r ∧ pay = some payments ∧
    ⟨g.outflow.addAll payments, r⟩ = g'

/-- A swap of an amount word. -/
theorem swap_eq_ok_iff {path : Except JsError (Option Text)} {index : Nat} :
    (do let recipient ← g.named (wordAsAddress input 0)
        let currency ← path
        g.swap recipient currency (wordAt input index)) = .ok (.ok g') ↔
      Turned g (some (wordAsAddress input 0)) (paid path.toOption.join (amountWord input index))
        g' := by
  simp only [bind_eq_ok_iff, named_eq_ok_iff, Turned, Option.toList]
  constructor
  · rintro ⟨r, opens, currency, read, swapped⟩
    cases currency with
    | none => cases swapped
    | some currency =>
        simp only [Gathered.swap, bind_eq_ok_iff, Except.ok.injEq] at swapped
        obtain ⟨amount, word, o', added, rfl⟩ := swapped
        obtain ⟨pay, pays, same⟩ := add_eq_ok_iff_paid.mp ⟨o', added, rfl⟩
        rw [toOption_join_eq_some_iff.mpr read, amountWord_eq_some_iff.mpr ⟨amount, word, rfl⟩]
        exact ⟨r, pay, opens, pays, same⟩
  · rintro ⟨r, pay, opens, pays, same⟩
    obtain ⟨currency, _, _, named, -, read, -⟩ := paid_eq_some_iff.mp pays
    obtain ⟨amount, word, rfl⟩ := amountWord_eq_some_iff.mp read
    rw [named, read] at pays
    obtain ⟨o', added, rfl⟩ := add_eq_ok_iff_paid.mpr ⟨pay, pays, same⟩
    refine ⟨r, opens, some currency, toOption_join_eq_some_iff.mp named, ?_⟩
    simp only [Gathered.swap, bind_eq_ok_iff, Except.ok.injEq]
    exact ⟨amount, word, o', added, rfl⟩

/-- Adding an amount of the currency a word names. -/
theorem transfer_eq_ok_iff {index : Nat} {address : Except JsError Text} :
    (do let recipient ← g.named address
        let currency ← wordAsAddress input 0
        let outflow ← g.outflow.add currency (← wordAt input index)
        .ok (.ok ⟨outflow, recipient⟩) : Except JsError (Except Text Gathered)) = .ok (.ok g') ↔
      Turned g (some address) (paid (wordAsAddress input 0).toOption (amountWord input index))
        g' := by
  simp only [bind_eq_ok_iff, named_eq_ok_iff, Turned, Option.toList, Except.ok.injEq]
  constructor
  · rintro ⟨r, opens, currency, read, amount, word, o', added, same⟩
    obtain ⟨pay, pays, same⟩ := add_eq_ok_iff_paid.mp ⟨o', added, same⟩
    rw [toOption_eq_some_iff.mpr read, amountWord_eq_some_iff.mpr ⟨amount, word, rfl⟩]
    exact ⟨r, pay, opens, pays, same⟩
  · rintro ⟨r, pay, opens, pays, same⟩
    obtain ⟨currency, _, _, named, -, read, -⟩ := paid_eq_some_iff.mp pays
    obtain ⟨amount, word, rfl⟩ := amountWord_eq_some_iff.mp read
    rw [named, read] at pays
    obtain ⟨o', added, same⟩ := add_eq_ok_iff_paid.mpr ⟨pay, pays, same⟩
    exact ⟨r, opens, currency, toOption_eq_some_iff.mp named, amount, word, o', added, same⟩

/-! ## A nested stream -/

/-- Every key is its own canonical form. -/
def Canonical (o : Outflow) : Prop := ∀ e ∈ o.byAsset.entries, canonicalAsset e.1 = .ok e.1

theorem merge_entries {es : Payments} (canonical : ∀ e ∈ es, canonicalAsset e.1 = .ok e.1) :
    es.foldlM (fun o e => o.add e.1 e.2) o = .ok (o.addAll es) := by
  induction es generalizing o with
  | nil => rfl
  | cons e rest ih =>
      obtain ⟨here, later⟩ := List.forall_mem_cons.mp canonical
      have added : o.add e.1 e.2 = .ok (o.addAt e.1 e.2) :=
        Outflow.add_eq_ok_iff.mpr ⟨e.1, here, rfl⟩
      rw [List.foldlM_cons, added]
      exact ih later

theorem canonical_set {key : Text} (canonical : Canonical o)
    (fixed : canonicalAsset key = .ok key) (amount : Int) :
    Canonical ⟨o.byAsset.set key amount⟩ := by
  rintro ⟨k, v⟩ mem
  rw [← OrderedMap.get_eq_some_iff, OrderedMap.get_set] at mem
  split_ifs at mem with here
  · rw [here]
    exact fixed
  · rw [OrderedMap.get_eq_some_iff] at mem
    exact canonical _ mem

theorem canonical_of_readV4Actions {actions : List (Option Int × Text)} (canonical : Canonical o)
    (read : readV4Actions o actions = some o') : Canonical o' := by
  induction actions generalizing o with
  | nil =>
      cases read
      exact canonical
  | cons head rest ih =>
      obtain ⟨action, params⟩ := head
      rw [readV4Actions] at read
      split at read
      · next next turn =>
          refine ih ?_ read
          rcases readV4Action_cases turn with rfl | ⟨asset, amount, added⟩ | ⟨asset, amount, raised⟩
          · exact canonical
          · obtain ⟨key, asset_key, rfl⟩ := Outflow.add_eq_ok added
            exact canonical_set canonical (canonicalAsset_eq_ok asset_key) _
          · obtain ⟨key, asset_key, same⟩ := bind_eq_ok_iff.mp raised
            cases same
            split_ifs
            · exact canonical_set canonical (canonicalAsset_eq_ok asset_key) _
            · exact canonical
      · cases read
      · cases read

theorem canonical_of_readV4Outflow (read : readV4Outflow input = some o) : Canonical o := by
  simp only [readV4Outflow, Option.bind_eq_bind, Option.bind_eq_some_iff] at read
  obtain ⟨inner, -, actions⟩ := read
  exact canonical_of_readV4Actions (fun _ mem => absurd mem List.not_mem_nil) actions

/-! ## One turn -/

/-- A turn that names nobody keeps what is known. -/
theorem turned_none_iff {pay : Option Payments} : Turned g none pay g' ↔
    ∃ payments, pay = some payments ∧ { g with outflow := g.outflow.addAll payments } = g' := by
  have kept : opened g.recipient [] = some g.recipient := by
    cases g.recipient <;> rfl
  simp only [Turned, Option.toList, kept, Option.some.injEq]
  constructor
  · rintro ⟨_, payments, rfl, pays, same⟩
    exact ⟨payments, pays, same⟩
  · rintro ⟨payments, pays, same⟩
    exact ⟨_, payments, rfl, pays, same⟩

/-- A turn succeeds when the payments and the recipient can be read. -/
theorem readCommand_eq_ok_iff {command : Nat} : readCommand g command input = .ok (.ok g') ↔
    Turned g (recipientOf command input) (payments command input) g' := by
  unfold readCommand
  split
  -- the V2 and V3 swaps
  case h_1 | h_2 | h_3 | h_4 => exact swap_eq_ok_iff
  -- V4_SWAP
  case h_5 =>
    refine Iff.trans ?_ turned_none_iff.symm
    cases nested : readV4Outflow input with
    | none => simp [payments, nested]
    | some outflow =>
        have merged : g.outflow.merge outflow = .ok (g.outflow.addAll outflow.byAsset.entries) :=
          merge_entries (canonical_of_readV4Outflow nested)
        simp only [payments, nested, merged, bind, Except.bind, Except.ok.injEq, Option.map_some,
          Option.some.injEq, exists_eq_left']
  -- TRANSFER, PERMIT2_TRANSFER_FROM
  case h_6 | h_7 => exact transfer_eq_ok_iff
  -- PERMIT2_PERMIT
  case h_8 =>
    refine Iff.trans ?_ turned_none_iff.symm
    simp only [payments, bind_eq_ok_iff, Except.ok.injEq]
    constructor
    · rintro ⟨_, ⟨amount, word, same⟩, currency, read, o', added, rfl⟩
      cases same
      obtain ⟨pay, pays, same⟩ := add_eq_ok_iff_paid.mp ⟨o', added, rfl⟩
      rw [toOption_eq_some_iff.mpr read, amountWord_eq_some_iff.mpr ⟨amount, word, rfl⟩]
      exact ⟨pay, pays, same⟩
    · rintro ⟨pay, pays, same⟩
      obtain ⟨currency, _, _, named, -, read, -⟩ := paid_eq_some_iff.mp pays
      obtain ⟨_, allowance, rfl⟩ := Option.map_eq_some_iff.mp read
      obtain ⟨amount, word, rfl⟩ := amountWord_eq_some_iff.mp allowance
      rw [named, read] at pays
      obtain ⟨o', added, same⟩ := add_eq_ok_iff_paid.mpr ⟨pay, pays, same⟩
      exact ⟨_, ⟨amount, word, rfl⟩, currency, toOption_eq_some_iff.mp named, o', added, same⟩
  -- WRAP_ETH
  case h_9 =>
    refine Iff.trans ?_ turned_none_iff.symm
    simp only [payments, bind_eq_ok_iff, Except.ok.injEq]
    constructor
    · rintro ⟨amount, word, o', added, rfl⟩
      obtain ⟨pay, pays, same⟩ := add_eq_ok_iff_paid.mp ⟨o', added, rfl⟩
      rw [amountWord_eq_some_iff.mpr ⟨amount, word, rfl⟩]
      exact ⟨pay, pays, same⟩
    · rintro ⟨pay, pays, same⟩
      obtain ⟨_, _, _, -, -, read, -⟩ := paid_eq_some_iff.mp pays
      obtain ⟨amount, word, rfl⟩ := amountWord_eq_some_iff.mp read
      rw [read] at pays
      obtain ⟨o', added, same⟩ := add_eq_ok_iff_paid.mpr ⟨pay, pays, same⟩
      exact ⟨amount, word, o', added, same⟩
  -- UNWRAP_WETH, PAY_PORTION, SWEEP
  case h_10 | h_11 | h_12 =>
    refine Iff.trans ?_ turned_none_iff.symm
    simp [payments, Outflow.addAll]
  -- what no payments are read of
  case h_13 =>
    constructor
    · intro same
      cases Except.ok.inj same
    · rintro ⟨_, _, -, pays, -⟩
      unfold payments at pays
      split at pays
      all_goals contradiction

end Turns

/-! ## A stream -/

/-- The recipients the commands of a stream name, in order. -/
def recipientsOf (stream : List (Option Int × Text)) : List (Except JsError Text) :=
  stream.flatMap fun (byte, input) => (recipientOf (maskBits byte 6) input).toList

/-- The payments of every command, one after the other. -/
def paymentsOf : List (Option Int × Text) → Option Payments
  | [] => some []
  | (byte, input) :: rest => do
      let here ← payments (maskBits byte 6) input
      let later ← paymentsOf rest
      some (here ++ later)

section Streams

variable {g g' : Gathered} {stream : List (Option Int × Text)} {r : Option Text}

/-- Recipients named one after the other. -/
theorem opened_append {first later : List (Except JsError Text)} {final : Option Text} :
    opened r (first ++ later) = some final ↔
      ∃ between, opened r first = some between ∧ opened between later = some final := by
  cases r with
  | some known => cases first <;> simp [opened]
  | none =>
      cases first with
      | nil => simp [opened]
      | cons named rest =>
          cases named with
          | error e => simp [opened, Except.toOption]
          | ok a => simp [opened, Except.toOption]

/-- The loop reads a stream when its payments and its first recipient can be read, and then
records all payments. -/
theorem readCommands_eq_ok_iff : readCommands g stream = .ok g' ↔
    ∃ final pay, opened g.recipient (recipientsOf stream) = some final ∧
      paymentsOf stream = some pay ∧ ⟨g.outflow.addAll pay, final⟩ = g' := by
  induction stream generalizing g with
  | nil =>
      have kept : opened g.recipient [] = some g.recipient := by
        cases g.recipient <;> rfl
      simp [readCommands, recipientsOf, paymentsOf, kept, Outflow.addAll]
  | cons head rest ih =>
      obtain ⟨byte, input⟩ := head
      have names : recipientsOf ((byte, input) :: rest) =
          (recipientOf (maskBits byte 6) input).toList ++ recipientsOf rest := List.flatMap_cons
      have turn : readCommands g ((byte, input) :: rest) = .ok g' ↔
          ∃ next, Turned g (recipientOf (maskBits byte 6) input) (payments (maskBits byte 6) input)
            next ∧ readCommands next rest = .ok g' := by
        simp only [← readCommand_eq_ok_iff, readCommands]
        cases read : readCommand g (maskBits byte 6) input with
        | error e => simp
        | ok result => cases result <;> simp
      rw [turn, names]
      simp only [ih, Turned, opened_append, paymentsOf, Option.bind_eq_bind,
        Option.bind_eq_some_iff, Option.some.injEq]
      constructor
      · rintro ⟨_, ⟨between, here, opens, pays, rfl⟩, final, later, closes, rest_pays, rfl⟩
        refine ⟨final, here ++ later, ⟨between, opens, closes⟩, ⟨here, pays, later, rest_pays, rfl⟩, ?_⟩
        rw [Outflow.addAll_append]
      · rintro ⟨final, _, ⟨between, opens, closes⟩, ⟨here, pays, later, rest_pays, rfl⟩, rfl⟩
        refine ⟨_, ⟨between, here, opens, pays, rfl⟩, final, later, closes, rest_pays, ?_⟩
        rw [Outflow.addAll_append]

end Streams

end UniswapV4

end Sdk

end AgentProof
