import AgentProof.Lib.BucketLimit
import AgentProof.Lib.KeyedSum
import AgentProof.Sdk.Simulated

/-!
# What a simulated revert leaves behind

A send that throws leaves the account as it was, unless it charged the window
first and then found the balance under the floor: that exit rolls back the
balance and not the window (`Sinks`).  The window holds what the sends of the
day paid and what those sends sank (`spentToday_eq`).
-/

namespace AgentProof

namespace Sdk

open Js

namespace SimulatedAccount

/-! ## One send -/

/-- What the execution of a request takes out of the balance, where it gets that far. -/
def drawn (s : SimulatedAccount) (request : UserOperationRequest) : Option Int :=
  match s.preCheck request with
  | .error _ => none
  | .ok target =>
      match s.applyTransfer request.data target with
      | .error _ => none
      | .ok (_, moved) => some moved

/-- An outflow of `moved` within both limits leaves the balance under the floor. -/
structure Sinking (s : SimulatedAccount) (ceiling : Int) (request : UserOperationRequest)
    (moved : Int) : Prop where
  drawn : s.drawn request = some moved
  positive : 0 < moved
  ceiling : moved ≤ ceiling
  within : s.base s.today + moved ≤ s.config.dailyLimit
  sinks : s.balance - moved < s.config.minBalance

def Sinks (s : SimulatedAccount) (ceiling : Int) (request : UserOperationRequest) : Prop :=
  ∃ moved, s.Sinking ceiling request moved

/-- The account with its window charged. -/
def charged (s : SimulatedAccount) (moved : Int) : SimulatedAccount :=
  { s with window := ⟨s.today, s.base s.today + moved⟩ }

/-- The window after an execution that took `moved` is through. -/
def windowAfter (s : SimulatedAccount) (moved : Int) : DayWindow :=
  if 0 < moved then (s.charged moved).window else s.window

/-- What is left of a send that went through. -/
structure Paid (s : SimulatedAccount) (moved : Int) (s' : SimulatedAccount) : Prop where
  address : s'.address = s.address
  config : s'.config = s.config
  allowed : s'.allowed = s.allowed
  clockMs : s'.clockMs = s.clockMs
  balance : s'.balance = s.balance - moved
  window : s'.window = s.windowAfter moved

/-- The three ends of a send under a ceiling. -/
inductive Sent (s : SimulatedAccount) (ceiling : Int) (request : UserOperationRequest) :
    SimulatedAccount → Except SimulatedError Text → Prop
  | refused (e : SimulatedError) (safe : ¬ s.Sinks ceiling request) :
      Sent s ceiling request s (.error e)
  | sunk (e : SimulatedError) (moved : Int) (sinking : s.Sinking ceiling request moved) :
      Sent s ceiling request (s.charged moved) (.error e)
  | through (txHash : Text) (moved : Int) {s' : SimulatedAccount} (paid : s.Paid moved s')
      (safe : ¬ s.Sinks ceiling request) : Sent s ceiling request s' (.ok txHash)

variable {s executed : SimulatedAccount} {data target : Text} {moved : Int}

theorem applyAmount_eq_ok {index : Nat} (applied : s.applyAmount data index = .ok (executed, moved)) :
    executed = { s with balance := s.balance - moved } := by
  obtain ⟨amount, -, applied⟩ := bind_eq_ok_iff.mp applied
  rw [thrown, guard_eq_ok_iff] at applied
  cases applied.2
  rfl

theorem applyRouterPull_eq_ok (applied : s.applyRouterPull data target = .ok (executed, moved)) :
    executed = { s with balance := s.balance - moved } := by
  obtain ⟨intent, -, applied⟩ := bind_eq_ok_iff.mp applied
  split_ifs at applied
  · cases applied
    simp
  · cases applied
    rfl

/-- The execution changes the balance, by what it says. -/
theorem applyTransfer_eq_ok (applied : s.applyTransfer data target = .ok (executed, moved)) :
    executed = { s with balance := s.balance - moved } := by
  unfold applyTransfer at applied
  dsimp only at applied
  split_ifs at applied
  · exact applyRouterPull_eq_ok applied
  · exact applyAmount_eq_ok applied
  · obtain ⟨holder, -, applied⟩ := bind_eq_ok_iff.mp applied
    split_ifs at applied
    · exact applyAmount_eq_ok applied
    · cases applied
      simp
  · cases applied
    simp

/-- The measured outflow of an execution that took `moved`. -/
theorem outflow_eq (balance moved : Int) :
    (if balance > balance - moved then balance - (balance - moved) else 0) =
      if 0 < moved then moved else 0 := by
  by_cases positive : 0 < moved
  · rw [if_pos (by omega), if_pos positive]
    omega
  · rw [if_neg (by omega), if_neg positive]

variable {request : UserOperationRequest} {ceiling : Int}

theorem not_sinks_of_drawn (drawn : s.drawn request = some moved)
    (safe : ¬ s.Sinking ceiling request moved) : ¬ s.Sinks ceiling request := by
  rintro ⟨other, sinking⟩
  obtain rfl : other = moved := Option.some.inj (sinking.drawn.symm.trans drawn)
  exact safe sinking

theorem not_sinks_of_none (drawn : s.drawn request = none) : ¬ s.Sinks ceiling request := by
  rintro ⟨moved, sinking⟩
  cases drawn.symm.trans sinking.drawn

/-- The exits of `postCheck` after an execution that took `moved`. -/
inductive Checked (s : SimulatedAccount) (moved : Int) :
    SimulatedAccount × Except PolicyRevert Unit → Prop
  | restored (e : PolicyRevert) (limited : 0 < moved → moved ≤ s.config.maxTransaction →
      ¬ s.base s.today + moved ≤ s.config.dailyLimit) : Checked s moved (s, .error e)
  | sunk (e : PolicyRevert) (positive : 0 < moved) (ceiling : moved ≤ s.config.maxTransaction)
      (within : s.base s.today + moved ≤ s.config.dailyLimit)
      (sinks : s.balance - moved < s.config.minBalance) :
      Checked s moved (s.charged moved, .error e)
  | passed (floats : ¬ s.balance - moved < s.config.minBalance) :
      Checked s moved
        ({ s with balance := s.balance - moved, window := s.windowAfter moved }, .ok ())

theorem postCheck_checked (s : SimulatedAccount) (moved : Int) :
    Checked s moved
      (({ s with balance := s.balance - moved } : SimulatedAccount).postCheck s.balance s.today) := by
  unfold postCheck
  dsimp only
  rw [outflow_eq, charge]
  by_cases positive : 0 < moved
  · rw [if_pos positive, if_pos positive]
    dsimp only
    by_cases above : moved > s.config.maxTransaction
    · rw [if_pos above]
      exact .restored _ fun _ ceiling => absurd above (not_lt.mpr ceiling)
    rw [if_neg above]
    have same : ({ s with balance := s.balance - moved } : SimulatedAccount).base s.today =
        s.base s.today := rfl
    rw [same]
    by_cases past : s.base s.today + moved > s.config.dailyLimit
    · rw [if_pos past]
      exact .restored _ fun _ _ => not_le.mpr past
    rw [if_neg past]
    dsimp only
    rw [checkFloor]
    by_cases low : s.balance - moved < s.config.minBalance
    · rw [if_pos low]
      exact .sunk _ positive (not_lt.mp above) (not_lt.mp past) low
    · rw [if_neg low]
      have passed := Checked.passed low
      rw [windowAfter, if_pos positive] at passed
      exact passed
  · rw [if_neg positive, if_neg (by decide)]
    dsimp only
    rw [checkFloor]
    by_cases low : s.balance - moved < s.config.minBalance
    · rw [if_pos low]
      exact .restored _ fun taken => absurd taken positive
    · rw [if_neg low]
      have passed := Checked.passed low
      rw [windowAfter, if_neg positive] at passed
      exact passed

/-- Every exit of `sendUnchecked`. -/
theorem sendUnchecked_sent (keccak256 : Text → Text) (s : SimulatedAccount)
    (request : UserOperationRequest) :
    s.Sent s.config.maxTransaction request (s.sendUnchecked keccak256 request).1
      (s.sendUnchecked keccak256 request).2 := by
  unfold sendUnchecked
  cases checked : s.preCheck request with
  | error e => exact .refused e (not_sinks_of_none (by simp only [drawn, checked]))
  | ok target =>
      dsimp only
      cases applied : s.applyTransfer request.data target with
      | error e => exact .refused _ (not_sinks_of_none (by simp only [drawn, checked, applied]))
      | ok result =>
          obtain ⟨executed, moved⟩ := result
          obtain rfl := applyTransfer_eq_ok applied
          have draws : s.drawn request = some moved := by simp only [drawn, checked, applied]
          have exit := postCheck_checked s moved
          dsimp only
          generalize SimulatedAccount.postCheck _ s.balance s.today = result at exit
          cases exit with
          | restored e limited =>
              refine .refused _ (not_sinks_of_drawn draws fun sinking => ?_)
              exact limited sinking.positive sinking.ceiling sinking.within
          | sunk e positive ceiling within sinks =>
              exact .sunk _ moved ⟨draws, positive, ceiling, within, sinks⟩
          | passed floats =>
              refine .through _ moved ⟨rfl, rfl, rfl, rfl, rfl, rfl⟩ ?_
              exact not_sinks_of_drawn draws fun sinking => floats sinking.sinks

/-! ## The owner's ceiling -/

section Ceiling

variable (c : Int)

theorem applyTransfer_withCeiling (s : SimulatedAccount) (data target : Text) :
    (s.withCeiling c).applyTransfer data target =
      (s.applyTransfer data target).map fun result => (result.1.withCeiling c, result.2) := by
  have amount (index : Nat) : (s.withCeiling c).applyAmount data index =
      (s.applyAmount data index).map fun result => (result.1.withCeiling c, result.2) := by
    unfold applyAmount
    cases readWord data index with
    | error e => rfl
    | ok amount =>
        have balance : (s.withCeiling c).balance = s.balance := rfl
        simp only [bind, Except.bind, balance]
        split_ifs <;> rfl
  have pull : (s.withCeiling c).applyRouterPull data target =
      (s.applyRouterPull data target).map fun result => (result.1.withCeiling c, result.2) := by
    unfold applyRouterPull
    simp only [withCeiling]
    cases createDefaultRegistry.decode ⟨target, data, 0⟩ ⟨s.address, s.config.asset⟩ with
    | error e => rfl
    | ok intent =>
        simp only [bind, Except.bind]
        split_ifs <;> rfl
  have asset : (s.withCeiling c).config.asset = s.config.asset := rfl
  unfold applyTransfer
  dsimp only
  rw [pull, amount, amount, asset]
  split_ifs
  · rfl
  · rfl
  · cases readAddress data 0 with
    | error e => rfl
    | ok holder =>
        have own : (s.withCeiling c).address = s.address := rfl
        simp only [bind, Except.bind, own]
        split_ifs <;> rfl
  · rfl

theorem drawn_withCeiling (s : SimulatedAccount) (request : UserOperationRequest) :
    (s.withCeiling c).drawn request = s.drawn request := by
  have check : (s.withCeiling c).preCheck request = s.preCheck request := rfl
  unfold drawn
  rw [check]
  cases s.preCheck request with
  | error e => rfl
  | ok target =>
      dsimp only
      rw [applyTransfer_withCeiling]
      cases s.applyTransfer request.data target with
      | error e => rfl
      | ok result => rfl

theorem sinking_withCeiling :
    (s.withCeiling c).Sinking ceiling request moved ↔ s.Sinking ceiling request moved := by
  constructor
  · intro sinking
    exact ⟨by rw [← drawn_withCeiling c, sinking.drawn], sinking.positive, sinking.ceiling,
      sinking.within, sinking.sinks⟩
  · intro sinking
    exact ⟨by rw [drawn_withCeiling, sinking.drawn], sinking.positive, sinking.ceiling,
      sinking.within, sinking.sinks⟩

end Ceiling

/-- Every exit of `sendAsOwner`, whose ceiling is the daily limit. -/
theorem sendAsOwner_sent (keccak256 : Text → Text) (s : SimulatedAccount)
    (request : UserOperationRequest) :
    s.Sent s.config.dailyLimit request (s.sendAsOwner keccak256 request).1
      (s.sendAsOwner keccak256 request).2 := by
  have sent := sendUnchecked_sent keccak256 (s.withCeiling s.config.dailyLimit) request
  have same : ¬ (s.withCeiling s.config.dailyLimit).Sinks s.config.dailyLimit request →
      ¬ s.Sinks s.config.dailyLimit request := by
    rintro safe ⟨moved, sinking⟩
    exact safe ⟨moved, (sinking_withCeiling _).mpr sinking⟩
  unfold sendAsOwner
  generalize sendUnchecked keccak256 _ request = result at sent
  obtain ⟨s', answer⟩ := result
  cases sent with
  | refused e safe => exact .refused e (same safe)
  | sunk e moved sinking => exact .sunk e moved ((sinking_withCeiling _).mp sinking)
  | through txHash moved paid safe =>
      refine .through txHash moved ⟨paid.address, ?_, paid.allowed, paid.clockMs, paid.balance,
        paid.window⟩ (same safe)
      change ({ s'.config with maxTransaction := _ } : SimulatedConfig) = _
      rw [paid.config]
      rfl

end SimulatedAccount

/-! ## Sequences of calls -/

/-- A call of the account; the clock is moved forward. -/
inductive SimulatedCall
  | sendUnchecked (request : UserOperationRequest)
  | send (request : UserOperationRequest)
  | sendAsOwner (request : UserOperationRequest)
  | advance (ms : ℚ≥0)

/-- One call of a run: the account before and after it, and what a send answered. -/
structure SimulatedTurn where
  before : SimulatedAccount
  call : SimulatedCall
  after : SimulatedAccount
  answer : Option (Except SimulatedError Text)

namespace SimulatedCall

def apply (keccak256 : Text → Text) (s : SimulatedAccount) :
    SimulatedCall → SimulatedAccount × Option (Except SimulatedError Text)
  | sendUnchecked request => (s.sendUnchecked keccak256 request).map id some
  | send request => (s.send keccak256 request).map id some
  | sendAsOwner request => (s.sendAsOwner keccak256 request).map id some
  | advance ms => (s.advance ms, none)

/-- The turn a call makes. -/
def turn (keccak256 : Text → Text) (s : SimulatedAccount) (call : SimulatedCall) : SimulatedTurn :=
  ⟨s, call, (call.apply keccak256 s).1, (call.apply keccak256 s).2⟩

/-- The account after a sequence of calls, and its turns. -/
def run (keccak256 : Text → Text) (s : SimulatedAccount) :
    List SimulatedCall → SimulatedAccount × List SimulatedTurn
  | [] => (s, [])
  | call :: calls =>
      let next := call.turn keccak256 s
      let (s', turns) := run keccak256 next.after calls
      (s', next :: turns)

/-- The call is a send that charges the window and then finds the balance under the floor. -/
def Sinks (s : SimulatedAccount) : SimulatedCall → Prop
  | sendUnchecked request | send request => s.Sinks s.config.maxTransaction request
  | sendAsOwner request => s.Sinks s.config.dailyLimit request
  | advance _ => False

theorem run_concat (keccak256 : Text → Text) (s : SimulatedAccount) (calls : List SimulatedCall)
    (call : SimulatedCall) :
    run keccak256 s (calls ++ [call]) =
      let done := run keccak256 s calls
      let next := call.turn keccak256 done.1
      (next.after, done.2 ++ [next]) := by
  induction calls generalizing s with
  | nil => rfl
  | cons first calls ih =>
      rw [List.cons_append, run, ih]
      rfl

end SimulatedCall

namespace SimulatedTurn

def succeeds (t : SimulatedTurn) : Bool :=
  match t.answer with
  | some (.ok _) => true
  | _ => false

def throws (t : SimulatedTurn) : Bool :=
  match t.answer with
  | some (.error _) => true
  | _ => false

/-- How far the balance fell. -/
def outflow (t : SimulatedTurn) : Int :=
  if t.before.balance > t.after.balance then t.before.balance - t.after.balance else 0

/-- How far the day's total rose. -/
def raised (t : SimulatedTurn) : Int := t.after.base t.before.today - t.before.base t.before.today

/-- What a turn may look like. -/
inductive Shape : SimulatedTurn → Prop
  | refused {s : SimulatedAccount} {call : SimulatedCall} (e : SimulatedError)
      (safe : ¬ call.Sinks s) : Shape ⟨s, call, s, some (.error e)⟩
  | sunk {s : SimulatedAccount} {call : SimulatedCall} (e : SimulatedError) (moved : Int)
      (positive : 0 < moved) (sinks : call.Sinks s) :
      Shape ⟨s, call, s.charged moved, some (.error e)⟩
  | through {s s' : SimulatedAccount} {call : SimulatedCall} (txHash : Text) (moved : Int)
      (paid : s.Paid moved s') (safe : ¬ call.Sinks s) : Shape ⟨s, call, s', some (.ok txHash)⟩
  | advanced (s : SimulatedAccount) (ms : ℚ≥0) : Shape ⟨s, .advance ms, s.advance ms, none⟩

theorem Shape.of_sent {s s' : SimulatedAccount} {ceiling : Int} {request : UserOperationRequest}
    {answer : Except SimulatedError Text} {call : SimulatedCall}
    (sent : s.Sent ceiling request s' answer) (same : call.Sinks s = s.Sinks ceiling request) :
    Shape ⟨s, call, s', some answer⟩ := by
  cases sent with
  | refused e safe => exact .refused e (by rwa [same])
  | sunk e moved sinking =>
      exact .sunk e moved sinking.positive (by rw [same]; exact ⟨moved, sinking⟩)
  | through txHash moved paid safe => exact .through txHash moved paid (by rwa [same])

theorem shape (keccak256 : Text → Text) (s : SimulatedAccount) (call : SimulatedCall) :
    (call.turn keccak256 s).Shape := by
  cases call with
  | sendUnchecked request => exact .of_sent (s.sendUnchecked_sent keccak256 request) rfl
  | send request => exact .of_sent (s.sendUnchecked_sent keccak256 request) rfl
  | sendAsOwner request => exact .of_sent (s.sendAsOwner_sent keccak256 request) rfl
  | advance ms => exact .advanced s ms

/-- A send that throws leaves the account as it was exactly when it does not sink. -/
theorem Shape.restores_iff {t : SimulatedTurn} (shape : t.Shape) :
    (t.throws = true → t.after = t.before) ↔ ¬ t.call.Sinks t.before := by
  cases shape with
  | refused e safe => exact iff_of_true (fun _ => rfl) safe
  | @sunk s call e moved positive sinks =>
      refine iff_of_false (fun restores => ?_) (not_not.mpr sinks)
      have window : (s.charged moved).window = s.window :=
        congrArg SimulatedAccount.window (restores rfl)
      have day : s.today = s.window.day := congrArg DayWindow.day window
      have spent : s.base s.today + moved = s.window.spent := congrArg DayWindow.spent window
      rw [SimulatedAccount.base, if_pos day.symm] at spent
      omega
  | through txHash moved paid safe => exact iff_of_true (fun throws => by cases throws) safe
  | advanced s ms => exact iff_of_true (fun throws => by cases throws) fun sinks => sinks

end SimulatedTurn

/-- The list stays as the constructor made it. -/
theorem SimulatedTurn.Shape.allowed {t : SimulatedTurn} (shape : t.Shape) :
    t.after.allowed = t.before.allowed := by
  cases shape with
  | refused e safe => rfl
  | sunk e moved positive sinks => rfl
  | through txHash moved paid safe => exact paid.allowed
  | advanced s ms => rfl

/-! ## What the window holds -/

/-- The outflows of the successful sends of a day. -/
def paidOn (turns : List SimulatedTurn) (day : Int) : Int :=
  KeyedSum.total ((turns.filter SimulatedTurn.succeeds).map fun t => (t.before.today, t.outflow)) day

/-- What the throwing sends of a day left on its total. -/
def sunkOn (turns : List SimulatedTurn) (day : Int) : Int :=
  KeyedSum.total ((turns.filter SimulatedTurn.throws).map fun t => (t.before.today, t.raised)) day

theorem total_turns_concat (p : SimulatedTurn → Bool) (amount : SimulatedTurn → Int)
    (turns : List SimulatedTurn) (t : SimulatedTurn) (day : Int) :
    KeyedSum.total (((turns ++ [t]).filter p).map fun t => (t.before.today, amount t)) day =
      KeyedSum.total ((turns.filter p).map fun t => (t.before.today, amount t)) day +
        if p t ∧ t.before.today = day then amount t else 0 := by
  rw [List.filter_append, List.map_append, KeyedSum.total_append]
  cases kept : p t with
  | false => simp [kept]
  | true => simp [kept, KeyedSum.total_cons]

theorem paidOn_concat (turns : List SimulatedTurn) (t : SimulatedTurn) (day : Int) :
    paidOn (turns ++ [t]) day =
      paidOn turns day + if t.succeeds ∧ t.before.today = day then t.outflow else 0 :=
  total_turns_concat SimulatedTurn.succeeds SimulatedTurn.outflow turns t day

theorem sunkOn_concat (turns : List SimulatedTurn) (t : SimulatedTurn) (day : Int) :
    sunkOn (turns ++ [t]) day =
      sunkOn turns day + if t.throws ∧ t.before.today = day then t.raised else 0 :=
  total_turns_concat SimulatedTurn.throws SimulatedTurn.raised turns t day

/-- The window is of this day or an earlier one, and holds what its day paid and sank. -/
structure Tallied (s : SimulatedAccount) (turns : List SimulatedTurn) : Prop where
  forward : s.window.day ≤ s.today
  tallies : BucketLimit.Tallies ⟨s.window.day, s.window.spent⟩
    fun day => paidOn turns day + sunkOn turns day

namespace Tallied

variable {s s' : SimulatedAccount} {turns : List SimulatedTurn} {t : SimulatedTurn}

/-- A turn that adds nothing to any day, and leaves the window alone. -/
theorem keep (tallied : Tallied s turns) (window : s'.window = s.window)
    (clock : s.today ≤ s'.today)
    (nothing : ∀ day, paidOn (turns ++ [t]) day + sunkOn (turns ++ [t]) day =
      paidOn turns day + sunkOn turns day) : Tallied s' (turns ++ [t]) where
  forward := by
    rw [window]
    exact tallied.forward.trans clock
  tallies := by
    rw [window, funext nothing]
    exact tallied.tallies

/-- A turn that charges `moved` to the day. -/
theorem charge (tallied : Tallied s turns) {moved : Int}
    (window : s'.window = (s.charged moved).window) (clock : s'.today = s.today)
    (added : ∀ day, paidOn (turns ++ [t]) day + sunkOn (turns ++ [t]) day =
      paidOn turns day + sunkOn turns day + if s.today = day then moved else 0) :
    Tallied s' (turns ++ [t]) where
  forward := by rw [window, clock]; rfl
  tallies := by
    rw [window, funext added]
    exact tallied.tallies.charge tallied.forward moved

/-- Every turn keeps the tally. -/
theorem turn (tallied : Tallied t.before turns) (shape : t.Shape) :
    Tallied t.after (turns ++ [t]) := by
  cases shape with
  | @refused s call e safe =>
      refine tallied.keep rfl le_rfl fun day => ?_
      rw [paidOn_concat, sunkOn_concat]
      simp [SimulatedTurn.succeeds, SimulatedTurn.raised]
  | @sunk s call e moved positive sinks =>
      refine tallied.charge rfl rfl fun day => ?_
      have raised : (s.charged moved).base s.today - s.base s.today = moved := by
        rw [SimulatedAccount.base, SimulatedAccount.charged, if_pos rfl]
        exact add_sub_cancel_left _ _
      rw [paidOn_concat, sunkOn_concat]
      simp only [SimulatedTurn.succeeds, SimulatedTurn.throws, SimulatedTurn.raised, raised,
        Bool.false_eq_true, false_and, if_false, true_and, add_zero, add_assoc]
  | @through s s' call txHash moved paid safe =>
      have clock : s'.today = s.today := by
        rw [SimulatedAccount.today, SimulatedAccount.today, paid.clockMs]
      have outflow : (if s.balance > s'.balance then s.balance - s'.balance else 0) =
          if 0 < moved then moved else 0 := by
        rw [paid.balance, SimulatedAccount.outflow_eq]
      by_cases positive : 0 < moved
      · rw [if_pos positive] at outflow
        have charged : s'.window = (s.charged moved).window := by
          rw [paid.window, SimulatedAccount.windowAfter, if_pos positive]
        refine tallied.charge charged clock fun day => ?_
        rw [paidOn_concat, sunkOn_concat]
        simp only [SimulatedTurn.succeeds, SimulatedTurn.throws, SimulatedTurn.outflow, outflow,
          Bool.false_eq_true, false_and, if_false, true_and, add_zero]
        exact add_right_comm _ _ _
      · rw [if_neg positive] at outflow
        refine tallied.keep ?_ clock.ge fun day => ?_
        · rw [paid.window, SimulatedAccount.windowAfter, if_neg positive]
        · rw [paidOn_concat, sunkOn_concat]
          simp [SimulatedTurn.succeeds, SimulatedTurn.throws, SimulatedTurn.outflow, outflow]
  | advanced s ms =>
      refine tallied.keep rfl ?_ fun day => ?_
      · refine Int.floor_le_floor ?_
        have later : s.clockMs ≤ s.clockMs + ms := le_add_of_nonneg_right ms.2
        gcongr
        exact later
      · rw [paidOn_concat, sunkOn_concat]
        simp [SimulatedTurn.succeeds, SimulatedTurn.throws]

/-- A new account has an empty window. -/
theorem of_create {address : Text} {config : SimulatedConfig} {balance : Int} {nowMs : ℚ}
    (built : SimulatedAccount.create address config balance nowMs = .ok s) : Tallied s [] := by
  obtain ⟨allowed, -, built⟩ := bind_eq_ok_iff.mp built
  cases built
  exact ⟨le_rfl, rfl, fun day later => rfl⟩

end Tallied

section Runs

variable (keccak256 : Text → Text) {s : SimulatedAccount}

theorem shape_of_mem_run (calls : List SimulatedCall) {t : SimulatedTurn}
    (mem : t ∈ (SimulatedCall.run keccak256 s calls).2) : t.Shape := by
  induction calls using List.reverseRecOn with
  | nil => cases mem
  | append_singleton calls call ih =>
      rw [SimulatedCall.run_concat] at mem
      rcases List.mem_append.mp mem with before | last
      · exact ih before
      · rw [List.mem_singleton.mp last]
        exact SimulatedTurn.shape keccak256 _ call

theorem Tallied.run (tallied : Tallied s []) (calls : List SimulatedCall) :
    Tallied (SimulatedCall.run keccak256 s calls).1 (SimulatedCall.run keccak256 s calls).2 := by
  induction calls using List.reverseRecOn with
  | nil => exact tallied
  | append_singleton calls call ih =>
      rw [SimulatedCall.run_concat]
      exact @Tallied.turn _ (call.turn keccak256 (SimulatedCall.run keccak256 s calls).1) ih
        (SimulatedTurn.shape keccak256 _ call)

/-- The day's total is what its successful sends paid and its sunk ones left behind. -/
theorem spentToday_eq (tallied : Tallied s []) (calls : List SimulatedCall) :
    let done := SimulatedCall.run keccak256 s calls
    done.1.spentToday = paidOn done.2 done.1.today + sunkOn done.2 done.1.today := by
  have tallied := tallied.run keccak256 calls
  exact tallied.tallies.base_eq tallied.forward

theorem sunkOn_eq_zero {turns : List SimulatedTurn} (restored : ∀ t ∈ turns, t.throws = true →
    t.after = t.before) (day : Int) : sunkOn turns day = 0 := by
  have zeros : ∀ amount ∈ ((turns.filter SimulatedTurn.throws).map fun t =>
      (t.before.today, t.raised)).map Prod.snd, amount = 0 := by
    intro amount mem
    rw [List.map_map, List.mem_map] at mem
    obtain ⟨t, mem, rfl⟩ := mem
    obtain ⟨mem, throws⟩ := List.mem_filter.mp mem
    simp only [Function.comp_apply, SimulatedTurn.raised, restored t mem throws, sub_self]
  rw [sunkOn, KeyedSum.total]
  refine List.sum_eq_zero fun amount mem => zeros amount ?_
  obtain ⟨entry, kept, rfl⟩ := List.mem_map.mp mem
  exact List.mem_map_of_mem (List.mem_of_mem_filter kept)

/-- In any run of a new account every send that throws leaves everything as it was, and the day's
total is the sum of the outflows of its successful sends, exactly when no send of the run charges
the window and then finds the balance under the floor. -/
theorem reverts_restore_iff {address : Text} {config : SimulatedConfig} {balance : Int} {nowMs : ℚ}
    (built : SimulatedAccount.create address config balance nowMs = .ok s)
    (calls : List SimulatedCall) :
    let done := SimulatedCall.run keccak256 s calls
    ((∀ t ∈ done.2, t.throws = true → t.after = t.before) ∧
        done.1.spentToday = paidOn done.2 done.1.today) ↔
      ∀ t ∈ done.2, ¬ t.call.Sinks t.before := by
  intro done
  have total := spentToday_eq keccak256 (.of_create built) calls
  have restores {t : SimulatedTurn} (mem : t ∈ (SimulatedCall.run keccak256 s calls).2) :=
    (shape_of_mem_run keccak256 calls mem).restores_iff
  constructor
  · rintro ⟨restored, -⟩ t mem
    exact (restores mem).mp (restored t mem)
  · intro safe
    have restored : ∀ t ∈ done.2, t.throws = true → t.after = t.before :=
      fun t mem => (restores mem).mpr (safe t mem)
    refine ⟨restored, total.trans ?_⟩
    rw [sunkOn_eq_zero restored, add_zero]

end Runs

/-- A transfer of the asset to the one listed recipient. -/
def simulatedPayment (amount : Nat) : UserOperationRequest where
  account := addressText 0xA1
  toAddress := addressText 0x11
  data := SELECTOR_TRANSFER ++ fixedHex 64 0x22 ++ fixedHex 64 amount
  value := 0

/-- Limits of 50 and 100, a floor of 60, and 100 to begin with. -/
def simulatedSample : SimulatedAccount where
  address := addressText 0xA1
  config := ⟨addressText 0x11, 50, 100, 60, [addressText 0x22]⟩
  balance := 100
  window := ⟨0, 0⟩
  nonce := 0
  clockMs := 0
  allowed := [addressText 0x22, addressText 0x11]
  log := []

theorem create_simulatedSample : SimulatedAccount.create (addressText 0xA1)
    ⟨addressText 0x11, 50, 100, 60, [addressText 0x22]⟩ 100 0 = .ok simulatedSample := by
  decide +kernel

/-- One payment goes through; two are refused for the limits, on two days. -/
theorem reverts_restore_iff_simulatedSample :
    let done := SimulatedCall.run id simulatedSample [.send (simulatedPayment 30),
      .sendAsOwner (simulatedPayment 80), .advance 86400000, .send (simulatedPayment 60)]
    ((∀ t ∈ done.2, t.throws = true → t.after = t.before) ∧
        done.1.spentToday = paidOn done.2 done.1.today) ∧
      ∀ t ∈ done.2, ¬ t.call.Sinks t.before := by
  intro done
  have restored : (∀ t ∈ done.2, t.throws = true → t.after = t.before) ∧
      done.1.spentToday = paidOn done.2 done.1.today := by decide +kernel
  exact ⟨restored, (reverts_restore_iff id create_simulatedSample _).mp restored⟩

/-- A payment of 50 is within both limits, and refused for the floor; the day's total stays at 50
though nothing was paid. -/
theorem not_restores_simulatedSample :
    let done := SimulatedCall.run id simulatedSample [.sendUnchecked (simulatedPayment 50)]
    ¬ ((∀ t ∈ done.2, t.throws = true → t.after = t.before) ∧
      done.1.spentToday = paidOn done.2 done.1.today) := by
  decide +kernel

end Sdk

end AgentProof
