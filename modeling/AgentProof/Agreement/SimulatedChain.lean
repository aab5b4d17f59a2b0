import AgentProof.Agreement.DirectCall
import AgentProof.Lib.Runs

/-!
# The simulator beside the chain

One account, simulated and on the chain, through the same waits and the same calls
of its asset.  The demo shows what the simulator let through; replayed on the chain,
all of it goes through (`transcript_replays`).  Turn by turn the two give the same
answers and hold the same numbers, until a send is refused for the floor after its
outflow was counted: the chain takes that back and the simulator does not
(`lockstep_iff`).
-/

namespace AgentProof

namespace SideBySide

open AgentPolicyHook Sdk Runs

/-! ## Turns -/

/-- Time passes, or the account is to call its asset. -/
inductive Turn
  | wait (seconds : Nat)
  | send (calldata : Bytes)

/-- The account in the simulator, and the world with the one it stands for. -/
structure Twofold where
  simulated : SimulatedAccount
  world : World

/-- How long a turn takes. -/
def Turn.seconds : Turn → Nat
  | wait seconds => seconds
  | send _ => 0

/-- A wait, or a call whose effect depends on nobody else. -/
def Turn.Direct (account : Address) : Turn → Prop
  | wait _ => True
  | send calldata => ∃ party drawn, AgentProof.Direct account calldata party drawn

section Turns

variable (keccak256 : Text → Text) (account asset : Address)

/-- A turn of the simulator, and whether it was let through. -/
def Turn.simulate (s : SimulatedAccount) : Turn → SimulatedAccount × Bool
  | wait seconds => (s.advance (1000 * seconds), true)
  | send calldata =>
      let (s', answer) := s.sendUnchecked keccak256 (directRequest account asset calldata)
      (s', answer.isOk)

/-- A turn of the chain, and whether it was let through. -/
def Turn.execute (w : World) : Turn → World × Bool
  | wait seconds => (w.warp seconds, true)
  | send calldata =>
      match (directCall account asset calldata).run system [] w with
      | .ok (w', _) => (w', true)
      | .error _ => (w, false)

/-- The turn is a send that the simulator counts and then refuses for the floor. -/
def Turn.Sinks (s : SimulatedAccount) : Turn → Prop
  | wait _ => False
  | send calldata => s.Sinks s.config.maxTransaction (directRequest account asset calldata)

/-- Both take every turn. -/
def sideBySide (p : Twofold) (turn : Turn) : Option Twofold :=
  some ⟨(turn.simulate keccak256 account asset p.simulated).1,
    (turn.execute account asset p.world).1⟩

/-- The chain takes what the simulator let through, and must let it through as well. -/
def replaying (p : Twofold) (turn : Turn) : Option Twofold :=
  let (simulated, accepted) := turn.simulate keccak256 account asset p.simulated
  if accepted then
    let (world, executed) := turn.execute account asset p.world
    if executed then some ⟨simulated, world⟩ else none
  else some ⟨simulated, p.world⟩

/-- One balance, and one spend of the day. -/
structure Twofold.SameNumbers (p : Twofold) : Prop where
  balance : p.simulated.balance = p.world.balance asset account
  spent : p.simulated.spentToday = p.world.spent account (p.world.timestamp / 86400)

/-- The two answer a turn alike, and hold the same numbers after it. -/
structure Twofold.Agrees (p : Twofold) (turn : Turn) : Prop where
  answer : (turn.simulate keccak256 account asset p.simulated).2 =
    (turn.execute account asset p.world).2
  numbers : Twofold.SameNumbers account asset
    ⟨(turn.simulate keccak256 account asset p.simulated).1, (turn.execute account asset p.world).1⟩

/-- The turn is direct, and the clock counts milliseconds exactly to its end. -/
structure Twofold.InScope (p : Twofold) (turn : Turn) : Prop where
  direct : turn.Direct account
  clock : 1000 * (p.world.timestamp + turn.seconds) < 2 ^ 53

end Turns

/-! ## What the two have in common -/

/-- The simulated account stands for the one on the chain.  Of today and of the days to come, the
chain's spend is `R`-related to the simulator's. -/
structure Tracks (R : Int → Int → Prop) (account : Address) (c : Config) (targets : List Address)
    (p : Twofold) : Prop where
  lists : Lists p.simulated c.asset targets
  serving : Serving account c targets p.world
  maxTransaction : p.simulated.config.maxTransaction = c.maxTransaction.toNat
  dailyLimit : p.simulated.config.dailyLimit = c.dailyLimit.toNat
  minBalance : p.simulated.config.minBalance = c.minBalance.toNat
  balance : p.simulated.balance = p.world.balance c.asset account
  clock : ⌊p.simulated.clockMs / 1000⌋ = p.world.timestamp
  forward : p.simulated.window.day ≤ p.simulated.today
  spent : ∀ day, p.world.timestamp / 86400 ≤ day → day < 2 ^ 64 →
    R (p.world.spent account day) (p.simulated.base day)

namespace Tracks

variable {R : Int → Int → Prop} {account party : Address} {c : Config} {targets : List Address}
  {p : Twofold} {s' : SimulatedAccount} {w' : World} {calldata : Bytes} {drawn : Nat}

theorem today (tracks : Tracks R account c targets p) :
    p.simulated.today = (p.world.timestamp / 86400 : Nat) := by
  have split := Int.floor_div_natCast (p.simulated.clockMs / 1000) 86400
  rw [tracks.clock] at split
  exact split

theorem spentToday (tracks : Tracks R account c targets p)
    (clock : p.world.timestamp / 86400 < 2 ^ 64) :
    R (p.world.spent account (p.world.timestamp / 86400)) p.simulated.spentToday := by
  have related := tracks.spent _ le_rfl clock
  rwa [← tracks.today] at related

/-- A day after today has no spend yet in the simulator. -/
theorem base_later (tracks : Tracks R account c targets p) {day : Nat}
    (later : p.world.timestamp / 86400 < day) : p.simulated.base day = 0 := by
  have forward := tracks.forward
  rw [tracks.today] at forward
  exact if_neg (by omega)

theorem base_charged (tracks : Tracks R account c targets p) {moved : Int} {day : Nat}
    (since : p.world.timestamp / 86400 ≤ day) :
    (p.simulated.charged moved).base day =
      p.simulated.base day + if day = p.world.timestamp / 86400 then moved else 0 := by
  rw [SimulatedAccount.base, SimulatedAccount.charged]
  dsimp only
  rw [tracks.today]
  by_cases here : day = p.world.timestamp / 86400
  · rw [if_pos (by rw [here]), if_pos here, here]
  · rw [if_neg (by omega), if_neg here, tracks.base_later (by omega), add_zero]

theorem wait (tracks : Tracks R account c targets p) (seconds : Nat) :
    Tracks R account c targets ⟨p.simulated.advance (1000 * seconds), p.world.warp seconds⟩ where
  lists := ⟨tracks.lists.asset, tracks.lists.allowed⟩
  serving := ⟨tracks.serving.config, tracks.serving.allowed, tracks.serving.day.trans
    (Nat.div_le_div_right (Nat.le_add_right _ _)), tracks.serving.spent⟩
  maxTransaction := tracks.maxTransaction
  dailyLimit := tracks.dailyLimit
  minBalance := tracks.minBalance
  balance := tracks.balance
  clock := by
    have sum : (p.simulated.clockMs + 1000 * seconds) / 1000 =
        p.simulated.clockMs / 1000 + seconds := by ring
    rw [SimulatedAccount.advance, World.warp]
    dsimp only
    rw [sum, Int.floor_add_natCast, tracks.clock, Nat.cast_add]
  forward := by
    refine tracks.forward.trans (Int.floor_le_floor ?_)
    have later : p.simulated.clockMs ≤ p.simulated.clockMs + 1000 * seconds := by
      have nonneg : (0 : ℚ) ≤ 1000 * seconds := by positivity
      linarith
    rw [SimulatedAccount.advance]
    gcongr
  spent day since wide := by
    refine tracks.spent day (le_trans (Nat.div_le_div_right ?_) since) wide
    exact Nat.le_add_right _ _

/-- A call that both let through. -/
theorem through (tracks : Tracks R account c targets p)
    (adds : ∀ a b m : Int, R a b → R (a + m) (b + m)) (paid : p.simulated.Paid drawn s')
    (moved : Moved account c.asset c targets drawn p.world w') :
    Tracks R account c targets ⟨s', w'⟩ := by
  have clock : s'.today = p.simulated.today := by
    rw [SimulatedAccount.today, SimulatedAccount.today, paid.clockMs]
  refine ⟨⟨?_, ?_⟩, moved.serving, ?_, ?_, ?_, ?_, ?_, ?_, fun day since wide => ?_⟩
  · rw [paid.config, tracks.lists.asset]
  · rw [paid.allowed]
    exact tracks.lists.allowed
  · rw [paid.config, tracks.maxTransaction]
  · rw [paid.config, tracks.dailyLimit]
  · rw [paid.config, tracks.minBalance]
  · rw [paid.balance, moved.balance, tracks.balance]
  · rw [paid.clockMs, moved.timestamp, tracks.clock]
  · rw [clock, paid.window, SimulatedAccount.windowAfter]
    split_ifs
    · rfl
    · exact tracks.forward
  · rw [moved.timestamp] at since
    have related := tracks.spent day since wide
    rw [moved.spent day since wide]
    have base : s'.base day =
        p.simulated.base day + if day = p.world.timestamp / 86400 then (drawn : Int) else 0 := by
      rcases Nat.eq_zero_or_pos drawn with rfl | positive
      · have same : s'.window = p.simulated.window :=
          paid.window.trans (if_neg (by simp))
        simp [SimulatedAccount.base, same]
      · rw [← tracks.base_charged since, SimulatedAccount.base, paid.window,
          SimulatedAccount.windowAfter, if_pos (Nat.cast_pos.mpr positive)]
        rfl
    rw [base]
    have grown := adds _ _ (if day = p.world.timestamp / 86400 then (drawn : Int) else 0) related
    convert grown using 1
    split_ifs <;> simp

/-- A send that the simulator counted and refused, and that the chain does not see. -/
theorem sunk (tracks : Tracks (· ≤ ·) account c targets p) {moved : Int} (positive : 0 < moved) :
    Tracks (· ≤ ·) account c targets ⟨p.simulated.charged moved, p.world⟩ where
  lists := ⟨tracks.lists.asset, tracks.lists.allowed⟩
  serving := tracks.serving
  maxTransaction := tracks.maxTransaction
  dailyLimit := tracks.dailyLimit
  minBalance := tracks.minBalance
  balance := tracks.balance
  clock := tracks.clock
  forward := le_rfl
  spent day since wide := by
    have related := tracks.spent day since wide
    change _ ≤ (p.simulated.charged moved).base day
    rw [tracks.base_charged since]
    split_ifs
    · linarith
    · linarith

/-! ## Answers -/

section Answers

variable (keccak256 : Text → Text)

theorem held (tracks : Tracks R account c targets p) : 0 ≤ p.simulated.balance := by
  rw [tracks.balance]
  exact Nat.cast_nonneg _

/-- What the simulator lets through, the chain lets through, if it has not counted more. -/
theorem succeeds (tracks : Tracks (· ≤ ·) account c targets p) (sender : account ≠ 0)
    (direct : Direct account calldata party drawn) (clock : p.world.timestamp / 86400 < 2 ^ 64)
    (sent : ∃ txHash, (p.simulated.sendUnchecked keccak256
      (directRequest account c.asset calldata)).2 = .ok txHash) :
    Succeeds (directCall account c.asset calldata) p.world := by
  obtain ⟨listed, permits⟩ := (direct.sent_iff tracks.lists tracks.held keccak256).mp sent
  have spent := tracks.spentToday clock
  rw [SimulatedAccount.spentToday] at spent
  rw [SimulatedAccount.base, tracks.maxTransaction, tracks.dailyLimit, tracks.minBalance,
    tracks.balance] at permits
  refine (direct.succeeds_iff tracks.serving rfl clock).mpr ⟨sender, listed, permits.covered, ?_,
    permits.floor⟩
  intro positive
  obtain ⟨ceiling, within⟩ := permits.limits positive
  exact ⟨ceiling, by linarith⟩

/-- Where they have counted the same, they answer alike. -/
theorem succeeds_iff (tracks : Tracks Eq account c targets p) (sender : account ≠ 0)
    (direct : Direct account calldata party drawn) (clock : p.world.timestamp / 86400 < 2 ^ 64) :
    (∃ txHash, (p.simulated.sendUnchecked keccak256
        (directRequest account c.asset calldata)).2 = .ok txHash) ↔
      Succeeds (directCall account c.asset calldata) p.world := by
  have spent : p.simulated.base p.simulated.today = _ := (tracks.spentToday clock).symm
  rw [direct.sent_iff tracks.lists tracks.held, direct.succeeds_iff tracks.serving rfl clock, spent,
    tracks.maxTransaction, tracks.dailyLimit, tracks.minBalance, tracks.balance,
    and_iff_right sender]

end Answers

end Tracks

/-! ## One turn -/

section Step

variable {R : Int → Int → Prop} {account asset : Address} {c : Config} {targets : List Address}
  {p : Twofold} {keccak256 : Text → Text} {turn : Turn} {calldata : Bytes} {w : World}
  {s : SimulatedAccount}

/-- The ends of a send on the chain. -/
inductive Executed (account asset : Address) (calldata : Bytes) (w : World) : World × Bool → Prop
  | through {w' : World} {log : List Entry}
      (ran : (directCall account asset calldata).run system [] w = .ok (w', log)) :
      Executed account asset calldata w (w', true)
  | refused (fails : ¬ Succeeds (directCall account asset calldata) w) :
      Executed account asset calldata w (w, false)

theorem executed_send : Executed account asset calldata w
    ((Turn.send calldata).execute account asset w) := by
  rw [Turn.execute]
  cases ran : (directCall account asset calldata).run system [] w with
  | ok result => exact .through ran
  | error e =>
      refine .refused ?_
      rintro ⟨result, succeeded⟩
      cases ran.symm.trans succeeded

/-- The ends of a send in the simulator. -/
inductive Answered (keccak256 : Text → Text) (s : SimulatedAccount)
    (request : UserOperationRequest) : SimulatedAccount × Bool → Prop
  | through {moved : Int} {s' : SimulatedAccount}
      (sent : ∃ txHash, (s.sendUnchecked keccak256 request).2 = .ok txHash)
      (drawn : s.drawn request = some moved) (paid : s.Paid moved s')
      (safe : ¬ s.Sinks s.config.maxTransaction request) :
      Answered keccak256 s request (s', true)
  | refused (fails : ¬ ∃ txHash, (s.sendUnchecked keccak256 request).2 = .ok txHash)
      (safe : ¬ s.Sinks s.config.maxTransaction request) : Answered keccak256 s request (s, false)
  | sunk {moved : Int} (fails : ¬ ∃ txHash, (s.sendUnchecked keccak256 request).2 = .ok txHash)
      (sinking : s.Sinking s.config.maxTransaction request moved) :
      Answered keccak256 s request (s.charged moved, false)

theorem answered_send : Answered keccak256 s (directRequest account asset calldata)
    ((Turn.send calldata).simulate keccak256 account asset s) := by
  have ends := s.sendUnchecked_sent keccak256 (directRequest account asset calldata)
  have paid := @SimulatedAccount.sendUnchecked_paid s keccak256
    (directRequest account asset calldata)
  have through := @Answered.through keccak256 s (directRequest account asset calldata)
  have refused := @Answered.refused keccak256 s (directRequest account asset calldata)
  have sunk := @Answered.sunk keccak256 s (directRequest account asset calldata)
  rw [Turn.simulate]
  generalize s.sendUnchecked keccak256 (directRequest account asset calldata) = result
    at ends paid through refused sunk ⊢
  obtain ⟨s', answer⟩ := result
  cases ends with
  | refused e safe => exact refused (fun sent => by cases sent.choose_spec) safe
  | sunk e moved sinking => exact sunk (fun sent => by cases sent.choose_spec) sinking
  | through txHash moved _ safe =>
      obtain ⟨moved, drawn, paid⟩ := paid rfl
      exact through ⟨txHash, rfl⟩ drawn paid safe

theorem Twofold.InScope.day (scope : p.InScope account turn) :
    p.world.timestamp / 86400 < 2 ^ 64 := by
  have clock := scope.clock
  omega

/-- A send that the simulator let through, on the chain. -/
theorem Tracks.both_through {party : Address} {drawn : Nat} {moved : Int} {s' : SimulatedAccount}
    {w' : World} {log : List Entry} (tracks : Tracks R account c targets p)
    (adds : ∀ a b m : Int, R a b → R (a + m) (b + m))
    (direct : Direct account calldata party drawn)
    (draws : p.simulated.drawn (directRequest account c.asset calldata) = some moved)
    (paid : p.simulated.Paid moved s')
    (ran : (directCall account c.asset calldata).run system [] p.world = .ok (w', log)) :
    Tracks R account c targets ⟨s', w'⟩ := by
  obtain ⟨-, -, rfl⟩ := (direct.drawn_iff tracks.lists tracks.held).mp draws
  exact tracks.through adds paid (direct.moved tracks.serving rfl ran)

/-- One turn of a replay. -/
theorem Tracks.replaying (tracks : Tracks (· ≤ ·) account c targets p) (sender : account ≠ 0)
    (scope : p.InScope account turn) :
    ∃ p', SideBySide.replaying keccak256 account c.asset p turn = some p' ∧
      Tracks (· ≤ ·) account c targets p' ∧
      p'.world.timestamp = p.world.timestamp + turn.seconds := by
  unfold SideBySide.replaying
  cases turn with
  | wait seconds => exact ⟨_, rfl, tracks.wait seconds, rfl⟩
  | send calldata =>
      obtain ⟨party, drawn, direct⟩ := scope.direct
      have answered := @answered_send account c.asset keccak256 calldata p.simulated
      have executed := @executed_send account c.asset calldata p.world
      generalize (Turn.send calldata).simulate keccak256 account c.asset p.simulated = left,
        (Turn.send calldata).execute account c.asset p.world = right at answered executed ⊢
      cases answered with
      | refused fails safe => exact ⟨_, rfl, tracks, rfl⟩
      | sunk fails sinking => exact ⟨_, rfl, tracks.sunk sinking.positive, rfl⟩
      | through sent draws paid safe =>
          cases executed with
          | refused fails => exact absurd (tracks.succeeds keccak256 sender direct scope.day sent) fails
          | through ran =>
              have adds (a b m : Int) (le : a ≤ b) : a + m ≤ b + m := Int.add_le_add_right le m
              have moved := direct.moved tracks.serving rfl ran
              exact ⟨_, rfl, tracks.both_through adds direct draws paid ran, moved.timestamp⟩

theorem Tracks.sameNumbers (tracks : Tracks Eq account c targets p)
    (clock : p.world.timestamp / 86400 < 2 ^ 64) : p.SameNumbers account c.asset :=
  ⟨tracks.balance, (tracks.spentToday clock).symm⟩

/-- Where the two have counted the same, they agree on a turn that does not sink, and still have
counted the same after it. -/
theorem Tracks.sideBySide (tracks : Tracks Eq account c targets p) (sender : account ≠ 0)
    (scope : p.InScope account turn) (safe : ¬ turn.Sinks account c.asset p.simulated) :
    p.Agrees keccak256 account c.asset turn ∧
      Tracks Eq account c targets ⟨(turn.simulate keccak256 account c.asset p.simulated).1,
        (turn.execute account c.asset p.world).1⟩ := by
  cases turn with
  | wait seconds =>
      have after := tracks.wait seconds
      have clock : (p.world.timestamp + seconds) / 86400 < 2 ^ 64 := by
        have bound : 1000 * (p.world.timestamp + seconds) < 2 ^ 53 := scope.clock
        omega
      exact ⟨⟨rfl, after.sameNumbers clock⟩, after⟩
  | send calldata =>
      obtain ⟨party, drawn, direct⟩ := scope.direct
      have same := tracks.succeeds_iff keccak256 sender direct scope.day
      have answered := @answered_send account c.asset keccak256 calldata p.simulated
      have executed := @executed_send account c.asset calldata p.world
      have numbers (after : Tracks Eq account c targets
          ⟨((Turn.send calldata).simulate keccak256 account c.asset p.simulated).1,
            ((Turn.send calldata).execute account c.asset p.world).1⟩)
          (answer : ((Turn.send calldata).simulate keccak256 account c.asset p.simulated).2 =
            ((Turn.send calldata).execute account c.asset p.world).2)
          (clock : ((Turn.send calldata).execute account c.asset p.world).1.timestamp =
            p.world.timestamp) : p.Agrees keccak256 account c.asset (.send calldata) :=
        ⟨answer, after.sameNumbers (by rw [clock]; exact scope.day)⟩
      generalize (Turn.send calldata).simulate keccak256 account c.asset p.simulated = left,
        (Turn.send calldata).execute account c.asset p.world = right
        at answered executed numbers ⊢
      cases answered with
      | sunk fails sinking => exact absurd ⟨_, sinking⟩ safe
      | refused fails _ =>
          cases executed with
          | through ran => exact absurd (same.mpr ⟨_, ran⟩) fails
          | refused fails => exact ⟨numbers tracks rfl rfl, tracks⟩
      | through sent draws paid _ =>
          cases executed with
          | refused fails => exact absurd (same.mp sent) fails
          | through ran =>
              have adds (a b m : Int) (eq : a = b) : a + m = b + m := congrArg (· + m) eq
              have after := tracks.both_through adds direct draws paid ran
              have moved := direct.moved tracks.serving rfl ran
              exact ⟨numbers after rfl moved.timestamp, after⟩

/-- After a send that sank the two have not counted the same. -/
theorem Tracks.not_agrees (tracks : Tracks Eq account c targets p)
    (scope : p.InScope account turn) (sinks : turn.Sinks account c.asset p.simulated) :
    ¬ p.Agrees keccak256 account c.asset turn := by
  rcases turn with seconds | calldata
  · exact sinks.elim
  rintro ⟨answer, -, spent⟩
  have answered := @answered_send account c.asset keccak256 calldata p.simulated
  have executed := @executed_send account c.asset calldata p.world
  generalize (Turn.send calldata).simulate keccak256 account c.asset p.simulated = left,
    (Turn.send calldata).execute account c.asset p.world = right
    at answered executed answer spent
  cases answered with
  | through _ _ _ safe => exact safe sinks
  | refused _ safe => exact safe sinks
  | @sunk moved fails sinking =>
      cases executed with
      | through ran => cases answer
      | refused fails =>
          have grown : (p.simulated.charged moved).base p.simulated.today = _ := spent
          have counted : (_ : Int) = p.simulated.base p.simulated.today :=
            tracks.spentToday scope.day
          have positive := sinking.positive
          rw [tracks.today, tracks.base_charged le_rfl, if_pos rfl] at grown
          rw [tracks.today] at counted
          dsimp only at grown
          omega

end Step

/-! ## From the start -/

/-- The simulator's configuration of an installed one. -/
def simulatedConfig (c : Config) (targets : List Address) : SimulatedConfig :=
  ⟨addressText c.asset, c.maxTransaction.toNat, c.dailyLimit.toNat, c.minBalance.toNat,
    targets.map addressText⟩

/-- Both have just been set up, with the same configuration and balance.

* Their clocks agree: the simulator's milliseconds, rounded down to seconds, are the time of
  the block.
* The targets of the install list the asset, which the simulator lets through in any case and
  the hook does not. -/
structure Opened (account : Address) (c : Config) (targets : List Address) (p : Twofold) : Prop where
  installed : ∃ (start : World) (data : Bytes) (events : List Event),
    SameFor account .initial start.hook ∧
    start.act (.hook account (.onInstall data)) = .ok (p.world, events) ∧
    decodeInstallData data = .ok (c, targets)
  created : ∃ nowMs, SimulatedAccount.create (addressText account) (simulatedConfig c targets)
      (p.world.balance c.asset account) nowMs = .ok p.simulated ∧
    ⌊nowMs / 1000⌋ = p.world.timestamp
  listed : c.asset ∈ targets
  sender : account ≠ 0

theorem Opened.tracks {R : Int → Int → Prop} {account : Address} {c : Config}
    {targets : List Address} {p : Twofold} (opened : Opened account c targets p) (start : R 0 0) :
    Tracks R account c targets p := by
  obtain ⟨⟨before, data, events, fresh, acted, decodes⟩, ⟨nowMs, built, clock⟩, listed, -⟩ := opened
  have serving := serving_of_install fresh acted decodes
  obtain ⟨hook, called, world⟩ := World.act_hook_eq_ok acted
  have lists := Lists.of_create listed rfl rfl built
  have window : p.world.hook.window account = .zero := by
    obtain ⟨-, _, _, -, rfl, -⟩ := onInstall_eq_ok_iff.mp called
    rw [world]
    exact fresh.window
  obtain ⟨allowed, -, created⟩ := bind_eq_ok_iff.mp built
  rw [Except.ok.injEq] at created
  have same : p.simulated.window = ⟨p.simulated.today, 0⟩ := by
    rw [← created]
    rfl
  refine ⟨lists, serving, ?_, ?_, ?_, ?_, ?_, ?_, fun day _ _ => ?_⟩
  · rw [← created]
    rfl
  · rw [← created]
    rfl
  · rw [← created]
    rfl
  · rw [← created]
  · rw [← created]
    exact clock
  · rw [same]
  · have counted : p.world.spent account day = 0 := by
      simp [World.spent, window, PolicyLib.Window.base, PolicyLib.Window.zero]
    have base : p.simulated.base day = 0 := by
      simp [SimulatedAccount.base, same]
    rw [counted, base]
    exact start

/-! ## Runs -/

section Runs

variable {R : Int → Int → Prop} {account : Address} {c : Config} {targets : List Address}
  {p q : Twofold} (keccak256 : Text → Text) {turns : List Turn}

/-- How long the turns take. -/
def elapsed (turns : List Turn) : Nat := (turns.map Turn.seconds).sum

theorem Tracks.replay (tracks : Tracks (· ≤ ·) account c targets p) (sender : account ≠ 0)
    (direct : ∀ turn ∈ turns, turn.Direct account)
    (clock : 1000 * (p.world.timestamp + elapsed turns) < 2 ^ 53) :
    ∃ q, Run (SideBySide.replaying keccak256 account c.asset) (fun _ _ => True) p turns q ∧
      Tracks (· ≤ ·) account c targets q ∧
      q.world.timestamp = p.world.timestamp + elapsed turns := by
  induction turns generalizing p with
  | nil => exact ⟨p, .nil, tracks, rfl⟩
  | cons turn turns ih =>
      have split : elapsed (turn :: turns) = turn.seconds + elapsed turns := List.sum_cons
      rw [split] at clock
      have scope : p.InScope account turn := ⟨direct turn List.mem_cons_self, by omega⟩
      obtain ⟨next, steps, tracks', later⟩ :=
        @Tracks.replaying _ _ _ _ keccak256 _ tracks sender scope
      obtain ⟨q, run, tracked, ends⟩ := ih tracks'
        (fun turn mem => direct turn (List.mem_cons_of_mem _ mem)) (by rw [later]; omega)
      refine ⟨q, .cons trivial steps run, tracked, ?_⟩
      rw [ends, later, split, Nat.add_assoc]

/-- All that the simulator lets through of any turns goes through on the chain as well, which is
left with the same balance, and with no more spent than the simulator counts. -/
theorem transcript_replays (opened : Opened account c targets p)
    (direct : ∀ turn ∈ turns, turn.Direct account)
    (clock : 1000 * (p.world.timestamp + elapsed turns) < 2 ^ 53) :
    ∃ q, Run (replaying keccak256 account c.asset) (fun _ _ => True) p turns q ∧
      q.simulated.balance = q.world.balance c.asset account ∧
      (q.world.spent account (q.world.timestamp / 86400) : Int) ≤ q.simulated.spentToday := by
  obtain ⟨q, run, tracked, ends⟩ := (opened.tracks le_rfl).replay keccak256 opened.sender direct clock
  exact ⟨q, run, tracked.balance, tracked.spentToday (by omega)⟩

/-- Turn by turn the simulator and the chain give the same answers and hold the same numbers,
exactly when no send of the run is counted by the simulator and then refused for the floor. -/
theorem lockstep_iff (opened : Opened account c targets p)
    (run : Run (sideBySide keccak256 account c.asset) (fun p => p.InScope account) p turns q) :
    Throughout (sideBySide keccak256 account c.asset) (fun p => p.InScope account)
        (fun p => p.Agrees keccak256 account c.asset) p turns ↔
      Throughout (sideBySide keccak256 account c.asset) (fun p => p.InScope account)
        (fun p turn => ¬ turn.Sinks account c.asset p.simulated) p turns := by
  refine run.throughout_congr (opened.tracks rfl : Tracks Eq account c targets p) ?_ ?_
  · intro p turn tracks scope
    constructor
    · intro agrees sinks
      exact tracks.not_agrees scope sinks agrees
    · intro safe
      exact (tracks.sideBySide opened.sender scope safe).1
  · intro p turn next tracks scope safe steps
    obtain rfl := Option.some.inj steps
    exact (tracks.sideBySide opened.sender scope safe).2

end Runs

/-! ## A floor of 950 -/

def floorConfig : Config := ⟨sampleAsset, 100, 500, 950, 0, true⟩

def floorTargets : List Address := [sampleAsset, 0x22]

def floorWorld : World :=
  (World.deployed sampleTokens 0).install sampleAccount floorConfig floorTargets

def floorSimulated : SimulatedAccount where
  address := addressText sampleAccount
  config := simulatedConfig floorConfig floorTargets
  balance := 1000
  window := ⟨0, 0⟩
  nonce := 0
  clockMs := 0
  allowed := [addressText sampleAsset, addressText 0x22]
  log := []

/-- A payment to the one payee. -/
def floorPayment (amount : Uint256) : Turn :=
  .send (Token.encodeCall ExecutionLib.transferSelector [(0x22 : Address).setWidth 256, amount])

theorem direct_floorPayment (amount : Uint256) : (floorPayment amount).Direct sampleAccount :=
  ⟨0x22, _, Direct.of_transfer (isTransfer_encodeCall 0x22 amount) (by simp) (by decide) (by decide)⟩

theorem opened_floor :
    Opened sampleAccount floorConfig floorTargets ⟨floorSimulated, floorWorld⟩ where
  installed := by
    have decodes : decodeInstallData (encodeInstallData floorConfig floorTargets) =
        .ok (floorConfig, floorTargets) :=
      decodeInstallData_encodeInstallData _ (by norm_num [floorTargets])
    have called : (World.deployed sampleTokens 0).callHook sampleAccount
        (.onInstall (encodeInstallData floorConfig floorTargets)) = .ok (_, _) :=
      onInstall_eq_ok_iff.mpr ⟨rfl, _, _, decodes, rfl, rfl⟩
    exact ⟨_, _, _, .rfl, bind_eq_ok_iff.mpr ⟨_, called, rfl⟩, decodes⟩
  created := ⟨0, by decide +kernel, by simp [floorWorld, World.install, World.deployed]⟩
  listed := by decide
  sender := by decide

/-- Eighty would go under the floor and is refused, though counted; thirty goes through. -/
theorem transcript_replays_floor :
    ∃ q, Run (replaying id sampleAccount floorConfig.asset) (fun _ _ => True)
        ⟨floorSimulated, floorWorld⟩ [floorPayment 80, .wait 60, floorPayment 30] q ∧
      q.simulated.balance = q.world.balance floorConfig.asset sampleAccount ∧
      (q.world.spent sampleAccount (q.world.timestamp / 86400) : Int) ≤
        q.simulated.spentToday := by
  have direct : ∀ turn ∈ [floorPayment 80, .wait 60, floorPayment 30],
      turn.Direct sampleAccount := by
    intro turn mem
    rcases List.mem_cons.mp mem with rfl | mem
    · exact direct_floorPayment 80
    rcases List.mem_cons.mp mem with rfl | mem
    · trivial
    · rw [List.mem_singleton.mp mem]
      exact direct_floorPayment 30
  have clock : 1000 * (floorWorld.timestamp +
      elapsed [floorPayment 80, .wait 60, floorPayment 30]) < 2 ^ 53 := by
    have start : floorWorld.timestamp = 0 := rfl
    have length : elapsed [floorPayment 80, .wait 60, floorPayment 30] = 60 := rfl
    rw [start, length]
    norm_num
  exact transcript_replays id opened_floor direct clock

/-- After the refused eighty the two no longer hold the same numbers. -/
theorem lockstep_iff_floor :
    ¬ Throughout (sideBySide id sampleAccount floorConfig.asset) (fun p => p.InScope sampleAccount)
      (fun p => p.Agrees id sampleAccount floorConfig.asset) ⟨floorSimulated, floorWorld⟩
      [floorPayment 80] := by
  have scope : Twofold.InScope sampleAccount ⟨floorSimulated, floorWorld⟩ (floorPayment 80) :=
    ⟨direct_floorPayment 80, by decide⟩
  intro agrees
  have safe := (lockstep_iff id opened_floor (.cons scope rfl .nil)).mp agrees
  refine safe [] _ [] _ rfl .nil ⟨80, ?_, ?_, ?_, ?_, ?_⟩
  all_goals decide +kernel

end SideBySide

end AgentProof
