import AgentProof.Contracts.Token
import AgentProof.Lib.Transaction

/-!
# Accounts, tokens and the hook together

The hook, the tokens and the block clock as one transaction system.  Anyone
may call the hook directly with any arguments, token balances may change in
any way a ledger can, and an account executes by the ERC-7579 sequence of
`preCheck`, an arbitrary body and `postCheck`.  Executions nest, calls may be
caught, and what reverts leaves no trace.
-/

namespace AgentProof

open AgentPolicyHook

structure World where
  hook : Storage
  tokens : Address → Erc20
  timestamp : Nat

/-- A direct call of the hook; the account's own address is its sender. -/
inductive HookCall
  | onInstall (data : Bytes)
  | onUninstall
  | preCheck (msgData : CalldataBytes)
  | postCheck (hookData : Bytes)

inductive Action
  | hook (sender : Address) (call : HookCall)
  /-- Anything that happens to token ledgers, or a revert. -/
  | token (effect : (Address → Erc20) → Except Revert (Address → Erc20))

/-- An execution by an account, with the calldata its hook is shown. -/
structure Execution where
  account : Address
  msgData : CalldataBytes

namespace World

def balance (w : World) (asset account : Address) : Nat := (w.tokens asset).balance account

def balanceOf (w : World) (asset account : Address) : Uint256 :=
  Token.balanceOf (w.tokens asset) account

@[simp] theorem toNat_balanceOf (w : World) (asset account : Address) :
    (w.balanceOf asset account).toNat = w.balance asset account :=
  Token.toNat_balanceOf _ _

def callHook (w : World) (sender : Address) : HookCall → Except Revert (Storage × List Event)
  | .onInstall data => AgentPolicyHook.onInstall w.hook sender data
  | .onUninstall => .ok (AgentPolicyHook.onUninstall w.hook sender)
  | .preCheck msgData => do
      let _ ← AgentPolicyHook.preCheck w.hook w.balanceOf w.timestamp sender msgData
      .ok (w.hook, [])
  | .postCheck hookData => AgentPolicyHook.postCheck w.hook w.balanceOf sender hookData

def act (action : Action) (w : World) : Except Revert (World × List Event) :=
  match action with
  | .hook sender call => do
      let (hook, events) ← w.callHook sender call
      .ok ({ w with hook := hook }, events)
  | .token effect => do
      let tokens ← effect w.tokens
      .ok ({ w with tokens := tokens }, [])

def preCheck (b : Execution) (w : World) : Except Revert Bytes :=
  AgentPolicyHook.preCheck w.hook w.balanceOf w.timestamp b.account b.msgData

def postCheck (b : Execution) (hookData : Bytes) (w : World) :
    Except Revert (World × List Event) := do
  let (hook, events) ← AgentPolicyHook.postCheck w.hook w.balanceOf b.account hookData
  .ok ({ w with hook := hook }, events)

def warp (seconds : Nat) (w : World) : World := { w with timestamp := w.timestamp + seconds }

theorem act_hook_eq_ok {w w' : World} {sender : Address} {call : HookCall} {events : List Event}
    (acted : w.act (.hook sender call) = .ok (w', events)) :
    ∃ hook, w.callHook sender call = .ok (hook, events) ∧ w' = { w with hook := hook } := by
  simp only [act, bind_eq_ok_iff, Prod.exists, Except.ok.injEq, Prod.mk.injEq] at acted
  obtain ⟨hook, _, called, rfl, rfl⟩ := acted
  exact ⟨hook, called, rfl⟩

theorem act_token_eq_ok {w w' : World}
    {effect : (Address → Erc20) → Except Revert (Address → Erc20)} {events : List Event}
    (acted : w.act (.token effect) = .ok (w', events)) :
    ∃ tokens, effect w.tokens = .ok tokens ∧ w' = { w with tokens := tokens } ∧ events = [] := by
  simp only [act, bind_eq_ok_iff, Except.ok.injEq, Prod.mk.injEq] at acted
  obtain ⟨tokens, effected, rfl, rfl⟩ := acted
  exact ⟨tokens, effected, rfl, rfl⟩

theorem postCheck_eq_ok {b : Execution} {hookData : Bytes} {w w' : World} {events : List Event}
    (checked : w.postCheck b hookData = .ok (w', events)) :
    ∃ hook, AgentPolicyHook.postCheck w.hook w.balanceOf b.account hookData = .ok (hook, events) ∧
      w' = { w with hook := hook } := by
  simp only [postCheck, bind_eq_ok_iff, Prod.exists, Except.ok.injEq, Prod.mk.injEq] at checked
  obtain ⟨hook, _, called, rfl, rfl⟩ := checked
  exact ⟨hook, called, rfl⟩

end World

/-- The transaction system of the hook and its tokens. -/
def system : Transaction.System World Action Execution Bytes (List Event) Revert Address Nat Nat
    where
  act := fun action w => w.act action
  enter := fun b w => w.preCheck b
  leave := fun b hookData w => w.postCheck b hookData
  scope := Execution.account
  tick := World.warp
  clock := World.timestamp
  act_clock {action w w' events} acted := by
    cases action with
    | hook sender call =>
        obtain ⟨hook, -, rfl⟩ := World.act_hook_eq_ok acted
        rfl
    | token effect =>
        obtain ⟨tokens, -, rfl, -⟩ := World.act_token_eq_ok acted
        rfl
  leave_clock {b hookData w w' events} checked := by
    obtain ⟨hook, -, rfl⟩ := World.postCheck_eq_ok checked
    rfl

abbrev Call := Transaction.Call Action Execution
abbrev Entry := Transaction.Entry World Action Execution (List Event)
abbrev Step := Transaction.Step Action Execution Nat

/-- The world after a run, and what took effect in it. -/
def run (steps : List Step) (w : World) : World × List Entry := Transaction.run system steps w

/-- The world when the hook has just been deployed. -/
def World.deployed (tokens : Address → Erc20) (timestamp : Nat) : World :=
  ⟨.initial, tokens, timestamp⟩

/-- Direct calls of the hook, one after another, each a transaction of its own. -/
def hookCalls (calls : List (Address × HookCall)) : List Step :=
  calls.map fun (sender, call) => .tx (.act (.hook sender call))

/-- `sender` calls the token at `asset`. -/
def callToken (asset sender : Address) (calldata : Bytes) (tokens : Address → Erc20) :
    Except Revert (Address → Erc20) := do
  let l ← Token.exec (tokens asset) sender calldata
  .ok (Function.update tokens asset l)

/-- An execution whose body is one call of the token at `asset`. -/
def executeToken (b : Execution) (asset : Address) (calldata : Bytes) : Call :=
  .bracket b (.act (.token (callToken asset b.account calldata)))

/-- The calldata of a single execution of `calldata` on `asset`. -/
def tokenMsgData (asset : Address) (calldata : Bytes) : CalldataBytes :=
  .ofBytes (ExecutionLib.encodeExecute asset 0 calldata)

/-! ## Whose storage a call touches -/

/-- Nothing of `account` differs between two states of the hook. -/
structure SameFor (account : Address) (s s' : Storage) : Prop where
  config : s'.config account = s.config account
  window : s'.window account = s.window account
  allowedTarget : s'.allowedTarget account = s.allowedTarget account

theorem SameFor.rfl {account : Address} {s : Storage} : SameFor account s s := ⟨by rfl, by rfl, by rfl⟩

/-- `postCheck` writes nothing but the caller's window. -/
theorem postCheck_frame {s s' : Storage} {balanceOf : Address → Address → Uint256}
    {sender : Address} {hookData : Bytes} {events : List Event}
    (checked : AgentPolicyHook.postCheck s balanceOf sender hookData = .ok (s', events)) :
    s'.config = s.config ∧ s'.allowedTarget = s.allowedTarget ∧
      ∀ account, account ≠ sender → s'.window account = s.window account := by
  obtain ⟨-, _, _, _, -, -, still | charged⟩ := postCheck_eq_ok_iff.mp checked
  · obtain ⟨-, same, -⟩ := still
    subst same
    exact ⟨by rfl, by rfl, fun _ _ => by rfl⟩
  · obtain ⟨-, next, -, updated, -⟩ := charged
    subst updated
    exact ⟨by rfl, by rfl, fun account other => Function.update_of_ne other _ _⟩

/-- A call of the hook leaves the other accounts alone. -/
theorem callHook_frame {w : World} {sender account : Address} {call : HookCall} {s' : Storage}
    {events : List Event} (called : w.callHook sender call = .ok (s', events))
    (other : account ≠ sender) : SameFor account w.hook s' := by
  cases call with
  | onInstall data =>
      obtain ⟨-, c, targets, -, rfl, -⟩ := onInstall_eq_ok_iff.mp called
      exact ⟨Function.update_of_ne other _ _, by rfl, Function.update_of_ne other _ _⟩
  | onUninstall =>
      simp only [World.callHook, onUninstall, Except.ok.injEq, Prod.mk.injEq] at called
      obtain ⟨rfl, -⟩ := called
      exact ⟨Function.update_of_ne other _ _, Function.update_of_ne other _ _, by rfl⟩
  | preCheck msgData =>
      simp only [World.callHook, bind_eq_ok_iff, Except.ok.injEq, Prod.mk.injEq] at called
      obtain ⟨-, -, rfl, -⟩ := called
      exact .rfl
  | postCheck hookData =>
      obtain ⟨config, allowed, window⟩ := postCheck_frame called
      exact ⟨congrFun config account, window account other, congrFun allowed account⟩

/-! ## A sample world -/

def sampleAccount : Address := 0xacc0
def sampleAsset : Address := 0xa55e7
def sampleConfig : Config := ⟨sampleAsset, 100, 500, 10, 0, true⟩

/-- The account holds the whole supply of every token. -/
def sampleTokens : Address → Erc20 := fun _ => .issued sampleAccount 1000 (by norm_num)

/-- Deployed, and installed for the account with the asset and one payee. -/
def sampleWorld : World :=
  (run (hookCalls [(sampleAccount, .onInstall (encodeInstallData sampleConfig
    [sampleAsset, 0x22]))]) (.deployed sampleTokens 0)).1

end AgentProof
