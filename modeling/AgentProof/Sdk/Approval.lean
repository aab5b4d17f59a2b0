import AgentProof.Lib.OrderedMap
import AgentProof.Sdk.Execute
import AgentProof.Sdk.Privacy

/-!
# Approvers

`approval/index.ts`: on the dashboard requests wait under their id until they are
resolved or their timer fires, and what waits is up to the caller.  A hardware
device confirms with a signature, or the request is declined.
-/

namespace AgentProof

namespace Sdk

/-- Who waits, by the id of the request. -/
structure DashboardApprover (Waiter : Type) where
  pending : OrderedMap Text Waiter

namespace DashboardApprover

variable {Waiter : Type}

def request (approver : DashboardApprover Waiter) (id : Text) (waiter : Waiter) :
    DashboardApprover Waiter :=
  ⟨approver.pending.set id waiter⟩

/-- The timer of a request fires, or its resolution clears it. -/
def delete (approver : DashboardApprover Waiter) (id : Text) : DashboardApprover Waiter :=
  ⟨approver.pending.erase id⟩

/-- Who is waiting under the id, if anyone. -/
def resolve (approver : DashboardApprover Waiter) (id : Text) : Option Waiter :=
  approver.pending.get id

/-- Timing out is a denial. -/
def timeoutOutcome : ApprovalOutcome := ⟨false, none, "dashboard:timeout".toList⟩

end DashboardApprover

/-- What the device answers. -/
structure LedgerTransport where
  /-- Shows the text and returns a signature once confirmed. -/
  confirm : Text → Text → Except JsError Text
  address : Except JsError Text

/-- `LedgerApprover.request`: a device that declines or is not there is a denial. -/
def LedgerApprover.request (transport : LedgerTransport) (request : ApprovalRequest) :
    ApprovalOutcome :=
  let confirmed := do
    let signature ← transport.confirm (approvalScreenText request.intent) request.intent.raw.data
    let signer ← transport.address
    .ok (⟨true, some signature, "ledger:".toList ++ signer⟩ : ApprovalOutcome)
  match confirmed with
  | .ok outcome => outcome
  | .error _ => ⟨false, none, "ledger:declined".toList⟩

end Sdk

end AgentProof
