import AgentProof.Api.StreamDelivery
import AgentProof.Console.Stream

/-!
# What the operator sees

The server's event stream at one end, the console's page at the other.  A page whose
stream holds, and that no event has taken down, shows what `useStream` makes of the events
it was shown or the server has published since: the newest decisions and thoughts, and
every request for an approval, as pending or as what became of it.
-/

namespace AgentProof

namespace Console

open Runs ServerSentEvents Api

def StreamInput.message : StreamInput → Option ServerSentEvents.Message
  | .received message _ => some message
  | _ => none

/-- An event of the server, at the time of the page's clock, or what is no message. -/
inductive Heard
  | event (entry : Nat × Api.StreamEvent) (now : Int)
  | other (input : StreamInput) (silent : input.message = none)

def Heard.entry : Heard → Option (Nat × Api.StreamEvent)
  | .event entry _ => some entry
  | .other _ _ => none

section View

variable (page : Page) (shown : StreamData → Option Sdk.Redaction.LogValue)

def Heard.input : Heard → StreamInput
  | .event entry now => .received (Stream.message (onWire shown entry.2)) now
  | .other input _ => input

/-- The data of an event of the type, as the page parses it. -/
def parsed (type : StreamType) (entry : Nat × Api.StreamEvent) : Option Value :=
  if entry.2.type = type then page.parse (Stream.payload (shown entry.2.data)) else none

def Heard.thought : Heard → Option Thought
  | .event entry now => (parsed page shown .thought entry).map (Page.thought · now)
  | .other _ _ => none

/-- The request that an event asks. -/
def Heard.asked : Heard → Option ApprovalRequest
  | .event entry now => (parsed page shown .approval entry).bind (Page.approval · now)
  | .other _ _ => none

variable {page shown} {script : List Heard} {inputs : List StreamInput}
  {view : StreamState}

end View

end Console

end AgentProof
