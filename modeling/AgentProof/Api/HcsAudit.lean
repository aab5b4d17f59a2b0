import AgentProof.Lib.Runs
import AgentProof.Sdk.Privacy

/-!
# The audit queue

`x402/hcsAudit.ts`: records wait in a queue, and a flush submits them one after
another.  A flush runs without interruption to its next `await`; records come
while it awaits, while it is inside `submitMessage` and while it is inside the
logger, and its submission succeeds or fails at any time, also by throwing.  One
flush runs at a time, and while none runs nothing is left in the queue (`Drained`).
-/

namespace AgentProof

namespace Api

open Runs Sdk Js

structure HcsOptions where
  topicId : Text
  enabled : Bool

structure HcsReceipt where
  transactionId : Text
  sequenceNumber : Nat
  deriving DecidableEq, Repr

/-- The lines of the logger. -/
inductive HcsLogLine
  | published (sequenceNumber : Nat) (decision : Decision)
  | dropped (error : JsError)
  deriving DecidableEq, Repr

/-- Where a flush stands, with its record and what became of it. -/
inductive Flush
  | looping
  | calling (record : PublicAuditRecord)
  | awaiting (record : PublicAuditRecord)
  | resuming (record : PublicAuditRecord) (outcome : Except JsError HcsReceipt)
  | logging (record : PublicAuditRecord) (outcome : Except JsError HcsReceipt)
  | ended
  deriving DecidableEq

/-- Not at its end yet. -/
def Flush.active : Flush → Bool
  | ended => false
  | _ => true

/-- `submitMessage` was called, and what it gave has not settled. -/
def Flush.inFlight : Flush → Bool
  | calling _ | awaiting _ => true
  | _ => false

/-- The queue and the flag, every flush that got past the flag, and what the submitter and the logger
were given. -/
structure HcsAuditTrail where
  queue : List PublicAuditRecord
  flushing : Bool
  flushes : List Flush
  submitted : List (Text × Text)
  logged : List HcsLogLine
  deriving DecidableEq

inductive HcsEvent
  | record (record : PublicAuditRecord)
  | returns (i : Nat)
  | throws (i : Nat) (e : JsError)
  | settles (i : Nat) (outcome : Except JsError HcsReceipt)
  | resumes (i : Nat)
  /-- The logger answers. -/
  | logs (i : Nat) (answer : Except JsError Unit)

/-- `JSON.stringify(record)`. -/
def auditMessage (record : PublicAuditRecord) : Text :=
  let field (key value : Text) : Text := jsonString key ++ ":".toList ++ value
  "\x7b".toList ++ ",".toList.intercalate
    [field "policyHash".toList (jsonString record.policyHash),
      field "decision".toList (jsonString record.decision.text),
      field "decidedBy".toList (jsonString record.decidedBy),
      field "amountBucket".toList (jsonString record.amountBucket),
      field "commitment".toList (jsonString record.commitment),
      field "dayUtc".toList (toDecimal record.dayUtc)] ++ "\x7d".toList

/-- The arguments of `submitMessage`. -/
def HcsOptions.submission (o : HcsOptions) (record : PublicAuditRecord) : Text × Text :=
  (o.topicId, auditMessage record)

namespace HcsAuditTrail

def new : HcsAuditTrail := ⟨[], false, [], [], []⟩

variable (o : HcsOptions)

def moveTo (s : HcsAuditTrail) (i : Nat) (next : Flush) : HcsAuditTrail :=
  { s with flushes := s.flushes.set i next }

/-- `finally`. -/
def finish (s : HcsAuditTrail) (i : Nat) : HcsAuditTrail :=
  { s.moveTo i .ended with flushing := false }

/-- The head of the loop: nothing comes between the last look at the queue and `finally`. -/
def next (s : HcsAuditTrail) (i : Nat) : HcsAuditTrail :=
  match s.queue with
  | [] => s.finish i
  | record :: queue =>
      { s.moveTo i (.calling record) with
        queue := queue
        submitted := s.submitted ++ [o.submission record] }

def flush (s : HcsAuditTrail) : HcsAuditTrail :=
  if s.flushing then s
  else next o { s with flushing := true, flushes := s.flushes ++ [.looping] } s.flushes.length

def record (s : HcsAuditTrail) (record : PublicAuditRecord) : HcsAuditTrail :=
  if o.enabled then flush o { s with queue := s.queue ++ [record] } else s

def logLine (record : PublicAuditRecord) : Except JsError HcsReceipt → HcsLogLine
  | .ok receipt => .published receipt.sequenceNumber record.decision
  | .error e => .dropped e

/-- After the logger: what it throws is caught in the `try`, and leaves the loop in the `catch`. -/
def afterLog (s : HcsAuditTrail) (i : Nat) (record : PublicAuditRecord) :
    Except JsError HcsReceipt → Except JsError Unit → HcsAuditTrail
  | _, .ok () => next o s i
  | .ok _, .error e => s.moveTo i (.logging record (.error e))
  | .error _, .error _ => s.finish i

def step (s : HcsAuditTrail) : HcsEvent → Option HcsAuditTrail
  | .record r => some (record o s r)
  | .returns i =>
      match s.flushes[i]? with
      | some (.calling r) => some (s.moveTo i (.awaiting r))
      | _ => none
  | .throws i e =>
      match s.flushes[i]? with
      | some (.calling r) => some (s.moveTo i (.logging r (.error e)))
      | _ => none
  | .settles i outcome =>
      match s.flushes[i]? with
      | some (.awaiting r) => some (s.moveTo i (.resuming r outcome))
      | _ => none
  | .resumes i =>
      match s.flushes[i]? with
      | some (.resuming r outcome) => some (s.moveTo i (.logging r outcome))
      | _ => none
  | .logs i answer =>
      match s.flushes[i]? with
      | some (.logging r outcome) =>
          some (afterLog o { s with logged := s.logged ++ [logLine r outcome] } i r outcome answer)
      | _ => none

/-! ## What a flush keeps -/

/-- One flush is active while the flag is set, and none otherwise, when nothing is queued; and what
was submitted and what waits are what was recorded, in order. -/
structure Drained (recorded : List PublicAuditRecord) (s : HcsAuditTrail) : Prop where
  running : s.flushes.countP Flush.active = if s.flushing then 1 else 0
  idle : s.flushing = false → s.queue = []
  order : s.submitted ++ s.queue.map o.submission = recorded.map o.submission

variable {o} {s s' : HcsAuditTrail} {recorded : List PublicAuditRecord} {i : Nat} {f f' : Flush}

theorem countP_set {p : Flush → Bool} (at_i : s.flushes[i]? = some f) (next : Flush) :
    (s.flushes.set i next).countP p + (if p f then 1 else 0) =
      s.flushes.countP p + if p next then 1 else 0 := by
  obtain ⟨inside, here⟩ := List.getElem?_eq_some_iff.mp at_i
  have counted : p f = true → 0 < s.flushes.countP p := fun holds =>
    List.countP_pos_iff.mpr ⟨f, List.mem_of_getElem? at_i, holds⟩
  rw [List.countP_set inside, here]
  split_ifs at * <;> grind

namespace Drained

/-- A flush that goes on, without the queue. -/
theorem moveTo (drained : Drained o recorded s) (at_i : s.flushes[i]? = some f)
    (active : f.active = true) (still : f'.active = true) :
    Drained o recorded (s.moveTo i f') where
  running := by
    have count := countP_set (p := Flush.active) at_i f'
    rw [active, still] at count
    rw [HcsAuditTrail.moveTo, ← drained.running]
    exact Nat.add_right_cancel count
  idle := drained.idle
  order := drained.order

theorem flushing_of_active (drained : Drained o recorded s) (at_i : s.flushes[i]? = some f)
    (active : f.active = true) : s.flushing = true := by
  have counted : 0 < s.flushes.countP Flush.active :=
    List.countP_pos_iff.mpr ⟨f, List.mem_of_getElem? at_i, active⟩
  rw [drained.running] at counted
  by_contra off
  rw [if_neg off] at counted
  exact Nat.lt_irrefl 0 counted

/-- The head of the loop: a flush ends only when nothing is queued. -/
theorem next (drained : Drained o recorded s) (at_i : s.flushes[i]? = some f)
    (active : f.active = true) : Drained o recorded (next o s i) := by
  have running := drained.running
  have order := drained.order
  rw [drained.flushing_of_active at_i active, if_pos rfl] at running
  unfold HcsAuditTrail.next
  cases queued : s.queue with
  | nil =>
      have count := countP_set (p := Flush.active) at_i .ended
      rw [running, active] at count
      refine ⟨?_, fun _ => queued, order⟩
      exact Nat.add_right_cancel (m := 1) count
  | cons r queue =>
      have count := countP_set (p := Flush.active) at_i (.calling r)
      rw [running, active] at count
      rw [queued, List.map_cons] at order
      refine ⟨?_, fun off => ?_, ?_⟩
      · show (s.flushes.set i (.calling r)).countP Flush.active = if s.flushing then 1 else 0
        rw [drained.flushing_of_active at_i active]
        exact Nat.add_right_cancel count
      · cases off.symm.trans (drained.flushing_of_active at_i active)
      · rw [← order, List.append_assoc]
        rfl

/-- A record is queued, and a flush takes it unless one is running. -/
theorem record (drained : Drained o recorded s) (enabled : o.enabled = true)
    (r : PublicAuditRecord) : Drained o (recorded ++ [r]) (record o s r) := by
  have order : s.submitted ++ (s.queue ++ [r]).map o.submission =
      (recorded ++ [r]).map o.submission := by
    rw [List.map_append, List.map_append, ← drained.order, List.append_assoc]
  have running := drained.running
  rw [HcsAuditTrail.record, if_pos enabled, flush]
  split_ifs with busy
  · exact ⟨running, fun off => absurd (off.symm.trans busy) Bool.false_ne_true, order⟩
  · rw [if_neg busy] at running
    have started : Drained o (recorded ++ [r])
        { s with queue := s.queue ++ [r], flushing := true, flushes := s.flushes ++ [.looping] } := by
      refine ⟨?_, nofun, order⟩
      rw [List.countP_append, running]
      rfl
    exact started.next List.getElem?_concat_length rfl

end Drained

/-- The record of an event. -/
def recorded? : HcsEvent → Option PublicAuditRecord
  | .record r => some r
  | _ => none

/-- The logger does not throw. -/
def quiet : HcsEvent → Bool
  | .logs _ (.error _) => false
  | _ => true

/-- What an event does, where the logger does not throw. -/
inductive Moves (o : HcsOptions) (s : HcsAuditTrail) : HcsEvent → HcsAuditTrail → Prop
  | recorded (r : PublicAuditRecord) : Moves o s (.record r) (record o s r)
  | goesOn {e : HcsEvent} {i : Nat} {f f' : Flush} (at_i : s.flushes[i]? = some f)
      (active : f.active = true) (still : f'.active = true) (silent : recorded? e = none) :
      Moves o s e (s.moveTo i f')
  | loops {i : Nat} {r : PublicAuditRecord} {outcome : Except JsError HcsReceipt}
      (at_i : s.flushes[i]? = some (.logging r outcome)) :
      Moves o s (.logs i (.ok ())) (next o { s with logged := s.logged ++ [logLine r outcome] } i)

theorem moves_of_step {e : HcsEvent} (meets : quiet e = true) (steps : step o s e = some s') :
    Moves o s e s' := by
  cases e with
  | record r =>
      cases steps
      exact .recorded r
  -- the queue is not touched
  | returns i | throws i e | settles i outcome | resumes i =>
      simp only [step] at steps
      split at steps
      · next at_i =>
          cases steps
          exact .goesOn at_i rfl rfl rfl
      · cases steps
  | logs i answer =>
      cases answer with
      | error e => cases meets
      | ok done =>
          simp only [step] at steps
          split at steps
          · next r outcome at_i =>
              cases steps
              exact .loops at_i
          · cases steps

/-- Every event keeps the queue drained. -/
theorem Drained.moves (drained : Drained o recorded s) (enabled : o.enabled = true) {e : HcsEvent}
    (moves : Moves o s e s') : Drained o (recorded ++ [e].filterMap recorded?) s' := by
  cases moves with
  | recorded r => exact drained.record enabled r
  | goesOn at_i active still silent =>
      rw [List.filterMap_cons_none silent, List.filterMap_nil, List.append_nil]
      exact drained.moveTo at_i active still
  | @loops i r outcome at_i =>
      have logged : Drained o recorded { s with logged := s.logged ++ [logLine r outcome] } :=
        ⟨drained.running, drained.idle, drained.order⟩
      rw [List.filterMap_cons_none rfl, List.filterMap_nil, List.append_nil]
      exact logged.next at_i rfl

/-! ## Whole runs -/

/-- The events of a run whose logger does not throw. -/
abbrev Leads (o : HcsOptions) (events : List HcsEvent) (s : HcsAuditTrail) : Prop :=
  Run (step o) (fun _ e => quiet e = true) new events s

theorem drained_of_run (enabled : o.enabled = true) {events : List HcsEvent}
    (run : Leads o events s) : Drained o (events.filterMap recorded?) s := by
  refine @Run.history _ _ _ _ _ _ _ (fun events s => Drained o (events.filterMap recorded?) s) run
    ⟨rfl, fun _ => rfl, rfl⟩ ?_
  intro before e s₁ s₂ ran drained meets steps
  rw [List.filterMap_append]
  exact drained.moves enabled (moves_of_step meets steps)

/-- However records and the ends of submissions interleave: at most one submission is in flight, what
was submitted is a prefix of what was recorded, and whenever no flush is active, in flight or about to
go on, the queue is empty and everything recorded was submitted once, in order. -/
theorem submits_in_order (enabled : o.enabled = true) {events : List HcsEvent}
    (run : Leads o events s) :
    s.flushes.countP Flush.inFlight ≤ 1 ∧
      s.submitted <+: (events.filterMap recorded?).map o.submission ∧
      ((∀ f ∈ s.flushes, f.active = false) →
        s.queue = [] ∧ s.submitted = (events.filterMap recorded?).map o.submission) := by
  have drained := drained_of_run enabled run
  refine ⟨?_, ⟨s.queue.map o.submission, drained.order⟩, fun none_ => ?_⟩
  · have active : s.flushes.countP Flush.inFlight ≤ s.flushes.countP Flush.active :=
      List.countP_mono_left fun f _ flying => by cases f <;> first | rfl | cases flying
    refine active.trans ?_
    rw [drained.running]
    split_ifs
    · exact Nat.le_refl 1
    · exact Nat.zero_le 1
  · have off : s.flushing = false := by
      have count : s.flushes.countP Flush.active = 0 :=
        List.countP_eq_zero.mpr fun f mem active => by simp [none_ f mem] at active
      have running := drained.running
      rw [count] at running
      cases flushing : s.flushing with
      | false => rfl
      | true => simp [flushing] at running
    have order := drained.order
    rw [drained.idle off, List.map_nil, List.append_nil] at order
    exact ⟨drained.idle off, order⟩

def sampleAudit (dayUtc : Nat) : PublicAuditRecord where
  policyHash := "0xab".toList
  decision := .allow
  decidedBy := "none".toList
  amountBucket := "<1".toList
  commitment := "0xcd".toList
  dayUtc := dayUtc

/-- A second record comes while the first is being submitted; the first submission fails, and the
second throws. -/
def sampleAuditEvents : List HcsEvent :=
  [.record (sampleAudit 1), .returns 0, .record (sampleAudit 2), .settles 0 (.error ⟨[], []⟩),
    .resumes 0, .logs 0 (.ok ()), .throws 0 ⟨[], []⟩, .logs 0 (.ok ())]

theorem submits_in_order_sampleAuditEvents :
    let o : HcsOptions := ⟨"0.0.1".toList, true⟩
    let s : HcsAuditTrail := ⟨[], false, [.ended], [sampleAudit 1, sampleAudit 2].map o.submission,
      [.dropped ⟨[], []⟩, .dropped ⟨[], []⟩]⟩
    s.flushes.countP Flush.inFlight ≤ 1 ∧
      s.submitted <+: (sampleAuditEvents.filterMap recorded?).map o.submission ∧
      ((∀ f ∈ s.flushes, f.active = false) →
        s.queue = [] ∧ s.submitted = (sampleAuditEvents.filterMap recorded?).map o.submission) := by
  intro o s
  have run : Leads o sampleAuditEvents s := run_of_replay (by decide +kernel)
  exact submits_in_order rfl run

end HcsAuditTrail

end Api

end AgentProof
