import AgentProof.Sdk.Executors

/-!
# What the bundler executor broadcasts

`BundlerExecutor.submit` against a bundler, a node and a session key that answer
as they like.  One operation is broadcast at most: the draft whose estimate was
accepted, with every field that the answer to the estimate names replaced by what
it names, and the signature of the hash that was answered for that.  What follows
the broadcast are polls for its receipt, thirty at most; and a transaction hash
comes from a receipt that reports success.
-/

namespace AgentProof

namespace Sdk

open Js

abbrev BundlerExchange := Dialogue.Exchange BundlerQuestion BundlerQuestion.Answer

namespace BundlerQuestion

/-- What may be asked for the sake of a nonce. -/
def ForNonce : BundlerQuestion → Prop
  | .rpc .call _ | .rpc .getUserOperationNonce _ | .chainCall _ _ => True
  | _ => False

/-- What may be asked after a broadcast that was answered with this hash. -/
def Waiting (opHash : Option Json) (q : BundlerQuestion) : Prop :=
  q = .rpc .getUserOperationReceipt [opHash.getD .null] ∨ q = .setTimeout 2000

/-- A poll for a receipt. -/
def isPoll : BundlerQuestion → Bool
  | .rpc .getUserOperationReceipt _ => true
  | _ => false

/-- What is asked from the broadcast on. -/
def Late : BundlerQuestion → Prop
  | .rpc .sendUserOperation _ | .rpc .getUserOperationReceipt _ | .setTimeout _ => True
  | _ => False

end BundlerQuestion

namespace BundlerExecutor

open BundlerQuestion

variable {e : BundlerExecutor} {request : UserOperationRequest} {given : Option Text}

/-- No broadcast so far. -/
def Unsent (past : List BundlerExchange) : Prop := ∀ x ∈ past, ¬ x.1.Late

/-- The draft that was estimated, with the fields that the answer names put into it: any of
them, the sender and the calldata too. -/
inductive Estimated (e : BundlerExecutor) (request : UserOperationRequest) (given : Option Text) :
    List BundlerExchange → UserOp → Prop
  | intro {front : List BundlerExchange} {nonce : Option Json} {callData : Text}
      {body : Except JsError Json} {estimated : Option Json}
      (quiet : ∀ x ∈ front, x.1.ForNonce) (numbered : ∀ n, given = some n → nonce = some (.str n))
      (encoded : Executors.encodeRequest request = .ok callData)
      (accepted : e.readReply body = .ok estimated) :
      Estimated e request given
        (front ++ [⟨.rpc .estimateUserOperationGas [(e.draft nonce callData).wire,
          .str e.entryPoint], body⟩])
        ((e.draft nonce callData).assign estimated)

/-- The operation that was hashed: with the hash the session key is to sign. -/
inductive Hashed (e : BundlerExecutor) (request : UserOperationRequest) (given : Option Text) :
    List BundlerExchange → UserOp → Option Json → Prop
  | intro {past : List BundlerExchange} {op : UserOp} (estimated : Estimated e request given past op)
      (reply : Except JsError Json) :
      Hashed e request given
        (past ++ [⟨.rpc .getUserOperationHash [op.wire, .str e.entryPoint], reply⟩]) op
        (e.hashOf op reply)

/-- The operation that is ready for the broadcast. -/
inductive Signed (e : BundlerExecutor) (request : UserOperationRequest) (given : Option Text) :
    List BundlerExchange → UserOp → Prop
  | intro {past : List BundlerExchange} {op : UserOp} {hash : Option Json} {signature : Text}
      (hashed : Hashed e request given past op hash) :
      Signed e request given (past ++ [⟨.signUserOpHash hash, .ok signature⟩]) (op.signed signature)

/-- The operation that was broadcast, with the hash that came back, and what was
asked since. -/
inductive Sent (e : BundlerExecutor) (request : UserOperationRequest) (given : Option Text) :
    List BundlerExchange → Option Json → List BundlerExchange → Prop
  | intro {past waits : List BundlerExchange} {op : UserOp} {reply : Except JsError Json}
      {opHash : Option Json} (signed : Signed e request given past op)
      (answered : e.readReply reply = .ok opHash) (waiting : ∀ x ∈ waits, x.1.Waiting opHash) :
      Sent e request given
        (past ++ ⟨.rpc .sendUserOperation [op.wire, .str e.entryPoint], reply⟩ :: waits) opHash waits

/-- The last reply is a receipt of the broadcast that reports success, and the
transaction hash in it. -/
inductive Mined (e : BundlerExecutor) (request : UserOperationRequest) (given : Option Text) :
    List BundlerExchange → Option Json → Prop
  | intro {past waits : List BundlerExchange} {opHash success inner hash : Option Json}
      {reply : Except JsError Json} {receipt : Json} (sent : Sent e request given past opHash waits)
      (polled : e.receiptOf reply = some receipt)
      (succeeded : receipt.property "success".toList = .ok success)
      (truthy : (success.map Json.truthy).getD false = true)
      (named : receipt.property "receipt".toList = .ok inner)
      (hashed : propertyOf inner "transactionHash".toList = .ok hash) :
      Mined e request given
        (past ++ [⟨.rpc .getUserOperationReceipt [opHash.getD .null], reply⟩]) hash

/-- When a question may be asked. -/
def Leave (e : BundlerExecutor) (request : UserOperationRequest) (given : Option Text)
    (past : List BundlerExchange) : BundlerQuestion → Prop
  | .rpc .sendUserOperation params =>
      ∃ op, params = [UserOp.wire op, .str e.entryPoint] ∧ Signed e request given past op
  | .signUserOpHash hash => ∃ op, Hashed e request given past op hash
  | .rpc .getUserOperationReceipt params =>
      ∃ opHash waits, params = [opHash.getD .null] ∧ Sent e request given past opHash waits ∧
        waits.countP (fun x => x.1.isPoll) < 30
  | .setTimeout ms => ms = 2000 ∧ ∃ opHash waits, Sent e request given past opHash waits
  | _ => Unsent past

/-! ## One phase after the other -/

section Phases

variable {past waits : List BundlerExchange} {op : UserOp} {opHash hash nonce : Option Json}
  {callData : Text}

theorem unsent_forNonce (quiet : ∀ x ∈ past, x.1.ForNonce) : Unsent past := by
  intro x mem
  have quiet := quiet x mem
  obtain ⟨q, a⟩ := x
  cases q with
  | rpc method params => cases method <;> simp_all [ForNonce, Late]
  | chainCall => exact id
  | _ => exact quiet.elim

theorem Unsent.concat {x : BundlerExchange} (unsent : Unsent past) (silent : ¬ x.1.Late) :
    Unsent (past ++ [x]) := by
  intro y mem
  rcases List.mem_append.mp mem with before | here
  · exact unsent y before
  · rw [List.mem_singleton.mp here]
    exact silent

theorem Estimated.unsent (estimated : Estimated e request given past op) : Unsent past := by
  cases estimated with
  | intro quiet => exact (unsent_forNonce quiet).concat id

theorem Hashed.unsent (hashed : Hashed e request given past op hash) : Unsent past := by
  cases hashed with
  | intro estimated => exact estimated.unsent.concat id

theorem Signed.unsent (signed : Signed e request given past op) : Unsent past := by
  cases signed with
  | intro hashed => exact hashed.unsent.concat id

theorem Sent.wait {x : BundlerExchange} (sent : Sent e request given past opHash waits)
    (waiting : x.1.Waiting opHash) : Sent e request given (past ++ [x]) opHash (waits ++ [x]) := by
  cases sent with
  | intro signed answered before =>
      rw [List.append_assoc, List.cons_append]
      refine .intro signed answered fun y mem => ?_
      rcases List.mem_append.mp mem with earlier | here
      · exact before y earlier
      · rw [List.mem_singleton.mp here]
        exact waiting

/-- A receipt resolves if it reports success and has the transaction in it. -/
theorem settle_eq_ok_iff {receipt : Json} :
    e.settle receipt = .ok hash ↔
      ∃ success, receipt.property "success".toList = .ok success ∧
        (success.map Json.truthy).getD false = true ∧
        ∃ inner, receipt.property "receipt".toList = .ok inner ∧
          propertyOf inner "transactionHash".toList = .ok hash := by
  unfold settle
  rw [bind_eq_ok_iff]
  refine exists_congr fun success => and_congr_right fun _ => ?_
  split_ifs with truthy
  · rw [bind_eq_ok_iff, and_iff_right truthy]
  · rw [bind_eq_ok_iff]
    refine iff_of_false ?_ fun ⟨yes, _⟩ => truthy yes
    rintro ⟨reason, -, failed⟩
    cases failed

/-- The outcome of a conversation is a mined hash, or a failure. -/
def Resolves (e : BundlerExecutor) (request : UserOperationRequest) (given : Option Text)
    (log : List BundlerExchange) (outcome : Except JsError (Option Json)) : Prop :=
  ∀ hash, outcome = .ok hash → Mined e request given log hash

theorem resolves_error {log : List BundlerExchange} {failure : JsError} :
    Resolves e request given log (.error failure) := fun _ is => nomatch is

/-- What holds at the head of the loop: what was polled and what may still be polled. -/
theorem keeps_pollReceipt {attempts left : Nat} (sent : Sent e request given past opHash waits)
    (count : waits.countP (fun x => x.1.isPoll) + left ≤ 30) :
    Dialogue.Keeps (Leave e request given) (Resolves e request given) past
      (e.pollReceipt opHash attempts left) := by
  induction left generalizing past waits with
  | zero =>
      intro hash outcome
      cases outcome
  | succ left ih =>
      refine ⟨⟨opHash, waits, rfl, sent, by omega⟩, fun reply => ?_⟩
      have polled := sent.wait (x := ⟨.rpc .getUserOperationReceipt [opHash.getD .null], reply⟩)
        (.inl rfl)
      dsimp only
      cases answer : e.receiptOf reply with
      | some receipt =>
          rw [Dialogue.keeps_ofExcept]
          intro hash settled
          obtain ⟨success, succeeded, truthy, inner, named, hashed⟩ := settle_eq_ok_iff.mp settled
          exact .intro sent answer succeeded truthy named hashed
      | none =>
          refine ⟨⟨rfl, opHash, _, polled⟩, fun elapsed => ih (polled.wait (.inr rfl)) ?_⟩
          rw [List.countP_append, List.countP_append, List.countP_singleton,
            List.countP_singleton, if_pos (by rfl),
            if_neg (by exact Bool.false_ne_true)]
          omega

/-- One question for the nonce. -/
theorem forNonce_singleton {q : BundlerQuestion} (a : q.Answer) (quiet : q.ForNonce) :
    ∀ x ∈ ([] ++ [⟨q, a⟩] : List BundlerExchange), x.1.ForNonce := by
  intro x mem
  rw [List.nil_append, List.mem_singleton] at mem
  exact mem ▸ quiet

theorem keeps_resolveNonce :
    Dialogue.Keeps (Leave e request given) (fun log _ => ∀ x ∈ log, x.1.ForNonce) []
      e.resolveNonce := by
  have unsent : Unsent [] := fun x mem => nomatch mem
  unfold resolveNonce
  split
  case h_1 validator _ =>
      cases bigInt validator with
      | error failure => exact fun x mem => nomatch mem
      | ok key =>
          change Dialogue.Keeps _ _ _ (ite _ _ _)
          split_ifs
          · exact Dialogue.keeps_query.mpr ⟨unsent, fun raw => forNonce_singleton raw trivial⟩
          · exact Dialogue.keeps_query.mpr ⟨unsent, fun raw => forNonce_singleton raw trivial⟩
  case h_2 =>
      have asked : Dialogue.Keeps (Leave e request given) (fun log _ => ∀ x ∈ log, x.1.ForNonce) []
          (e.rpc .getUserOperationNonce [.str e.account, .str e.entryPoint]) :=
        Dialogue.keeps_query.mpr ⟨unsent, fun reply => forNonce_singleton reply trivial⟩
      exact asked.rescue (fun _ _ quiet => quiet) fun _ _ quiet => quiet

/-- Until the operation is estimated nothing but the nonce is asked for. -/
theorem keeps_nonceFor :
    Dialogue.Keeps (Leave e request given)
      (fun log outcome => (∀ x ∈ log, x.1.ForNonce) ∧
        ∀ nonce, outcome = .ok nonce → ∀ n, given = some n → nonce = some (.str n))
      [] (e.nonceFor given) := by
  cases given with
  | some n =>
      refine ⟨fun x mem => (nomatch mem), fun nonce same m is => ?_⟩
      cases same
      cases is
      rfl
  | none =>
      exact keeps_resolveNonce.mono fun log outcome quiet => ⟨quiet, fun _ _ n is => nomatch is⟩

theorem keeps_estimate (quiet : ∀ x ∈ past, x.1.ForNonce)
    (numbered : ∀ n, given = some n → nonce = some (.str n))
    (encoded : Executors.encodeRequest request = .ok callData) :
    Dialogue.Keeps (Leave e request given)
      (fun log outcome => ∀ estimated, outcome = .ok estimated →
        Estimated e request given log ((e.draft nonce callData).assign estimated))
      past (e.estimate (e.draft nonce callData)) := by
  have asked : Dialogue.Keeps (Leave e request given)
      (fun log outcome => ∀ estimated, outcome = .ok estimated →
        Estimated e request given log ((e.draft nonce callData).assign estimated))
      past (e.rpc .estimateUserOperationGas
        [(e.draft nonce callData).wire, .str e.entryPoint]) :=
    Dialogue.keeps_query.mpr ⟨unsent_forNonce quiet, fun body estimated accepted =>
      .intro quiet numbered encoded accepted⟩
  exact asked.rescue (fun _ _ accepted => accepted) fun _ _ _ estimated is => nomatch is

theorem keeps_operationHash (estimated : Estimated e request given past op) :
    Dialogue.Keeps (Leave e request given)
      (fun log outcome => ∀ hash, outcome = .ok hash → Hashed e request given log op hash)
      past (e.operationHash op) := by
  refine Dialogue.keeps_query.mpr ⟨estimated.unsent, fun reply hash is => ?_⟩
  cases is
  exact .intro estimated reply

theorem keeps_signUserOpHash (hashed : Hashed e request given past op hash) :
    Dialogue.Keeps (Leave e request given)
      (fun log outcome => ∀ signature, outcome = .ok signature →
        Signed e request given log (op.signed signature))
      past (signUserOpHash hash) := by
  refine Dialogue.keeps_query.mpr ⟨⟨op, hashed⟩, fun reply signature is => ?_⟩
  rw [is]
  exact .intro hashed

theorem keeps_sendUserOperation (signed : Signed e request given past op) :
    Dialogue.Keeps (Leave e request given)
      (fun log outcome => ∀ opHash, outcome = .ok opHash → Sent e request given log opHash [])
      past (e.rpc .sendUserOperation [op.wire, .str e.entryPoint]) :=
  Dialogue.keeps_query.mpr ⟨⟨op, rfl, signed⟩, fun _ _ answered =>
    .intro signed answered fun _ mem => nomatch mem⟩

/-- From the estimate to the hash, the signature, the broadcast and the polls. -/
theorem keeps_signAndSend (estimated : Estimated e request given past op) :
    Dialogue.Keeps (Leave e request given) (Resolves e request given) past
      (e.signAndSend op) := by
  refine (keeps_operationHash estimated).bind (fun log hash hashed => ?_) fun _ _ _ => resolves_error
  refine (keeps_signUserOpHash (hashed hash rfl)).bind (fun log signature signed => ?_)
    fun _ _ _ => resolves_error
  refine (keeps_sendUserOperation (signed signature rfl)).bind (fun log opHash sent => ?_)
    fun _ _ _ => resolves_error
  exact keeps_pollReceipt (sent opHash rfl) (by rw [List.countP_nil])

/-- Every question of `submit` is asked with leave, and a hash it resolves to is mined. -/
theorem keeps_submit :
    Dialogue.Keeps (Leave e request given) (Resolves e request given) []
      (e.submit request given) := by
  unfold submit
  cases encoded : Executors.encodeRequest request with
  | error failure => exact resolves_error
  | ok callData =>
      refine keeps_nonceFor.bind (fun front nonce ready => ?_) fun _ _ _ => resolves_error
      obtain ⟨quiet, numbered⟩ := ready
      refine (keeps_estimate quiet (numbered nonce rfl) encoded).bind
        (fun log estimated accepted => ?_) fun _ _ _ => resolves_error
      exact keeps_signAndSend (accepted estimated rfl)

/-! ## Whole conversations -/

/-- A broadcast is where it is: what came before it was not. -/
theorem split_unique {before after : List BundlerExchange} {x y : BundlerExchange}
    (left : Unsent past) (late : x.1.Late) (right : Unsent before) (later : y.1.Late)
    (same : past ++ x :: waits = before ++ y :: after) :
    past = before ∧ x = y ∧ waits = after := by
  induction past generalizing before with
  | nil =>
      cases before with
      | nil =>
          obtain ⟨here, rest⟩ := List.cons.inj same
          exact ⟨rfl, here, rest⟩
      | cons first before =>
          obtain ⟨here, -⟩ := List.cons.inj same
          exact absurd (here ▸ late) (right first List.mem_cons_self)
  | cons first past ih =>
      cases before with
      | nil =>
          obtain ⟨here, -⟩ := List.cons.inj same
          exact absurd (here ▸ later) (left first List.mem_cons_self)
      | cons second before =>
          obtain ⟨here, rest⟩ := List.cons.inj same
          obtain ⟨rfl, matched, tail⟩ := ih (fun z mem => left z (List.mem_cons_of_mem _ mem))
            (fun z mem => right z (List.mem_cons_of_mem _ mem)) rest
          exact ⟨by rw [here], matched, tail⟩

/-- After the broadcast the executor waits for that operation. -/
theorem waiting_of_leave {before after : List BundlerExchange} {params : List Json}
    {reply : Except JsError Json} {q : BundlerQuestion} (unsent : Unsent before)
    (leave : Leave e request given
      (before ++ ⟨.rpc .sendUserOperation params, reply⟩ :: after) q) :
    ∃ opHash, e.readReply reply = .ok opHash ∧ q.Waiting opHash := by
  have sent_late : ¬ Unsent (before ++ ⟨.rpc .sendUserOperation params, reply⟩ :: after) :=
    fun none => none _ (List.mem_append_right _ List.mem_cons_self) trivial
  have same {opHash : Option Json} {waits : List BundlerExchange}
      (sent : Sent e request given (before ++ ⟨.rpc .sendUserOperation params, reply⟩ :: after)
        opHash waits) : e.readReply reply = .ok opHash := by
    generalize whole : before ++ ⟨.rpc .sendUserOperation params, reply⟩ :: after = past at sent
    cases sent with
    | intro signed answered =>
        obtain ⟨-, here, -⟩ := split_unique unsent (by exact trivial) signed.unsent
          (by exact trivial) whole
        cases here
        exact answered
  cases q with
  | rpc method asked =>
      cases method with
      | sendUserOperation =>
          obtain ⟨op, -, signed⟩ := leave
          exact absurd signed.unsent sent_late
      | getUserOperationReceipt =>
          obtain ⟨opHash, waits, rfl, sent, -⟩ := leave
          exact ⟨opHash, same sent, .inl rfl⟩
      | _ => exact absurd leave sent_late
  | signUserOpHash hash =>
      obtain ⟨op, hashed⟩ := leave
      exact absurd hashed.unsent sent_late
  | setTimeout ms =>
      obtain ⟨rfl, opHash, waits, sent⟩ := leave
      exact ⟨opHash, same sent, .inr rfl⟩
  | _ => exact absurd leave sent_late

/-- If there is room before each occurrence, there is room in the whole. -/
theorem countP_le_of_before {α : Type*} {p : α → Bool} {n : Nat} {xs : List α}
    (room : ∀ before x after, xs = before ++ x :: after → p x = true → before.countP p < n) :
    xs.countP p ≤ n := by
  induction xs using List.reverseRecOn with
  | nil => exact Nat.zero_le n
  | append_singleton xs x ih =>
      have earlier := ih fun before y after split => room before y (after ++ [x]) (by rw [split,
        List.append_assoc, List.cons_append])
      rw [List.countP_append, List.countP_singleton]
      split_ifs with here
      · exact room xs x [] rfl here
      · exact earlier

theorem late_of_isPoll {q : BundlerQuestion} (poll : q.isPoll = true) : q.Late := by
  cases q with
  | rpc method asked => cases method <;> first | exact trivial | cases poll
  | _ => cases poll

/-- A poll is one of thirty. -/
theorem countP_of_leave {q : BundlerQuestion} (leave : Leave e request given past q)
    (poll : q.isPoll = true) : past.countP (fun x => x.1.isPoll) < 30 := by
  cases q with
  | rpc method asked =>
      cases method with
      | getUserOperationReceipt =>
          obtain ⟨opHash, waits, -, sent, room⟩ := leave
          cases sent with
          | intro signed =>
              rw [List.countP_append, List.countP_cons_of_neg (by exact Bool.false_ne_true),
                List.countP_eq_zero.mpr fun x mem poll => signed.unsent x mem (late_of_isPoll poll),
                Nat.zero_add]
              exact room
      | _ => cases poll
  | _ => cases poll

/-- Whatever the bundler, the node and the session key answer, `submit` broadcasts
one operation at most: the draft that was estimated, with the fields replaced that the
answer names, hashed and signed after that.  From there on it waits for that
operation, in thirty polls at most, and the hash it resolves to is that of a receipt
which reports success. -/
theorem submit_broadcasts {log : List BundlerExchange} {rest : BundlerDialogue (Option Json)}
    (leads : (e.submit request given).Leads log rest) :
    (∀ before params reply after,
      log = before ++ ⟨.rpc .sendUserOperation params, reply⟩ :: after →
        (∃ op, params = [UserOp.wire op, .str e.entryPoint] ∧ Signed e request given before op) ∧
        ∀ x ∈ after, ∃ opHash, e.readReply reply = .ok opHash ∧ x.1.Waiting opHash) ∧
      log.countP (fun x => x.1.isPoll) ≤ 30 ∧
      ∀ hash, rest = .done hash → Mined e request given log hash := by
  have asked {before after : List BundlerExchange} {q : BundlerQuestion} {a : q.Answer}
      (split : log = before ++ ⟨q, a⟩ :: after) : Leave e request given before q := by
    rw [split] at leads
    exact keeps_submit.asked leads
  refine ⟨fun before params reply after split => ?_, ?_, fun hash done => ?_⟩
  · obtain ⟨op, same, signed⟩ := asked split
    refine ⟨⟨op, same, signed⟩, fun x mem => ?_⟩
    obtain ⟨middle, later, rfl⟩ := List.append_of_mem mem
    have here : log = (before ++ ⟨.rpc .sendUserOperation params, reply⟩ :: middle) ++
        x :: later := by rw [split, List.append_assoc, List.cons_append]
    exact waiting_of_leave signed.unsent (asked here)
  · exact countP_le_of_before fun before x after split poll => countP_of_leave (asked split) poll
  · rw [done] at leads
    have ends : (e.submit request given).Ends log (.ok hash) := leads
    exact keeps_submit.outcome ends hash rfl

/-- A bundler that knows no nonces, revises a gas limit and mines at the second poll. -/
def sampleAnswers : Nat → (q : BundlerQuestion) → q.Answer
  | _, .rpc .estimateUserOperationGas _ =>
      .ok (.obj [("result".toList, .obj [("callGasLimit".toList, .str "0x30d40".toList)])])
  | _, .rpc .getUserOperationHash _ => .ok (.obj [("result".toList, .str "0xaa".toList)])
  | _, .rpc .sendUserOperation _ => .ok (.obj [("result".toList, .str "0xbb".toList)])
  | k, .rpc .getUserOperationReceipt _ =>
      if k < 6 then .ok (.obj [("result".toList, .null)])
      else .ok (.obj [("result".toList, .obj [("success".toList, .bool true),
        ("receipt".toList, .obj [("transactionHash".toList, .str "0xcc".toList)])])])
  | _, .rpc _ _ => .ok (.obj [("error".toList, .obj [("message".toList, .str "unknown".toList)])])
  | _, .chainCall _ _ => .error ⟨"Error".toList, "no node".toList⟩
  | _, .signUserOpHash _ => .ok "0xdd".toList
  | _, .setTimeout _ => ()

def sampleBundler : BundlerExecutor where
  account := "0x1111111111111111111111111111111111111111".toList
  validator := none
  chain := false
  string _ := []
  stringify _ := []

def sampleRequest : UserOperationRequest where
  account := sampleBundler.account
  toAddress := "0x2222222222222222222222222222222222222222".toList
  data := "0xa9059cbb".toList
  value := 0

/-- The outcome is this text. -/
def isText (t : Text) : Except JsError (Option Json) → Bool
  | .ok (some (.str s)) => s = t
  | _ => false

theorem eq_of_isText {t : Text} {outcome : Except JsError (Option Json)}
    (text : isText t outcome = true) : outcome = .ok (some (.str t)) := by
  unfold isText at text
  split at text
  · rw [of_decide_eq_true text]
  · cases text

/-- Eight exchanges, of which the last is a receipt. -/
theorem submit_broadcasts_mined :
    ∃ log, (sampleBundler.submit sampleRequest none).Leads log (.done (some (.str "0xcc".toList))) ∧
      log.countP (fun x => x.1.isPoll) = 2 ∧
      Mined sampleBundler sampleRequest none log (some (.str "0xcc".toList)) := by
  have ends := (sampleBundler.submit sampleRequest none).ends_run sampleAnswers 0
  have outcome : ((sampleBundler.submit sampleRequest none).run sampleAnswers 0).2 =
      .ok (some (.str "0xcc".toList)) := eq_of_isText (by decide +kernel)
  rw [outcome] at ends
  refine ⟨_, ends, by decide +kernel, ?_⟩
  exact (submit_broadcasts ends).2.2 _ rfl

end Phases

end BundlerExecutor

end Sdk

end AgentProof
