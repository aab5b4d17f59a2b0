import AgentProof.Sdk.Broadcasts
import AgentProof.Sdk.ExecuteAuthority

/-!
# From the verdict to the hook

What an instance hands to its executor is judged, and what the hook decodes of the
account's calldata is what was handed over: always through a wallet, and through a
bundler unless its answer to the estimate names another calldata, which
`Object.assign` puts into the operation before it is signed.
-/

namespace AgentProof

namespace Sdk

open Js ExecutionLib

/-! ## The account's calldata -/

/-- The account's calldata is the encoding of the action. -/
def Encodes (data : Text) (action : Action) : Prop :=
  ∃ value : Nat, action.value = value ∧
    Executors.encodeErc7579Execute action.toAddress value action.data = .ok data

/-- The hook reads the account's calldata as a call of the action. -/
def HookReads (data : Text) (action : Action) : Prop :=
  ∃ msgData inner, hexToBytes data = .ok msgData ∧
    decodeSingleExecution (.ofBytes msgData) = .ok (addressOf action.toAddress, inner) ∧
    hexToBytes action.data = .ok inner.bytes

/-- The action is of its type: an address, hexadecimal data, and a value of one word. -/
structure Callable (action : Action) : Prop where
  address : isAddress action.toAddress = true
  nonneg : 0 ≤ action.value
  fits : action.value < 2 ^ 256
  bytes : ∃ inner, hexToBytes action.data = .ok inner

/-- What the executors encode is the action. -/
theorem encodes_of_encodeRequest {request : UserOperationRequest} {action : Action} {data : Text}
    (callable : Callable action)
    (same : request = ⟨request.account, action.toAddress, action.data, action.value⟩)
    (encoded : Executors.encodeRequest request = .ok data) : Encodes data action := by
  obtain ⟨value, is⟩ := Int.eq_ofNat_of_zero_le callable.nonneg
  have valued : request.value = value := by rw [same, is]
  have target : request.toAddress = action.toAddress := by rw [same]
  have call : request.data = action.data := by rw [same]
  rw [Executors.encodeRequest_natCast valued, target, call] at encoded
  exact ⟨value, is, encoded⟩

/-- The encoding is read back by the hook. -/
theorem Encodes.hookReads {action : Action} {data : Text} (encodes : Encodes data action)
    (callable : Callable action) : HookReads data action := by
  obtain ⟨value, is, encoded⟩ := encodes
  obtain ⟨inner, bytes⟩ := callable.bytes
  have fits : value < 2 ^ 256 := by
    have fits := callable.fits
    rw [is] at fits
    exact_mod_cast fits
  rw [executors_encodeErc7579Execute, encodeErc7579Execute_eq_ok_iff] at encoded
  obtain ⟨-, short, rfl⟩ := encoded
  have small : inner.length < 2 ^ 255 := by
    obtain ⟨-, rfl⟩ := hexToBytes_eq_ok_iff.mp bytes
    have room := (frameLength_le_executeText _).trans short
    rw [length_pairBytes]
    simp only [Calldata.frameLength, List.length_append, Calldata.MAX_LENGTH] at room
    omega
  obtain ⟨read, decodes, rest⟩ := decodeSingleExecution_encodeExecute
    (addressOf action.toAddress) (BitVec.ofNat 256 value) small
  exact ⟨_, read, hexToBytes_executeText callable.address fits bytes small, decodes, rest ▸ bytes⟩

/-! ## The wallet -/

abbrev WalletExchange := Dialogue.Exchange WalletQuestion WalletQuestion.Answer

section Signer

variable (key : Text) (tx : SignerTransaction)

/-- The transaction was tried out. -/
def triedOut : List WalletExchange := [⟨.call key tx, .ok ()⟩]

/-- It was tried out and sent. -/
def sentOut (hash : Text) : List WalletExchange :=
  triedOut key tx ++ [⟨.sendTransaction key tx, .ok hash⟩]

/-- It was tried out and sent, and there is a receipt. -/
def receipted (hash status : Text) : List WalletExchange :=
  sentOut key tx hash ++ [⟨.waitForTransactionReceipt hash, .ok status⟩]

/-- What a signer asks, and when. -/
def WalletLeave (past : List WalletExchange) : WalletQuestion → Prop
  | .call account asked => account = key ∧ asked = tx ∧ past = []
  | .sendTransaction account sent => account = key ∧ sent = tx ∧ past = triedOut key tx
  | .waitForTransactionReceipt hash => past = sentOut key tx hash

/-- A signer tries its transaction out, sends that one only, and resolves to its
hash if the receipt reports success. -/
theorem keeps_viemSigner :
    Dialogue.Keeps (WalletLeave key tx)
      (Dialogue.Exactly fun hash => receipted key tx hash "success".toList) []
      (viemSigner key tx) := by
  have tried : Dialogue.Keeps (WalletLeave key tx) (Dialogue.Exactly fun _ => triedOut key tx) []
      ((callNode key tx).rescue fun error => .fails (⟨"Error".toList,
        "Execution would revert: ".toList ++ describeRevert error⟩ : JsError)) := by
    have asked : Dialogue.Keeps (WalletLeave key tx)
        (Dialogue.Exactly fun _ => triedOut key tx) [] (callNode key tx) := by
      refine Dialogue.keeps_query.mpr ⟨⟨rfl, rfl, rfl⟩, fun reply answer is => ?_⟩
      rw [is]
      rfl
    exact asked.rescue (fun _ _ before => before) fun _ _ _ => Dialogue.exactly_error
  have sent : Dialogue.Keeps (WalletLeave key tx) (Dialogue.Exactly (sentOut key tx))
      (triedOut key tx) (walletSend key tx) := by
    refine Dialogue.keeps_query.mpr ⟨⟨rfl, rfl, rfl⟩, fun reply hash is => ?_⟩
    rw [is]
    rfl
  have mined (hash : Text) : Dialogue.Keeps (WalletLeave key tx)
      (Dialogue.Exactly (receipted key tx hash)) (sentOut key tx hash) (receiptStatus hash) := by
    refine Dialogue.keeps_query.mpr ⟨rfl, fun reply status is => ?_⟩
    rw [is]
    rfl
  refine tried.bind (fun past answer before => ?_) fun _ _ _ => Dialogue.exactly_error
  obtain rfl := before answer rfl
  refine sent.bind (fun past hash before => ?_) fun _ _ _ => Dialogue.exactly_error
  obtain rfl := before hash rfl
  refine (mined hash).bind (fun past status before => ?_) fun _ _ _ => Dialogue.exactly_error
  obtain rfl := before status rfl
  split_ifs with success
  · exact Dialogue.exactly_error
  · rw [not_not] at success
    intro found is
    cases is
    rw [success]

end Signer

/-- The executor of an account, for the key of the agent and maybe that of the owner. -/
def walletExecutor (account agentKey : Text) (ownerKey : Option Text) : EoaExecutor where
  account := account
  agentSigner := viemSigner agentKey
  ownerSigner := ownerKey.map viemSigner

/-- The call of the executor that was made. -/
def EoaExecutor.perform (e : EoaExecutor) : Submission → WalletDialogue Text
  | .send request => e.send request
  | .sendAsOwner request _ => e.sendAsOwner request

/-- Whose key signs a submission. -/
def Submission.SignedBy (agentKey : Text) (ownerKey : Option Text) (key : Text) :
    Submission → Prop
  | .send _ => key = agentKey
  | .sendAsOwner _ _ => ownerKey = some key

/-- A submission is one transaction under one key, or nothing. -/
theorem perform_walletExecutor (account agentKey : Text) (ownerKey : Option Text)
    (submission : Submission) :
    (∃ key data, submission.SignedBy agentKey ownerKey key ∧
      Executors.encodeRequest submission.request = .ok data ∧
      (walletExecutor account agentKey ownerKey).perform submission =
        viemSigner key ⟨account, data, 0⟩) ∨
      ∃ failure, (walletExecutor account agentKey ownerKey).perform submission =
        .fails failure := by
  cases submission with
  | send request =>
      cases encoded : Executors.encodeRequest request with
      | error failure =>
          refine .inr ⟨failure, ?_⟩
          rw [EoaExecutor.perform, EoaExecutor.send, EoaExecutor.dispatch, encoded]
          rfl
      | ok data =>
          refine .inl ⟨agentKey, data, rfl, encoded, ?_⟩
          rw [EoaExecutor.perform, EoaExecutor.send, EoaExecutor.dispatch, encoded]
          rfl
  | sendAsOwner request signature =>
      cases ownerKey with
      | none => exact .inr ⟨_, rfl⟩
      | some key =>
          cases encoded : Executors.encodeRequest request with
          | error failure =>
              refine .inr ⟨failure, ?_⟩
              rw [EoaExecutor.perform, EoaExecutor.sendAsOwner]
              dsimp only [walletExecutor, Option.map]
              rw [EoaExecutor.dispatch, encoded]
              rfl
          | ok data =>
              refine .inl ⟨key, data, rfl, encoded, ?_⟩
              rw [EoaExecutor.perform, EoaExecutor.sendAsOwner]
              dsimp only [walletExecutor, Option.map]
              rw [EoaExecutor.dispatch, encoded]
              rfl

/-! ## The bundler -/

/-- What `Object.assign` copies for a key: of two fields the later. -/
def named (source : Option Json) (key : Text) : Option Json :=
  (ownFields source).reverse.lookup key

theorem lookup_field (key name : Text) (value : Json) (rest : List (Text × Json)) :
    ((name, value) :: rest).lookup key = if key = name then some value else rest.lookup key := by
  by_cases same : key = name
  · rw [if_pos same, same, List.lookup_cons_self]
  · rw [if_neg same, List.lookup_cons, beq_eq_false_iff_ne.mpr same]

theorem get_assign (op : UserOp) (source : Option Json) (key : Text) :
    (op.assign source).get key = ((named source key).map some).or (op.get key) := by
  unfold UserOp.assign named
  generalize ownFields source = fields
  induction fields generalizing op with
  | nil => rfl
  | cons field rest ih =>
      obtain ⟨name, value⟩ := field
      rw [List.foldl_cons, ih, List.reverse_cons, List.lookup_append, OrderedMap.get_set,
        lookup_field]
      cases rest.reverse.lookup key with
      | some later => rfl
      | none => by_cases here : key = name <;> simp [here]

theorem lookup_wire {entries : List (Text × Option Json)} {key : Text}
    (absent : key ∉ entries.map Prod.fst) :
    (entries.filterMap fun field => field.2.map fun value => (field.1, value)).lookup key =
      none := by
  refine List.lookup_eq_none_iff.mpr fun written mem => ?_
  obtain ⟨field, listed, is⟩ := List.mem_filterMap.mp mem
  obtain ⟨value, -, rfl⟩ := Option.map_eq_some_iff.mp is
  rw [bne_iff_ne]
  exact fun same => absent (same ▸ List.mem_map_of_mem listed)

/-- A field that is there is written. -/
theorem field_wire (op : UserOp) (key : Text) : op.wire.field key = (op.get key).join := by
  obtain ⟨entries, nodup⟩ := op
  unfold UserOp.wire Json.field OrderedMap.get
  dsimp only
  induction entries with
  | nil => rfl
  | cons entry rest ih =>
      obtain ⟨name, value⟩ := entry
      obtain ⟨fresh, distinct⟩ := List.nodup_cons.mp nodup
      rw [OrderedMap.lookup_cons_ite, List.filterMap_cons]
      cases value with
      | some value =>
          rw [Option.map_some, lookup_field, ih distinct]
          split_ifs <;> rfl
      | none =>
          rw [Option.map_none]
          split_ifs with here
          · rw [here, lookup_wire fresh]
            rfl
          · exact ih distinct

namespace BundlerExecutor

variable {e : BundlerExecutor} {request : UserOperationRequest} {given : Option Text}

/-- What is broadcast as calldata: what the answer to the estimate names, and else the encoded
request. -/
theorem Signed.callData {past : List BundlerExchange} {op : UserOp}
    (signed : Signed e request given past op) :
    ∃ callData body estimated params, Executors.encodeRequest request = .ok callData ∧
      ⟨.rpc .estimateUserOperationGas params, body⟩ ∈ past ∧ e.readReply body = .ok estimated ∧
      op.wire.field "callData".toList =
        some ((named estimated "callData".toList).getD (.str callData)) := by
  obtain ⟨⟨estimated, reply⟩⟩ := signed
  cases estimated with
  | @intro front nonce callData body estimated _ _ encoded accepted =>
      refine ⟨callData, body, estimated, [(e.draft nonce callData).wire, .str e.entryPoint],
        encoded, ?_, accepted, ?_⟩
      · exact List.mem_append_left _ (List.mem_append_left _ (List.mem_append_right _
          (List.mem_singleton_self _)))
      · have kept : ((e.draft nonce callData).get "callData".toList) =
            some (some (.str callData)) := rfl
        rw [field_wire, UserOp.signed, OrderedMap.get_set_of_ne _ _ (by decide), get_assign, kept]
        cases named estimated "callData".toList <;> rfl

end BundlerExecutor

/-! ## From the verdict to the hook -/

section Judged

variable {account : ProtectedAccount} {now : Nat} {events : List ExecuteEvent} {x : Submitted}
  {address agentKey : Text} {ownerKey : Option Text} {action : Action}

open Process

/-- The key under which a transaction is sent is that of the agent, on a verdict to
allow, or that of the owner, on a verdict that asked for an approval and on the approval. -/
def Entitled (account : ProtectedAccount) (now : Nat) (events : List ExecuteEvent) (x : Submitted)
    (agentKey : Text) (ownerKey : Option Text) (key : Text) : Prop :=
  key = agentKey ∧ account.decision x.intent x.state = .allow ∨
    ownerKey = some key ∧ account.decision x.intent x.state = .requireApproval ∧
      Granted account now events x.call x.intent x.state

theorem entitled_of_signedBy {key : Text} {enforcer : HookEnforcer}
    (authorises : Authorises account now events x.call enforcer x.intent x.state x.submission)
    (signs : x.submission.SignedBy agentKey ownerKey key) :
    Entitled account now events x agentKey ownerKey key := by
  rcases authorises with ⟨allows, direct⟩ | ⟨asks, granted, owner⟩
  · rw [direct] at signs
    exact .inl ⟨signs, allows⟩
  · rw [owner] at signs
    exact .inr ⟨signs, asks, granted⟩

/-- The request is the action, for the account of the enforcer. -/
theorem request_of_authorises {enforcer : HookEnforcer}
    (authorises : Authorises account now events x.call enforcer x.intent x.state x.submission)
    (same : x.intent.raw = action) :
    x.submission.request =
      ⟨x.submission.request.account, action.toAddress, action.data, action.value⟩ := by
  rcases authorises with ⟨-, direct⟩ | ⟨-, -, owner⟩
  · rw [direct, ← same]
    rfl
  · rw [owner, ← same]
    rfl

/-- What a wallet sends for a submission. -/
theorem sent_by_wallet {log : List WalletExchange} {rest : WalletDialogue Text} {key : Text}
    {tx : SignerTransaction} {reply : Except JsError Text} (callable : Callable action)
    (same : x.submission.request =
      ⟨x.submission.request.account, action.toAddress, action.data, action.value⟩)
    (leads : ((walletExecutor address agentKey ownerKey).perform x.submission).Leads log rest)
    (sent : ⟨.sendTransaction key tx, reply⟩ ∈ log) :
    tx.toAddress = address ∧ tx.value = 0 ∧ Encodes tx.data action ∧
      x.submission.SignedBy agentKey ownerKey key := by
  rcases perform_walletExecutor address agentKey ownerKey x.submission with
    ⟨signer, data, signs, encoded, performs⟩ | ⟨failure, performs⟩
  · rw [performs] at leads
    obtain ⟨before, after, rfl⟩ := List.append_of_mem sent
    obtain ⟨rfl, rfl, -⟩ := (keeps_viemSigner signer _).asked leads
    exact ⟨rfl, rfl, encodes_of_encodeRequest callable same encoded, signs⟩
  · rw [performs] at leads
    cases leads
    cases sent

/-- What a wallet resolves to is the hash of what it sent, with a receipt that reports success. -/
theorem receipted_by_wallet {submission : Submission} {log : List WalletExchange} {hash : Text}
    (leads : ((walletExecutor address agentKey ownerKey).perform submission).Leads log
      (.done hash)) : ∃ key tx, log = receipted key tx hash "success".toList := by
  rcases perform_walletExecutor address agentKey ownerKey submission with
    ⟨signer, data, -, -, performs⟩ | ⟨failure, performs⟩
  · rw [performs] at leads
    have ends : (viemSigner signer ⟨address, data, 0⟩).Ends log (.ok hash) := leads
    exact ⟨signer, _, (keeps_viemSigner signer _).outcome ends hash rfl⟩
  · rw [performs] at leads
    cases leads

/-- What an instance hands to its executor was asked of it and judged, and what is sent to
the account encodes it, value and all, and is decoded by the hook.  A wallet sends it under
the key that the verdict and the approval entitle to it.  A bundler is sent it, unless the
answer to the estimate names another calldata: then it is sent that one. -/
theorem executed_call_judged {policyHash : PolicyDocument → Text} {config : AgentProofConfig}
    {deps : Deps} (created : createAgentProof policyHash config = .ok deps)
    (custom : ∀ registry, config.decoders = some registry → registry.Gives KeepsAction)
    {executor : Option Executor} {s : Process}
    (run : Runs.Run (step (deps.protect executor)) (fun _ _ => True) (initial now) events s)
    (typed : ∀ action ∈ actionsOf events, Callable action) (submitted : x ∈ s.submitted) :
    ∃ action, (actionsOf events)[x.call]? = some action ∧
      (∀ address agentKey ownerKey log rest,
        ((walletExecutor address agentKey ownerKey).perform x.submission).Leads log rest →
        (∀ key tx reply, ⟨.sendTransaction key tx, reply⟩ ∈ log →
          tx.toAddress = address ∧ tx.value = 0 ∧ Encodes tx.data action ∧
            HookReads tx.data action ∧ Entitled (deps.protect executor) now events x agentKey ownerKey key) ∧
        ∀ hash, rest = .done hash → ∃ key tx, log = receipted key tx hash "success".toList) ∧
      ∀ (e : BundlerExecutor) request given log rest, x.submission = .send request →
        (e.submit request given).Leads log rest →
        ∀ params reply, ⟨.rpc .sendUserOperation params, reply⟩ ∈ log →
          (deps.protect executor).decision x.intent x.state = .allow ∧
          ∃ op callData body estimated asked, params = [op, .str e.entryPoint] ∧
            Encodes callData action ∧ HookReads callData action ∧
            ⟨.rpc .estimateUserOperationGas asked, body⟩ ∈ log ∧
            e.readReply body = .ok estimated ∧
            op.field "callData".toList =
              some ((named estimated "callData".toList).getD (.str callData)) := by
  obtain ⟨⟨action, at_i, decoded⟩, -, enforcer, -, authorises⟩ :=
    (followed_of_run run).submitted x submitted
  have kept : x.intent.raw = action := keepsAction_of_createAgentProof created custom _ _ _ decoded
  have same := request_of_authorises authorises kept
  have callable := typed action (List.mem_of_getElem? at_i)
  refine ⟨action, at_i, fun address agentKey ownerKey log rest leads =>
      ⟨fun key tx reply sent => ?_, fun hash done => receipted_by_wallet (done ▸ leads)⟩,
    fun e request given log rest direct leads params reply sent => ?_⟩
  · obtain ⟨target, free, encodes, signs⟩ := sent_by_wallet callable same leads sent
    exact ⟨target, free, encodes, encodes.hookReads callable,
      entitled_of_signedBy authorises signs⟩
  · obtain ⟨before, after, rfl⟩ := List.append_of_mem sent
    obtain ⟨op, rfl, signed⟩ := BundlerExecutor.keeps_submit.asked leads
    rw [List.nil_append] at signed
    obtain ⟨callData, body, estimated, asked, encoded, answered, accepted, field⟩ :=
      signed.callData
    rw [direct] at same
    have encodes := encodes_of_encodeRequest callable same encoded
    refine ⟨?_, op.wire, callData, body, estimated, asked, rfl, encodes,
      encodes.hookReads callable, List.mem_append_left _ answered, accepted,
      field⟩
    rcases authorises with ⟨allows, -⟩ | ⟨-, -, owner⟩
    · exact allows
    · rw [direct] at owner
      cases owner

/-- A node that lets everything through. -/
def agreeingNode : Nat → (q : WalletQuestion) → q.Answer
  | _, .call _ _ => .ok ()
  | _, .sendTransaction _ _ => .ok "0xcc".toList
  | _, .waitForTransactionReceipt _ => .ok "success".toList

theorem callable_paymentOf {amount : Nat} (address : isAddress (paymentOf amount).toAddress = true)
    (even : ((paymentOf amount).data.drop 2).length % 2 = 0) : Callable (paymentOf amount) where
  address := address
  nonneg := le_refl 0
  fits := by
    change (0 : Int) < 2 ^ 256
    norm_num
  bytes := ⟨_, hexToBytes_eq_ok_iff.mpr ⟨even, rfl⟩⟩

/-- The payment at the threshold goes out under the owner's key. -/
theorem executed_call_judged_ownerKey :
    ∃ deps s x log key tx, createAgentProof sampleHash sampleOwnerSetup = .ok deps ∧
      Runs.Run (step (deps.protect none)) (fun _ _ => True) (initial 0) paymentThenApproval s ∧
      x ∈ s.submitted ∧
      ((walletExecutor "0xacc0".toList "0xa1".toList (some "0xb2".toList)).perform
        x.submission).Leads log (.done "0xcc".toList) ∧
      ⟨.sendTransaction key tx, .ok "0xcc".toList⟩ ∈ log ∧
      Encodes tx.data (paymentOf 100000000) ∧ HookReads tx.data (paymentOf 100000000) ∧
      Entitled (deps.protect none) 0 paymentThenApproval x "0xa1".toList (some "0xb2".toList)
        key := by
  have ran : (createAgentProof sampleHash sampleOwnerSetup).toOption.any fun deps =>
      (Runs.replay (step (deps.protect none)) (fun _ _ => True) (initial 0)
        paymentThenApproval).any fun s => (s.submitted[1]?).any fun x => x.call = 1 ∧
          x.submission = .sendAsOwner (paymentRequest 100000000) "0x".toList := by
    decide +kernel
  obtain ⟨deps, found, replayed⟩ := (Option.any_eq_true _ _).mp ran
  obtain ⟨s, replayed, made⟩ := (Option.any_eq_true _ _).mp replayed
  obtain ⟨x, at_one, second⟩ := (Option.any_eq_true _ _).mp made
  obtain ⟨call, submission⟩ := of_decide_eq_true second
  have created := eq_ok_of_toOption found
  have run := Runs.run_of_replay replayed
  have mem := List.mem_of_getElem? at_one
  have typed : ∀ action ∈ actionsOf paymentThenApproval, Callable action := by
    intro action listed
    have two : actionsOf paymentThenApproval = [paymentOf 60000000, paymentOf 100000000] := rfl
    rw [two, List.mem_cons, List.mem_singleton] at listed
    rcases listed with rfl | rfl
    · exact callable_paymentOf (by decide +kernel) (by decide +kernel)
    · exact callable_paymentOf (by decide +kernel) (by decide +kernel)
  have ends := ((walletExecutor "0xacc0".toList "0xa1".toList (some "0xb2".toList)).perform
    x.submission).ends_run agreeingNode 0
  have outcome : (((walletExecutor "0xacc0".toList "0xa1".toList (some "0xb2".toList)).perform
      x.submission).run agreeingNode 0).2 = .ok "0xcc".toList := by
    rw [submission]
    decide +kernel
  rw [outcome] at ends
  obtain ⟨action, at_i, wallet, -⟩ := executed_call_judged created nofun run typed mem
  obtain ⟨judged, mined⟩ := wallet _ _ _ _ _ ends
  obtain ⟨key, tx, whole⟩ := mined _ rfl
  have sent : ⟨.sendTransaction key tx, .ok "0xcc".toList⟩ ∈ receipted key tx "0xcc".toList
      "success".toList := List.mem_append_left _ (List.mem_append_right _ (List.mem_singleton_self _))
  rw [← whole] at sent
  obtain ⟨-, -, encodes, reads, entitled⟩ := judged key tx _ sent
  have asked : (actionsOf paymentThenApproval)[1]? = some (paymentOf 100000000) := rfl
  rw [call, asked] at at_i
  rw [← Option.some.inj at_i] at encodes reads
  exact ⟨deps, s, x, _, key, tx, created, run, mem, ends, sent, encodes, reads, entitled⟩

end Judged

end Sdk

end AgentProof
