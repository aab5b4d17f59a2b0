import AgentProof.Agreement.SingleExecution
import AgentProof.Lib.Dialogue
import AgentProof.Sdk.EnsIdentity
import AgentProof.Sdk.Execute
import AgentProof.Sdk.Json

/-!
# Getting a call onto the chain

`adapters/executors.ts` and `adapters/viemSigner.ts`, as dialogues with the wallet
and with the bundler.  The wallet executor sends one transaction to the account,
which the signer tries out first and sees through to its receipt.  The bundler
executor builds a user operation, has it estimated, hashed and signed, sends it
and polls for its receipt.  The answers are arbitrary: what is proved here holds
whatever the bundler, the node and the signer reply.
-/

namespace AgentProof

namespace Sdk

open Js

namespace Executors

open Calldata (MAX_LENGTH)

/-! ## The account's calldata -/

/-- `BigInt.prototype.toString(16)`. -/
def hexOfInt (value : Int) : Text :=
  if value < 0 then '-' :: toHex value.natAbs else toHex value.natAbs

/-- `encodeErc7579Execute` behind the packing. -/
def encodePacked (packed : Text) : Except JsError Text :=
  let padded := padEnd ((packed.length + 63) / 64 * 64) '0' packed
  if packed.length % 2 ≠ 0 then
    .error ⟨"RangeError".toList, "The number ".toList ++ toDecimal (packed.length / 2 : Nat) ++
      ".5 cannot be converted to a BigInt because it is not an integer".toList⟩
  else
    let call := "0xe9ae5c53".toList ++ word 0 ++ word 64 ++ word (packed.length / 2) ++ padded
    if MAX_LENGTH < call.length then
      .error ⟨"RangeError".toList, "Invalid string length".toList⟩
    else .ok call

/-- `encodeErc7579Execute(request.to, request.value, request.data)`. -/
def encodeRequest (request : UserOperationRequest) : Except JsError Text :=
  encodePacked (request.toAddress.drop 2 ++ padStart 64 '0' (hexOfInt request.value) ++
    request.data.drop 2)

/-- A value that is not negative is written as the encoder writes it. -/
theorem encodeRequest_natCast {request : UserOperationRequest} {value : Nat}
    (same : request.value = value) :
    encodeRequest request = encodeErc7579Execute request.toAddress value request.data := by
  have digits : hexOfInt request.value = toHex value := by
    rw [same, hexOfInt, if_neg (by omega), Int.natAbs_natCast]
  rw [encodeRequest, digits]
  rfl

end Executors

/-! ## `createViemSigner` -/

/-- A transaction to be signed. -/
structure SignerTransaction where
  toAddress : Text
  data : Text
  value : Int
  deriving DecidableEq

/-- What the signer of an address asks of the node and of its key. -/
inductive WalletQuestion
  | call (account : Text) (tx : SignerTransaction)
  | sendTransaction (account : Text) (tx : SignerTransaction)
  | waitForTransactionReceipt (hash : Text)
  deriving DecidableEq

/-- The answers: nothing to a call, the hash of a transaction, the status of a receipt. -/
def WalletQuestion.Answer : WalletQuestion → Type
  | .call _ _ => Except JsError Unit
  | .sendTransaction _ _ => Except JsError Text
  | .waitForTransactionReceipt _ => Except JsError Text

abbrev WalletDialogue := Dialogue WalletQuestion WalletQuestion.Answer JsError

/-- `publicClient.call`. -/
def callNode (account : Text) (tx : SignerTransaction) : WalletDialogue Unit :=
  Dialogue.query (WalletQuestion.call account tx) fun reply => reply

/-- `wallet.sendTransaction`. -/
def walletSend (account : Text) (tx : SignerTransaction) : WalletDialogue Text :=
  Dialogue.query (WalletQuestion.sendTransaction account tx) fun reply => reply

/-- `publicClient.waitForTransactionReceipt`, for the status. -/
def receiptStatus (hash : Text) : WalletDialogue Text :=
  Dialogue.query (WalletQuestion.waitForTransactionReceipt hash) fun reply => reply

abbrev Signer := SignerTransaction → WalletDialogue Text

/-- The custom errors a revert is known by. -/
def KNOWN_REVERTS : List Text :=
  ["ExceedsMaxTransaction".toList, "ExceedsDailyLimit".toList, "TargetNotAllowed".toList,
    "BelowMinBalance".toList, "UnsupportedCallType".toList, "NotInstalled".toList]

def describeRevert (error : JsError) : Text :=
  match KNOWN_REVERTS.find? fun name => name <:+: error.message with
  | some matched => matched ++ " (AgentPolicyHook)".toList
  | none => error.message.takeWhile (· ≠ '\n')

/-- `sendTransaction` of the signer of `account`. -/
def viemSigner (account : Text) : Signer := fun tx =>
  ((callNode account tx).rescue fun error =>
    .fails ⟨"Error".toList, "Execution would revert: ".toList ++ describeRevert error⟩).bind
  fun _ => (walletSend account tx).bind
  fun hash => (receiptStatus hash).bind
  fun status =>
    if status ≠ "success".toList then
      .fails ⟨"Error".toList, "Transaction ".toList ++ hash ++ " reverted on chain".toList⟩
    else .done hash

/-! ## `EoaExecutor` -/

structure EoaExecutor where
  account : Text
  agentSigner : Signer
  ownerSigner : Option Signer

namespace EoaExecutor

def dispatch (e : EoaExecutor) (signer : Signer) (request : UserOperationRequest) :
    WalletDialogue Text :=
  (Dialogue.ofExcept (Executors.encodeRequest request)).bind fun data =>
    signer ⟨e.account, data, 0⟩

def send (e : EoaExecutor) (request : UserOperationRequest) : WalletDialogue Text :=
  e.dispatch e.agentSigner request

def sendAsOwner (e : EoaExecutor) (request : UserOperationRequest) : WalletDialogue Text :=
  match e.ownerSigner with
  | none => .fails ⟨"Error".toList,
      ("No owner signer configured. Human approval requires the owner key, which must not live " ++
        "in the agent process — configure it in the approval service or on a Ledger.").toList⟩
  | some ownerSigner => e.dispatch ownerSigner request

end EoaExecutor

/-! ## `BundlerExecutor` -/

/-- The methods that the bundler is asked for: `eth_` and the name. -/
inductive BundlerMethod
  | call
  | getUserOperationNonce
  | estimateUserOperationGas
  | getUserOperationHash
  | sendUserOperation
  | getUserOperationReceipt
  deriving DecidableEq

/-- What the executor asks of the bundler, of the node, of the session key and of the timer. -/
inductive BundlerQuestion
  | rpc (method : BundlerMethod) (params : List Json)
  | chainCall (toAddress data : Text)
  | signUserOpHash (hash : Option Json)
  | setTimeout (ms : Nat)

/-- The answers; to an `rpc`, the body of the response. -/
def BundlerQuestion.Answer : BundlerQuestion → Type
  | .rpc _ _ => Except JsError Json
  | .chainCall _ _ => Except JsError Text
  | .signUserOpHash _ => Except JsError Text
  | .setTimeout _ => Unit

abbrev BundlerDialogue := Dialogue BundlerQuestion BundlerQuestion.Answer JsError

/-- A user operation under construction; a field may be `undefined`. -/
abbrev UserOp := OrderedMap Text (Option Json)

/-- What of a value is written into a request: no field that is `undefined`. -/
def UserOp.wire (op : UserOp) : Json :=
  .obj (op.entries.filterMap fun field => field.2.map fun value => (field.1, value))

/-- The fields that `Object.assign` copies; to set `__proto__` makes no field. -/
def ownFields : Option Json → List (Text × Json)
  | some (.obj fields) => fields.filter fun field => field.1 ≠ "__proto__".toList
  | some (.arr elements) => elements.zipIdx.map fun element => (toDecimal element.2, element.1)
  | some (.str s) => s.zipIdx.map fun c => (toDecimal c.2, .str [c.1])
  | _ => []

/-- `Object.assign(userOp, source)`. -/
def UserOp.assign (op : UserOp) (source : Option Json) : UserOp :=
  (ownFields source).foldl (fun op field => op.set field.1 (some field.2)) op

/-- `userOp.signature = signature`. -/
def UserOp.signed (op : UserOp) (signature : Text) : UserOp :=
  op.set "signature".toList (some (.str signature))

/-- `v.key`, where `v` may be `undefined`. -/
def propertyOf (v : Option Json) (key : Text) : Except JsError (Option Json) :=
  match v with
  | none => Json.typeError
      ("Cannot read properties of undefined (reading '".toList ++ key ++ "')".toList)
  | some v => v.property key

def ENTRY_POINT_V07 : Text := "0x0000000071727de22e5e9d8baf0edac6f37da032".toList

/-- `chain` says that there is a reader; `string` and `stringify` are `String` and
`JSON.stringify`. -/
structure BundlerExecutor where
  account : Text
  entryPoint : Text := ENTRY_POINT_V07
  validator : Option Text
  chain : Bool
  string : Json → Text
  stringify : Json → Text

namespace BundlerExecutor

/-- What `rpc` makes of the body of a response. -/
def resultOf (e : BundlerExecutor) (body : Json) : Except JsError (Option Json) := do
  match ← body.property "error".toList with
  | none => body.property "result".toList
  | some error =>
      if error.truthy then do
        let message ← error.property "message".toList
        thrown ((message.map e.string).getD [])
      else body.property "result".toList

/-- What `rpc` makes of a reply. -/
def readReply (e : BundlerExecutor) (reply : Except JsError Json) :
    Except JsError (Option Json) := reply.bind e.resultOf

def rpc (e : BundlerExecutor) (method : BundlerMethod) (params : List Json) :
    BundlerDialogue (Option Json) :=
  Dialogue.query (BundlerQuestion.rpc method params) e.readReply

/-- The hexadecimal text of `BigInt(raw)`. -/
def nonceOf (raw : Except JsError Int) : Except JsError (Option Json) :=
  raw.map fun value => some (.str ("0x".toList ++ Executors.hexOfInt value))

def nonceQuery (e : BundlerExecutor) (key : Int) : Text :=
  "0x35567e1a".toList ++ padStart 64 '0' (toLowerCase (e.account.drop 2)) ++
    padStart 64 '0' (Executors.hexOfInt (key <<< 32))

def resolveNonce (e : BundlerExecutor) : BundlerDialogue (Option Json) :=
  match e.validator.filter (· ≠ []) with
  | some validator =>
      (Dialogue.ofExcept (bigInt validator)).bind fun key =>
        if e.chain then
          Dialogue.query (BundlerQuestion.chainCall e.entryPoint (e.nonceQuery key)) fun raw =>
            nonceOf (raw.bind bigInt)
        else
          Dialogue.query (BundlerQuestion.rpc .call [.obj [("to".toList, .str e.entryPoint),
              ("data".toList, .str (e.nonceQuery key))], .str "latest".toList]) fun reply =>
            nonceOf ((e.readReply reply).bind Json.toBigInt)
  | none =>
      (e.rpc .getUserOperationNonce [.str e.account, .str e.entryPoint]).rescue fun _ =>
        .done (some (.str "0x0".toList))

/-- The operation before its estimate. -/
def draft (e : BundlerExecutor) (nonce : Option Json) (callData : Text) : UserOp where
  entries := [("sender".toList, some (.str e.account)), ("nonce".toList, nonce),
    ("callData".toList, some (.str callData)),
    ("callGasLimit".toList, some (.str "0x186a0".toList)),
    ("verificationGasLimit".toList, some (.str "0x186a0".toList)),
    ("preVerificationGas".toList, some (.str "0xc350".toList)),
    ("maxFeePerGas".toList, some (.str "0x59682f00".toList)),
    ("maxPriorityFeePerGas".toList, some (.str "0x3b9aca00".toList)),
    ("signature".toList, some (.str "0x".toList))]
  nodup := by
    simp only [List.map_cons, List.map_nil]
    decide

/-- A reply to the poll is acted on if there is something truthy in it. -/
def receiptOf (e : BundlerExecutor) (reply : Except JsError Json) : Option Json :=
  ((e.readReply reply).toOption.join).filter Json.truthy

/-- What a receipt resolves to. -/
def settle (e : BundlerExecutor) (receipt : Json) : Except JsError (Option Json) := do
  let success ← receipt.property "success".toList
  if (success.map Json.truthy).getD false then
    propertyOf (← receipt.property "receipt".toList) "transactionHash".toList
  else do
    let reason ← receipt.property "reason".toList
    thrown ("UserOperation reverted on chain: ".toList ++
      match reason with
      | none | some .null => "no reason returned".toList
      | some reason => e.string reason)

/-- The loop of `waitForReceipt` with so many attempts left. -/
def pollReceipt (e : BundlerExecutor) (opHash : Option Json) (attempts : Nat) :
    Nat → BundlerDialogue (Option Json)
  | 0 => .fails ⟨"Error".toList, "UserOperation ".toList ++
      (opHash.map e.string).getD "undefined".toList ++ " was not mined within ".toList ++
      toDecimal (attempts * 2) ++ " seconds".toList⟩
  | left + 1 =>
      .ask (.rpc .getUserOperationReceipt [opHash.getD .null]) fun reply =>
        match e.receiptOf reply with
        | some receipt => .ofExcept (e.settle receipt)
        | none => .ask (.setTimeout 2000) fun _ => e.pollReceipt opHash attempts left

def waitForReceipt (e : BundlerExecutor) (opHash : Option Json) (attempts : Nat := 30) :
    BundlerDialogue (Option Json) :=
  e.pollReceipt opHash attempts attempts

/-- The hash that is signed: the bundler's, or one of the text of the operation. -/
def hashOf (e : BundlerExecutor) (op : UserOp) (reply : Except JsError Json) : Option Json :=
  match e.readReply reply with
  | .ok hash => hash
  | .error _ => some (.str (keccak256Text (e.stringify op.wire)))

/-- `eth_getUserOperationHash`, or what stands in for it. -/
def operationHash (e : BundlerExecutor) (op : UserOp) : BundlerDialogue (Option Json) :=
  Dialogue.query (BundlerQuestion.rpc .getUserOperationHash [op.wire, .str e.entryPoint])
    fun reply => .ok (e.hashOf op reply)

/-- The session key. -/
def signUserOpHash (hash : Option Json) : BundlerDialogue Text :=
  Dialogue.query (BundlerQuestion.signUserOpHash hash) fun reply => reply

/-- What follows the estimate. -/
def signAndSend (e : BundlerExecutor) (op : UserOp) : BundlerDialogue (Option Json) :=
  (e.operationHash op).bind
  fun hash => (signUserOpHash hash).bind
  fun signature =>
    (e.rpc .sendUserOperation [(op.signed signature).wire, .str e.entryPoint]).bind
  fun opHash => e.waitForReceipt opHash

/-- `request.nonce ?? (await this.resolveNonce())`. -/
def nonceFor (e : BundlerExecutor) : Option Text → BundlerDialogue (Option Json)
  | some nonce => .done (some (.str nonce))
  | none => e.resolveNonce

/-- `eth_estimateUserOperationGas`; a refusal is the hook's. -/
def estimate (e : BundlerExecutor) (op : UserOp) : BundlerDialogue (Option Json) :=
  (e.rpc .estimateUserOperationGas [op.wire, .str e.entryPoint]).rescue fun error =>
    .fails ⟨"Error".toList,
      "UserOperation rejected during estimation: ".toList ++ error.message⟩

/-- `nonce` is `request.nonce`. -/
def submit (e : BundlerExecutor) (request : UserOperationRequest) (nonce : Option Text) :
    BundlerDialogue (Option Json) :=
  (Dialogue.ofExcept (Executors.encodeRequest request)).bind
  fun callData => (e.nonceFor nonce).bind
  fun nonce =>
    let userOp := e.draft nonce callData
    (e.estimate userOp).bind
  fun estimated => e.signAndSend (userOp.assign estimated)

end BundlerExecutor

end Sdk

end AgentProof
