import AgentProof.Agreement.PublishedHash
import AgentProof.Sdk.Freshness
import AgentProof.Sdk.Startup

/-!
# From a suspension to an agent that does not start

The registrar writes "suspended" into an agent's status record, ENS serves the
record, `ENSIdentity` reads it through its cache, and `createAgentProof` looks at
what was read.  A suspension has reached every reader once an entry's life and a
reply's delay have passed, unless the record was written again past the registrar.
-/

namespace AgentProof

open Ens Sdk Js Runs TtlCache

variable {H : Type} [DecidableEq H] {h : Hashing H} {s s' : State H} {node : H}

/-! ## The record on chain -/

variable (h) in
/-- The message gives the status record another value than "suspended": a direct write,
or a registration that names the node once more. -/
def Lifts (node : H) (s : State H) (m : Message H) : Prop :=
  Reactivates h node s m ∨
    m.sender = s.registrar.owner ∧ ∃ reg timestamp registered,
      m.call = .registerAgent reg timestamp registered ∧ reg.node = node

/-- A registration writes the records of its own node. -/
theorem texts_of_writeRecords {r written : Resolver H} {self : Address} {reg : Registration H}
    (writes : writeRecords h r self reg = .ok written) (other : node ≠ reg.node) (key : Bytes) :
    written.texts node key = r.texts node key := by
  simp only [writeRecords, bind_eq_ok_iff, Resolver.setText_eq_ok, Resolver.setAddr_eq_ok] at writes
  obtain ⟨_, ⟨-, rfl⟩, _, ⟨-, rfl⟩, _, ⟨-, rfl⟩, -, rfl⟩ := writes
  rw [Resolver.putText_of_ne (.inl other), Resolver.putText_of_ne (.inl other),
    Resolver.putText_of_ne (.inl other), Resolver.putAddr_texts]

/-- Nothing else lifts a suspension. -/
theorem suspended_perform {m : Message H}
    (still : s.resolver.texts node KEY_STATUS = ascii "suspended") (quiet : ¬ Lifts h node s m) :
    (perform h s m).resolver.texts node KEY_STATUS = ascii "suspended" := by
  obtain ⟨-, -, policy_status⟩ := KEY_HOOK_ne
  revert quiet
  refine perform_rec (P := fun s' => ¬ Lifts h node s m →
    s'.resolver.texts node KEY_STATUS = ascii "suspended") (fun _ => still) fun s' effect quiet => ?_
  cases effect with
  | nameRoles => exact still
  | textRoles admin => exact still
  | addrRoles admin => exact still
  | @text sender node' key value holds =>
      by_cases same : node = node' ∧ KEY_STATUS = key
      · obtain ⟨rfl, rfl⟩ := same
        rw [Resolver.putText_self]
        by_contra other
        exact quiet (.inl ⟨holds, value, other, rfl⟩)
      · exact (Resolver.putText_of_ne (not_and_or.mp same)).trans still
  | addr holds => exact still
  | @registration reg timestamp registered granted written fresh grants writes =>
      have other : node ≠ reg.node := fun here =>
        quiet (.inr ⟨rfl, reg, timestamp, registered, rfl, here.symm⟩)
      have kept : granted.texts = s.resolver.texts := by rw [grantRoles_ok grants]; rfl
      exact (texts_of_writeRecords writes other _).trans ((congrFun (congrFun kept _) _).trans still)
  | policyHash known => exact (Resolver.putText_of_ne (.inr policy_status.symm)).trans still
  | @suspension sender label known allowed =>
      by_cases same : node = (s.registrar.agents label).node ∧ KEY_STATUS = KEY_STATUS
      · obtain ⟨rfl, -⟩ := same
        exact Resolver.putText_self
      · exact (Resolver.putText_of_ne (not_and_or.mp same)).trans still
  | ownership => exact still

variable (h) in
/-- The contracts at a time, of the messages mined from `s` on. -/
def stateAt (s : State H) (mined : List (Int × Message H)) (u : Int) : State H :=
  ((mined.takeWhile fun m => m.1 ≤ u).map Prod.snd).foldl (perform h) s

/-- What messages lead to is what they are folded to. -/
theorem foldl_of_sequence {Meets : State H → Message H → Prop} {messages : List (Message H)}
    (calls : Sequence h Meets s messages s') : messages.foldl (perform h) s = s' := by
  induction calls with
  | nil => rfl
  | cons meets steps _ ih =>
      obtain rfl := Option.some.inj steps
      exact ih

/-- From the suspension on, at every time. -/
theorem suspended_stateAt {suspended final : State H} {mined : List (Int × Message H)}
    (start : suspended.resolver.texts node KEY_STATUS = ascii "suspended")
    (calls : Sequence h (fun t m => ¬ Lifts h node t m) suspended (mined.map Prod.snd) final)
    (u : Int) : (stateAt h suspended mined u).resolver.texts node KEY_STATUS = ascii "suspended" := by
  have parts : mined.map Prod.snd = (mined.takeWhile fun m => m.1 ≤ u).map Prod.snd ++
      (mined.dropWhile fun m => m.1 ≤ u).map Prod.snd := by
    rw [← List.map_append, List.takeWhile_append_dropWhile]
  rw [parts] at calls
  obtain ⟨t, first, -⟩ := calls.split
  rw [stateAt, foldl_of_sequence first]
  have kept : ∀ t m t', t.resolver.texts node KEY_STATUS = ascii "suspended" →
      ¬ Lifts h node t m → some (perform h t m) = some t' →
      t'.resolver.texts node KEY_STATUS = ascii "suspended" := by
    intro t m t' still quiet step
    obtain rfl := Option.some.inj step
    exact suspended_perform still quiet
  exact first.invariant kept start

/-! ## The record as it is read -/

/-- What `resolveStatus` makes of a record. -/
def statusOfRecord (value : Text) : Text := if value = [] then "active".toList else value

theorem resolveStatus_eq (identity : ENSIdentity) (name : Text) (now later : Int) :
    (identity.resolveStatus name now later).1 =
      (identity.text name EnsRecord.status.key now later).1.map statusOfRecord := rfl

/-- The Universal Resolver serves the record at the node for the name. -/
def StatusServed (identity : ENSIdentity) (chain : Text → Text → Except JsError Text) (name : Text)
    (record : Bytes) : Prop :=
  ∃ dnsName resolver, dnsEncode name = .ok dnsName ∧
    chain identity.universalResolver
      (encodeResolveCall dnsName (encodeText (namehash name) EnsRecord.status.key)) =
        .ok (bytesToHex (resolveReply (abiString record) resolver))

theorem recordAt_of_served {identity : ENSIdentity}
    {chainAt : Int → Text → Text → Except JsError Text} {u : Int} {name : Text} {record : Bytes}
    (served : StatusServed identity (chainAt u) name record) (short : record.length < 2 ^ 52) :
    identity.recordAt chainAt u (name, .status) = .ok (Utf8.decode record) := by
  obtain ⟨dnsName, resolver, encoded, answered⟩ := served
  have wrapped : (abiString record).length < 2 ^ 53 := by
    simp only [abiString, abiBytes, List.length_append, length_wordBytes, List.length_replicate]
    omega
  exact bind_eq_ok_iff.mpr ⟨_, @universalResolve_eq (identity.withChain (chainAt u)) _ _ _ _ _ encoded
    answered wrapped, decodeString_abiString (by omega)⟩

/-- An agent whose status reads "suspended" does not start. -/
theorem createAgentProof_suspended {policyHash : PolicyDocument → Text} {config : AgentProofConfig}
    {provider : IdentityProvider} (named : config.identity = some provider)
    (status : provider.resolveStatus config.policy.agent ≠ .ok "active".toList) (deps : Deps) :
    createAgentProof policyHash config ≠ .ok deps := by
  intro started
  simp only [createAgentProof, bind_eq_ok_iff, named] at started
  obtain ⟨policy, -, ⟨⟩, checked, -⟩ := started
  exact status (checkName_eq_ok_iff.mp checked).active

/-- After a suspension that nobody lifts, no agent starts on a status that was read an
entry's life and a reply's delay later, however many readers share the cache. -/
theorem suspension_reaches {suspended final : State H} {sender : Address} {label : Bytes}
    {mined : List (Int × Message H)} {identity : ENSIdentity}
    {chainAt : Int → Text → Text → Except JsError Text} {name : Text} {since lag began : Int}
    {events : List (Event (Text × EnsRecord) Text JsError)}
    {readers : Readers (OrderedMap Text CacheEntry) (Text × EnsRecord) Text JsError}
    (suspension : suspend h s sender label = .ok suspended)
    (calls : Sequence h (fun t m => ¬ Lifts h (s.registrar.agents label).node t m) suspended
      (mined.map Prod.snd) final)
    (served : ∀ u, since ≤ u → StatusServed identity (chainAt u) name
      ((stateAt h suspended mined u).resolver.texts (s.registrar.agents label).node KEY_STATUS))
    (life : 0 ≤ identity.ttlMs)
    (reads : Run identity.recordCache.step (Replies (identity.recordAt chainAt) lag)
      (.start .empty began) events readers)
    {a : Answer (Text × EnsRecord) Text JsError} (mem : a ∈ readers.answers)
    (asked : a.key = (name, .status)) (late : since + (identity.ttlMs + lag) ≤ a.time)
    {policyHash : PolicyDocument → Text} {config : AgentProofConfig} {provider : IdentityProvider}
    (named : config.identity = some provider) (agent : config.policy.agent = name)
    (told : provider.resolveStatus name = a.result.map statusOfRecord) (deps : Deps) :
    createAgentProof policyHash config ≠ .ok deps := by
  have start : suspended.resolver.texts (s.registrar.agents label).node KEY_STATUS =
      ascii "suspended" := by
    obtain ⟨-, -, -, rfl⟩ := suspend_eq_ok.mp suspension
    exact Resolver.putText_self
  have text : Utf8.decode (ascii "suspended") = "suspended".toList := by decide +kernel
  have said (u : Int) (v : Text) (after : since ≤ u)
      (read : identity.recordAt chainAt u (name, .status) = .ok v) : v = "suspended".toList := by
    have record := served u after
    rw [suspended_stateAt start calls u] at record
    have reads := recordAt_of_served record (by decide)
    rw [text] at reads
    exact Except.ok.inj (read.symm.trans reads)
  refine createAgentProof_suspended named ?_ deps
  rw [agent, told]
  cases given : a.result with
  | error e => simp [Except.map]
  | ok value =>
      have recent := answered_recent life identity.recordCache_empty reads mem given
      rw [asked] at recent
      rw [recent.settled late said]
      decide

/-! ### The trader is suspended at 10 -/

def traderSuspended : State Digest := perform .free traderRegistered ⟨0xa, .suspend (ascii "trader")⟩

/-- A stranger's write that reverts. -/
def strangersWrite : List (Int × Message Digest) :=
  [(50, ⟨0xbad, .setText traderNode KEY_STATUS (ascii "active")⟩)]

def traderAt (u : Int) : State Digest :=
  if u < 10 then traderRegistered else stateAt .free traderSuspended strangersWrite u

def traderChain (u : Int) : Text → Text → Except JsError Text := fun _ _ =>
  .ok (bytesToHex (resolveReply (abiString ((traderAt u).resolver.texts traderNode KEY_STATUS)) 0x4e5))

/-- "active" is read at 5 and answered from the cache at 20000; at 30110 it is read again. -/
def traderReads : List (Event (Text × EnsRecord) Text JsError) :=
  [.ask 0 (traderName, .status), .reply 0 9 (.ok "active".toList), .ask 20000 (traderName, .status),
    .ask 30110 (traderName, .status), .reply 0 30115 (.ok "suspended".toList)]

theorem traderChain_served (u : Int) : StatusServed (readerOf []) (traderChain u) traderName
    ((traderAt u).resolver.texts traderNode KEY_STATUS) := by
  have encodes : dnsEncode traderName =
      .ok (bytesToHex ([6] ++ ascii "trader" ++ [10] ++ ascii "agentproof" ++ [3] ++ ascii "eth" ++
        [0])) := by
    decide +kernel
  exact ⟨_, 0x4e5, encodes, rfl⟩

theorem traderChain_says {u : Int} {record : Bytes} {value : Text} (short : record.length < 2 ^ 52)
    (stored : (traderAt u).resolver.texts traderNode KEY_STATUS = record)
    (spelled : Utf8.decode record = value) :
    (readerOf []).recordAt traderChain u (traderName, .status) = .ok value := by
  have served := traderChain_served u
  rw [stored] at served
  rw [recordAt_of_served served short, spelled]

def suspendedProvider : IdentityProvider := ⟨fun _ => .ok [], fun _ => .ok "suspended".toList⟩

theorem suspension_reaches_trader : ∃ (readers : Readers (OrderedMap Text CacheEntry)
      (Text × EnsRecord) Text JsError),
    (⟨(traderName, .status), 20000, .ok "active".toList⟩ : Answer _ _ _) ∈ readers.answers ∧
    (⟨(traderName, .status), 30115, .ok "suspended".toList⟩ : Answer _ _ _) ∈ readers.answers ∧
    ∀ deps, createAgentProof (fun _ => []) { Process.sampleSetup with
      policy := { Process.samplePolicy with agent := traderName }
      identity := some suspendedProvider } ≠ .ok deps := by
  have first : Replies ((readerOf []).recordAt traderChain) 100
      (⟨.empty, 0, [⟨(traderName, .status), 0⟩], []⟩ : Readers (OrderedMap Text CacheEntry)
        (Text × EnsRecord) Text JsError) (.reply 0 9 (.ok "active".toList)) := by
    intro p value waits given
    obtain rfl := Option.some.inj waits
    obtain rfl := Except.ok.inj given
    refine ⟨by decide, 5, by decide, by decide, ?_⟩
    have stored : (traderAt 5).resolver.texts traderNode KEY_STATUS = ascii "active" := by
      decide +kernel
    exact traderChain_says (by decide) stored (by decide +kernel)
  have second (cache : OrderedMap Text CacheEntry) (answers) :
      Replies ((readerOf []).recordAt traderChain) 100
        (⟨cache, 30110, [⟨(traderName, .status), 30110⟩], answers⟩ :
          Readers (OrderedMap Text CacheEntry) (Text × EnsRecord) Text JsError)
        (.reply 0 30115 (.ok "suspended".toList)) := by
    intro p value waits given
    obtain rfl := Option.some.inj waits
    obtain rfl := Except.ok.inj given
    refine ⟨by decide, 30112, by decide, by decide, ?_⟩
    have stored : (traderAt 30112).resolver.texts traderNode KEY_STATUS = ascii "suspended" := by
      decide +kernel
    exact traderChain_says (by decide) stored (by decide +kernel)
  obtain ⟨readers, reads, stale, told⟩ : ∃ readers, Run (readerOf []).recordCache.step
      (Replies ((readerOf []).recordAt traderChain) 100) (.start .empty 0) traderReads readers ∧
      ⟨(traderName, .status), 20000, .ok "active".toList⟩ ∈ readers.answers ∧
      ⟨(traderName, .status), 30115, .ok "suspended".toList⟩ ∈ readers.answers :=
    ⟨_, .cons trivial rfl (.cons first rfl (.cons trivial rfl (.cons trivial rfl
      (.cons (second _ _) rfl .nil)))), .tail _ (.head _), .tail _ (.tail _ (.head _))⟩
  have done : execute .free traderRegistered ⟨0xa, .suspend (ascii "trader")⟩ =
      .ok traderSuspended := ok_perform (by decide +kernel)
  have suspension : suspend .free traderRegistered 0xa (ascii "trader") = .ok traderSuspended := done
  have node : (traderRegistered.registrar.agents (ascii "trader")).node = traderNode := by
    decide +kernel
  obtain ⟨final, calls⟩ : ∃ final, Sequence .free (fun t m => ¬ Lifts .free
      (traderRegistered.registrar.agents (ascii "trader")).node t m) traderSuspended
      (strangersWrite.map Prod.snd) final := by
    refine ⟨_, .cons (fun lifts => ?_) rfl .nil⟩
    rcases lifts with ⟨holds, -⟩ | ⟨owner, -⟩
    · exact absurd holds (by decide +kernel)
    · exact absurd owner (by decide +kernel)
  have served : ∀ u, 10 ≤ u → StatusServed (readerOf []) (traderChain u) traderName
      ((stateAt .free traderSuspended strangersWrite u).resolver.texts
        (traderRegistered.registrar.agents (ascii "trader")).node KEY_STATUS) := by
    intro u after
    have here := traderChain_served u
    rw [traderAt, if_neg (by omega)] at here
    rw [node]
    exact here
  exact ⟨readers, stale, told, fun deps => suspension_reaches suspension calls served (by decide) reads
    told rfl (by decide) rfl rfl rfl deps⟩

end AgentProof
