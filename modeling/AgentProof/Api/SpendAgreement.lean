import AgentProof.Api.Requests
import AgentProof.Sdk.GraphState

/-!
# What the reconciliation view compares

`GET /v1/spend/:account` on a server with a subgraph and an RPC, from its arrival to
its response.  The amount the view calls the subgraph's is the state provider's, which
has merged both sources already; the hook is read once more for the other side.
-/

namespace AgentProof

namespace Api

open Sdk Js Sdk.GraphStateProvider

variable {M Payload : Type} [DecidableEq M]

/-- `context.readOnchainSpend`. -/
def readOnchainSpend (call : ChainCall) (policy : ResolvedPolicy) (account : Text) (now : Nat) :
    Option Int := do
  let raw ← (call policy.hook (windowCalldata account)).toOption
  Sdk.readOnchainSpend raw (utcDay now)

/-- The server, the clock, and what the chain would answer, at a wait of a request. -/
structure Moment (M : Type) where
  server : Server M
  now : Nat
  call : ChainCall
  /-- The last time that `Date.now()` can tell. -/
  inRange : now ≤ 8640000000000000

/-- The state provider in production mode, with what the subgraph answers and what
was read before. -/
structure StateReads where
  options : GraphStateProvider.Options
  postJson : PostJson
  cache : GraphStateProvider.Cache

/-- The response to a spend request: it arrives, the state provider is asked, and then
the hook. -/
def spendRoute (o : ServerOptions M Payload) (reads : StateReads) (request : Request M)
    (arrival asked answered : Moment M) (random : Text) : Option (Response M) :=
  match (arrive o arrival.server arrival.now request).1 with
  | .readingSpend account dayUtc => do
      let spent := (getDailySpend reads.options reads.postJson reads.cache account dayUtc false
        arrival.now asked.now).1
      let (waiting, _) ← advance o asked.server asked.now random request
        (.readingSpend account dayUtc) (.dailySpend spent)
      let onchain := readOnchainSpend answered.call answered.server.policy account answered.now
      let (ended, _) ← advance o answered.server answered.now random request waiting
        (.onchain onchain)
      ended.response
  | phase => phase.response

/-- The view says whether the subgraph and the hook agree, and what each of them says. -/
structure ReportsAgreement (indexed onchain : Int) (view : SpendView) : Prop where
  reconciled : view.reconciled = some true ↔ indexed = onchain
  lagging : indexed < onchain → view.reconciled = some false
  spentGraph : view.spentGraph = indexed
  spentOnchain : view.spentOnchain = some onchain

/-- A comparison with one of the numbers a maximum was taken of. -/
theorem reportsAgreement_spendView_iff {policy : ResolvedPolicy} {account : Text} {dayUtc : Nat}
    {indexed onchain : Int} :
    ReportsAgreement indexed onchain
        (spendView policy account dayUtc (max indexed onchain) (some onchain)) ↔
      onchain ≤ indexed := by
  constructor
  · intro reports
    exact max_eq_left_iff.mp reports.spentGraph
  · intro covered
    have merged : max indexed onchain = indexed := max_eq_left covered
    rw [merged]
    refine ⟨?_, fun lagging => absurd covered (not_le.mpr lagging), rfl, rfl⟩
    simp [spendView]

/-- A choice that is not the first is the second. -/
theorem eq_of_ite {α : Type} {p : Prop} [Decidable p] {a b c : α} (chosen : (if p then a else b) = c)
    (other : a ≠ c) : b = c := by
  split at chosen
  · exact absurd chosen other
  · exact chosen

omit [DecidableEq M] in
/-- An account that a spend request is routed for is an address. -/
theorem isAddress_of_route {request : Request M} {account : Text}
    (route : request.route = .spend account) : isAddress account = true := by
  have late : ∀ other ∈ [Route.preflight, .health, .dashboard, .openapi, .login, .verify, .decode],
      other ≠ .spend account := by simp
  unfold Request.route at route
  replace route := eq_of_ite route (late _ (by simp))
  replace route := eq_of_ite route (late _ (by simp))
  replace route := eq_of_ite route (late _ (by simp))
  replace route := eq_of_ite route (late _ (by simp))
  replace route := eq_of_ite route (late _ (by simp))
  replace route := eq_of_ite route (late _ (by simp))
  replace route := eq_of_ite route (late _ (by simp))
  split at route
  · cases route
  · split at route
    · next name spend =>
        obtain rfl := Route.spend.inj route
        have kept := (Option.filter_eq_some_iff.mp spend).2
        exact (of_decide_eq_true kept).1
    · repeat replace route := eq_of_ite route (by simp)
      cases route

section Reads

variable {o : ServerOptions M Payload} {reads : StateReads} {request : Request M}
  {arrival asked answered : Moment M} {random account : Text} {indexed : Int} {onchain : Nat}

/-- The subgraph answers with one amount, and the hook both times with the other for
its day. -/
structure BothAnswer (reads : StateReads) (arrival answered : Moment M) (account : Text)
    (indexed : Int) (onchain : Nat) : Prop where
  subgraph : subgraphAnswer (reads.postJson (toLowerCase account) (utcDay arrival.now)) = some indexed
  hex : HexReplies reads.options account
  hook : hookAnswer (hookReply reads.options account) (utcDay arrival.now) = some (onchain : Int)
  again : ∃ raw, answered.call answered.server.policy.hook (windowCalldata account) = .ok raw ∧
    isHex raw = true ∧ wordsAnswer raw (utcDay answered.now) = some (onchain : Int)

omit [DecidableEq M] in
theorem Moment.utcDay_lt (moment : Moment M) : utcDay moment.now < 2 ^ 53 := by
  have inRange := moment.inRange
  rw [utcDay]
  omega

/-- The response compares the larger amount with the hook's. -/
theorem spendRoute_eq (route : request.route = .spend account) (readsChain : o.readsChain = true)
    (uncached : cachedValue reads.cache account (utcDay arrival.now) false arrival.now = none)
    (answers : BothAnswer reads arrival answered account indexed onchain) :
    spendRoute o reads request arrival asked answered random =
      some (.spend (spendView answered.server.policy account (utcDay arrival.now)
        (max indexed onchain) (some onchain))) := by
  have valid := normalizeAddress_of_isAddress (isAddress_of_route route)
  obtain ⟨raw, replied, hex, words⟩ := answers.again
  have query : queryIndexedSpend reads.postJson account (utcDay arrival.now) = some indexed := by
    have answer := answers.subgraph
    rcases posted : reads.postJson (toLowerCase account) (utcDay arrival.now) with e | body
    · simp [posted, subgraphAnswer, Except.toOption] at answer
    · rw [posted] at answer
      exact queryIndexedSpend_eq_some_iff.mpr ⟨body, posted, .inl answer⟩
  have hook : GraphStateProvider.readOnchainSpend reads.options account (utcDay arrival.now) =
      some (onchain : Int) :=
    (readOnchainSpend_eq_hookAnswer answers.hex arrival.utcDay_lt).trans answers.hook
  have spent : (getDailySpend reads.options reads.postJson reads.cache account (utcDay arrival.now)
      false arrival.now asked.now).1 = .ok (max indexed onchain) := by
    rw [getDailySpend_of_reads valid uncached query hook]
    rfl
  have read : readOnchainSpend answered.call answered.server.policy account answered.now =
      some (onchain : Int) := by
    rw [readOnchainSpend, replied]
    exact (readOnchainSpend_eq_wordsAnswer hex answered.utcDay_lt).trans words
  have start : (arrive o arrival.server arrival.now request).1 =
      .readingSpend account (utcDay arrival.now) := by
    rw [arrive, route]
  rw [spendRoute, start]
  simp only [spent, read, advance, readsChain, if_true]
  rfl

/-- The view reports the agreement exactly if the subgraph is not behind the hook. -/
theorem spendRoute_reportsAgreement_iff (route : request.route = .spend account)
    (readsChain : o.readsChain = true)
    (uncached : cachedValue reads.cache account (utcDay arrival.now) false arrival.now = none)
    (answers : BothAnswer reads arrival answered account indexed onchain) :
    (∃ view, spendRoute o reads request arrival asked answered random = some (.spend view) ∧
        ReportsAgreement indexed onchain view) ↔
      (onchain : Int) ≤ indexed := by
  rw [spendRoute_eq route readsChain uncached answers]
  constructor
  · rintro ⟨view, same, reports⟩
    obtain rfl := Response.spend.inj (Option.some.inj same)
    exact reportsAgreement_spendView_iff.mp reports
  · intro covered
    exact ⟨_, rfl, reportsAgreement_spendView_iff.mpr covered⟩

end Reads

/-! ### An indexer that is behind -/

/-- A subgraph that has indexed a spend, and no cache yet. -/
def sampleReads (indexed : Nat) : StateReads where
  options := sampleHook
  postJson _ _ := .ok (.obj [("data".toList, .obj [("dailyAggregates".toList,
    .arr [.obj [("totalOutflow".toList, .str (toDecimal indexed))]])])])
  cache := .empty

/-- A time on the day for which the hook has recorded a spend of 7. -/
def sampleMoment : Moment Text where
  server := .started samplePolicy none
  now := 20000 * 86400000
  call _ _ := .ok (bytesToHex (encodeWords [20000, 7]))
  inRange := by decide

def sampleSpend : Request Text :=
  ⟨"GET".toList, "/v1/spend/".toList ++ sampleReader, none, none, none⟩

def chainServer : ServerOptions Text Text := { sampleServer none with readsChain := true }

theorem route_sampleSpend : sampleSpend.route = .spend sampleReader := by decide +kernel

theorem bothAnswer_sampleReads (indexed : Nat) :
    BothAnswer (sampleReads indexed) sampleMoment sampleMoment sampleReader indexed 7 where
  subgraph := by
    have total : Json.toBigInt (some (.str (toDecimal indexed))) = .ok (indexed : Int) :=
      bigInt_toDecimal indexed
    have row : rowAmount [.obj [("totalOutflow".toList, .str (toDecimal indexed))]] =
        some (indexed : Int) := by
      rw [rowAmount]
      exact congrArg (fun read => Except.toOption read) total
    exact row
  hex raw replied := by
    have answered : hookReply sampleHook sampleReader =
        some (.ok (bytesToHex (encodeWords [20000, 7]))) := rfl
    rw [sampleReads, answered, Option.some.injEq, Except.ok.injEq] at replied
    rw [← replied]
    exact isHex_bytesToHex _
  hook := by
    change hookAnswer (hookReply sampleHook sampleReader) 20000 = some 7
    decide +kernel
  again := ⟨_, rfl, isHex_bytesToHex _, by decide +kernel⟩

/-- The subgraph has indexed 3 of 7, and the view says that they agree. -/
theorem not_reportsAgreement_behind :
    ∃ view, spendRoute chainServer (sampleReads 3) sampleSpend sampleMoment sampleMoment
        sampleMoment [] = some (.spend view) ∧ view.reconciled = some true ∧
      ¬ ReportsAgreement 3 7 view := by
  refine ⟨_, spendRoute_eq route_sampleSpend rfl rfl (bothAnswer_sampleReads 3), by decide,
    fun reports => ?_⟩
  exact absurd reports.spentGraph (by decide)

theorem spendRoute_reportsAgreement_ahead :
    ∃ view, spendRoute chainServer (sampleReads 9) sampleSpend sampleMoment sampleMoment
      sampleMoment [] = some (.spend view) ∧ ReportsAgreement 9 7 view :=
  (spendRoute_reportsAgreement_iff (o := chainServer) route_sampleSpend rfl rfl
    (bothAnswer_sampleReads 9)).mpr (by decide)

end Api

end AgentProof
