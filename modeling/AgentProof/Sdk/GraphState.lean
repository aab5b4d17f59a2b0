import AgentProof.Sdk.Json
import AgentProof.Sdk.Policy

/-!
# Reconciled daily spend

`state/GraphStateProvider.ts`: today's spend is read from the subgraph and from
the hook's window, and the larger of the two counts.  The subgraph's reply is
whatever JSON came back; the logger is modelled where building its message can
throw, and nowhere else.

A reply is an answer when it carries no errors and states the first row of
`data.dailyAggregates`.  `getDailySpend` also reads some replies that are no
answer (`Misread`), most of them as a spend of 0.
-/

namespace AgentProof

namespace Sdk

open Js

/-- `http.postJson` for the daily-spend query, by its variables. -/
abbrev PostJson := Text → Nat → Except JsError Json

/-- `chain.call`, by target and calldata. -/
abbrev ChainCall := Text → Text → Except JsError Text

namespace GraphStateProvider

structure Options where
  hook : Text
  chain : Option ChainCall
  logger : Bool
  ttlMs : Option Int

def Options.ttl (options : Options) : Int := options.ttlMs.getD 15000

structure Cached where
  value : Int
  expiresAt : Int
  deriving DecidableEq, Repr

abbrev Cache := OrderedMap Text Cached

/-- `keccak256('window(address)').slice(0, 10)`. -/
def WINDOW_SELECTOR : Text := "0xf3dac3da".toList

def StateUnavailableError (account : Text) : JsError :=
  ⟨"StateUnavailableError".toList,
    "Cannot determine today's spend for ".toList ++ account ++
      (": both the subgraph and the on-chain accumulator are unreachable. " ++
        "Failing closed.").toList⟩

/-- What the provider makes of a reply. -/
def indexedSpend (response : Json) : Except JsError (Option Int) := do
  let errors ← response.property "errors".toList
  let length ← Json.chain errors Json.lengthOf
  if (length.map Json.truthy).getD false then .ok none
  else do
    let data ← response.property "data".toList
    let aggregates ← Json.chain data (Json.property · "dailyAggregates".toList)
    let row ← Json.chain aggregates Json.first
    match row with
    | some row =>
        if row.truthy then do
          let amount ← Json.toBigInt (← row.property "totalOutflow".toList)
          .ok (some amount)
        else .ok (some 0)
    | none => .ok (some 0)

def queryIndexedSpend (postJson : PostJson) (account : Text) (dayUtc : Nat) : Option Int :=
  let read : Except JsError (Option Int) := do
    let response ← postJson (toLowerCase account) dayUtc
    indexedSpend response
  read.toOption.join

/-- The calldata of `window(account)`. -/
def windowCalldata (account : Text) : Text :=
  WINDOW_SELECTOR ++ padStart 64 '0' (toLowerCase (account.drop 2))

/-- What the hook was read to answer; nothing without a chain. -/
def hookReply (options : Options) (account : Text) : Option (Except JsError Text) :=
  options.chain.map fun call => call options.hook (windowCalldata account)

def readOnchainSpend (options : Options) (account : Text) (dayUtc : Nat) : Option Int := do
  let raw ← (← hookReply options account).toOption
  Sdk.readOnchainSpend raw dayUtc

def reconcile (options : Options) (account : Text) (indexed onchain : Option Int) :
    Except JsError Int :=
  match indexed, onchain with
  | none, none => .error (StateUnavailableError account)
  | none, some onchain => .ok onchain
  | some indexed, none => .ok indexed
  | some indexed, some onchain =>
      if indexed ≠ onchain then do
        -- the divergence message shows the normalised account
        if options.logger then
          let _ ← normalizeAddress account
        .ok (if indexed > onchain then indexed else onchain)
      else .ok indexed

def cacheKey (account : Text) (dayUtc : Nat) : Text :=
  toLowerCase account ++ ":".toList ++ toDecimal dayUtc

/-- The entry that still answers a call. -/
def cachedValue (cache : Cache) (account : Text) (dayUtc : Nat) (fresh : Bool) (now : Int) :
    Option Int :=
  match cache.get (cacheKey account dayUtc) with
  | some cached => if ¬ fresh ∧ cached.expiresAt > now then some cached.value else none
  | none => none

/-- A call that is not overlapped by others; `now` is the clock at the cache
check and `later` the clock at the cache write. -/
def getDailySpend (options : Options) (postJson : PostJson) (cache : Cache) (account : Text)
    (dayUtc : Nat) (fresh : Bool) (now later : Int) : Except JsError Int × Cache :=
  match cachedValue cache account dayUtc fresh now with
  | some value => (.ok value, cache)
  | none =>
      match reconcile options account (queryIndexedSpend postJson account dayUtc)
        (readOnchainSpend options account dayUtc) with
      | .ok value => (.ok value, cache.set (cacheKey account dayUtc) ⟨value, later + options.ttl⟩)
      | .error e => (.error e, cache)

/-! ## What counts as an answer -/

/-- The body has an `errors` field that is neither null nor the empty list. -/
def carriesErrors (body : Json) : Bool :=
  match body.field "errors".toList with
  | none | some .null | some (.arr []) => false
  | some _ => true

def dailyAggregates (body : Json) : Option (List Json) := do
  let data ← body.field "data".toList
  let aggregates ← data.field "dailyAggregates".toList
  aggregates.elements?

/-- No row means nothing was spent; a row states its amount. -/
def rowAmount : List Json → Option Int
  | [] => some 0
  | row :: _ => do
      let total ← row.field "totalOutflow".toList
      (Json.toBigInt (some total)).toOption

/-- The amount of a body that is an answer. -/
def bodyAnswer (body : Json) : Option Int := do
  if carriesErrors body then none
  else
    let rows ← dailyAggregates body
    rowAmount rows

def subgraphAnswer (reply : Except JsError Json) : Option Int := do
  let body ← reply.toOption
  bodyAnswer body

/-- Two full words are an answer; another day's window counts for nothing. -/
def wordsAnswer (raw : Text) (dayUtc : Nat) : Option Int :=
  let digits := raw.drop 2
  if 128 ≤ digits.length then
    some (if numeral 16 (slice digits 0 64) = dayUtc then numeral 16 (slice digits 64 128) else 0)
  else none

def hookAnswer (reply : Option (Except JsError Text)) (dayUtc : Nat) : Option Int := do
  let raw ← (← reply).toOption
  wordsAnswer raw dayUtc

/-- The larger of the amounts that were answered. -/
def largest : Option Int → Option Int → Option Int
  | none, none => none
  | some a, none => some a
  | none, some b => some b
  | some a, some b => some (max a b)

/-- The outcome of a call is the largest amount answered, or the refusal with
the cache as it was. -/
def FailsClosed (account : Text) (answer : Option Int) (cache : Cache)
    (outcome : Except JsError Int × Cache) : Prop :=
  match answer with
  | some amount => outcome.1 = .ok amount
  | none => outcome = (.error (StateUnavailableError account), cache)

/-! ## Replies that are read without being an answer -/

/-- `errors?.length` is truthy: the errors the provider notices. -/
def noticesErrors (body : Json) : Bool :=
  match body.field "errors".toList with
  | some (.arr elements) => !elements.isEmpty
  | some (.str s) => !s.isEmpty
  | some (.obj fields) => ((fields.lookup "length".toList).map Json.truthy).getD false
  | _ => false

/-- What stands where the first row is looked for. -/
def foundRow (body : Json) : Option Json := do
  let data ← body.field "data".toList
  match ← data.field "dailyAggregates".toList with
  | .arr elements => elements.head?
  | .obj fields => fields.lookup "0".toList
  | .str s => s.head?.map fun c => .str [c]
  | _ => none

/-- A body that is no answer is read as a spend of `amount`: its errors are of a
kind that has no length, or the rows are missing, no array, or no rows. -/
structure Misread (body : Json) (amount : Int) : Prop where
  value : body ≠ .null
  unnoticed : noticesErrors body = false
  unanswered : bodyAnswer body = none
  amount : match foundRow body with
    | some row =>
        if row.truthy then Json.toBigInt (row.field "totalOutflow".toList) = .ok amount
        else amount = 0
    | none => amount = 0

section Reading

variable {body : Json} {amount : Int}

theorem truthy_length {α : Type} (l : List α) :
    (Json.num (l.length : Rat)).truthy = !l.isEmpty := by
  cases l with
  | nil => rfl
  | cons x rest =>
      have positive : (((x :: rest).length : Nat) : Rat) ≠ 0 :=
        Nat.cast_ne_zero.mpr (Nat.succ_ne_zero _)
      simp only [Json.truthy, ne_eq, positive, not_false_eq_true, decide_true]
      rfl

/-- The provider's look at the errors. -/
theorem chain_lengthOf (body : Json) :
    ∃ length, Json.chain (body.field "errors".toList) Json.lengthOf = .ok length ∧
      (length.map Json.truthy).getD false = noticesErrors body := by
  unfold noticesErrors
  rcases body.field "errors".toList with _ | (_ | b | value | s | elements | fields)
  · exact ⟨none, rfl, rfl⟩
  · exact ⟨none, rfl, rfl⟩
  · exact ⟨none, rfl, rfl⟩
  · exact ⟨none, rfl, rfl⟩
  · exact ⟨_, rfl, truthy_length s⟩
  · exact ⟨_, rfl, truthy_length elements⟩
  · exact ⟨_, rfl, rfl⟩

/-- The provider's look for the row. -/
theorem chain_first (body : Json) :
    ∃ aggregates, Json.chain (body.field "data".toList) (Json.property · "dailyAggregates".toList) =
        .ok aggregates ∧ Json.chain aggregates Json.first = .ok (foundRow body) := by
  unfold foundRow
  rcases body.field "data".toList with _ | data
  · exact ⟨none, rfl, rfl⟩
  · cases data with
    | obj fields =>
        refine ⟨fields.lookup "dailyAggregates".toList, rfl, ?_⟩
        simp only [Json.field, Option.bind_eq_bind, Option.bind_some]
        rcases fields.lookup "dailyAggregates".toList with _ | (_ | _ | _ | _ | _ | _) <;> rfl
    | _ => exact ⟨none, rfl, rfl⟩

/-- Off `null`, the provider's reading in terms of fields. -/
theorem indexedSpend_of_ne_null (value : body ≠ .null) :
    indexedSpend body =
      if noticesErrors body then .ok none
      else
        match foundRow body with
        | some row =>
            if row.truthy then do
              let amount ← Json.toBigInt (row.field "totalOutflow".toList)
              .ok (some amount)
            else .ok (some 0)
        | none => .ok (some 0) := by
  obtain ⟨length, measured, noticed⟩ := chain_lengthOf body
  obtain ⟨aggregates, looked, found⟩ := chain_first body
  have total : ∀ row : Json, row.truthy = true →
      row.property "totalOutflow".toList = .ok (row.field "totalOutflow".toList) :=
    fun row truthy => Json.property_of_ne_null (by rintro rfl; simp [Json.truthy] at truthy) _
  rw [indexedSpend, Json.property_of_ne_null value]
  simp only [bind, Except.bind, measured, noticed]
  by_cases errors : noticesErrors body = true
  · rw [if_pos errors, if_pos errors]
  · rw [if_neg errors, if_neg errors, Json.property_of_ne_null value]
    simp only [looked, found]
    cases foundRow body with
    | none => rfl
    | some r =>
        by_cases truthy : r.truthy = true
        · simp only [truthy, if_true, total r truthy]
        · simp only [truthy, Bool.false_eq_true, if_false]

/-- An answer is read as it stands. -/
theorem indexedSpend_of_answer (answer : bodyAnswer body = some amount) :
    indexedSpend body = .ok (some amount) := by
  simp only [bodyAnswer, dailyAggregates] at answer
  split at answer
  · simp at answer
  · next quiet =>
      simp only [Option.bind_eq_bind, Option.bind_eq_some_iff] at answer
      obtain ⟨rows, ⟨data, atData, aggregates, atRows, isArray⟩, amounts⟩ := answer
      have value : body ≠ .null := by
        rintro rfl
        simp [Json.field] at atData
      have array : aggregates = .arr rows := by
        cases aggregates <;> simp_all [Json.elements?]
      have unnoticed : noticesErrors body = false := by
        revert quiet
        unfold carriesErrors noticesErrors
        rcases body.field "errors".toList with _ | (_ | _ | _ | _ | (_ | _) | _) <;> simp
      have found : foundRow body = rows.head? := by
        simp only [foundRow, atData, atRows, array, Option.bind_eq_bind, Option.bind_some]
      rw [indexedSpend_of_ne_null value, unnoticed, found]
      cases rows with
      | nil => simpa [rowAmount] using amounts
      | cons row rest =>
          simp only [rowAmount, Option.bind_eq_bind, Option.bind_eq_some_iff] at amounts
          obtain ⟨total, atTotal, converted⟩ := amounts
          have truthy : row.truthy = true := by
            cases row <;> simp_all [Json.field, Json.truthy]
          simp only [List.head?_cons, truthy, if_true, atTotal]
          rcases converts : Json.toBigInt (some total) with e | a
          · rw [converts] at converted
            simp [Except.toOption] at converted
          · rw [converts] at converted
            simp only [Except.toOption, Option.some.injEq] at converted
            rw [← converted]
            rfl

/-- What is read is an answer or misread. -/
theorem indexedSpend_eq_ok_some_iff :
    indexedSpend body = .ok (some amount) ↔ bodyAnswer body = some amount ∨ Misread body amount := by
  constructor
  · intro read
    rcases unanswered : bodyAnswer body with _ | answer
    · refine .inr ?_
      have value : body ≠ .null := by
        rintro rfl
        simp [indexedSpend, Json.property, Json.typeError, bind, Except.bind] at read
      rw [indexedSpend_of_ne_null value] at read
      split at read
      · simp at read
      · next quiet =>
          refine ⟨value, by simpa using quiet, unanswered, ?_⟩
          revert read
          cases foundRow body with
          | none => simp [eq_comm]
          | some row =>
              intro read
              dsimp only at read ⊢
              split at read
              · next truthy =>
                  simp only [bind_eq_ok_iff, Except.ok.injEq, Option.some.injEq] at read
                  obtain ⟨a, converted, rfl⟩ := read
                  rw [if_pos truthy, converted]
              · next falsy =>
                  rw [if_neg falsy]
                  simpa [eq_comm] using read
    · rw [indexedSpend_of_answer unanswered, Except.ok.injEq] at read
      exact .inl read
  · rintro (answer | misread)
    · exact indexedSpend_of_answer answer
    · have amounts := misread.amount
      rw [indexedSpend_of_ne_null misread.value, misread.unnoticed]
      revert amounts
      cases foundRow body with
      | none =>
          rintro rfl
          rfl
      | some row =>
          intro amounts
          dsimp only at amounts ⊢
          by_cases truthy : row.truthy = true
          · rw [if_pos truthy] at amounts
            simp only [truthy, if_true, amounts, Bool.false_eq_true, if_false]
            rfl
          · rw [if_neg truthy] at amounts
            simp [truthy, amounts]

end Reading

/-! ## The hook's reply -/

/-- Rounding does not reach below 2^53. -/
theorem toNumber_eq_iff {n day : Nat} (small : day < 2 ^ 53) : toNumber n = day ↔ n = day := by
  rcases Nat.lt_or_ge n (2 ^ 53) with exact | large
  · rw [toNumber_of_lt exact]
  · have exponent : 53 ≤ Nat.log2 n :=
      (Nat.le_log2 (by omega)).mpr large
    have lower : 2 ^ Nat.log2 n ≤ n := Nat.log2_self_le (by omega)
    have mantissa : 2 ^ 52 ≤ n / 2 ^ (Nat.log2 n - 52) := by
      rw [Nat.le_div_iff_mul_le (Nat.two_pow_pos _), ← pow_add,
        Nat.add_sub_of_le (by omega : 52 ≤ Nat.log2 n)]
      exact lower
    have unit : 2 ^ 1 ≤ 2 ^ (Nat.log2 n - 52) := Nat.pow_le_pow_right (by norm_num) (by omega)
    have rounded : 2 ^ 53 ≤ toNumber n := by
      unfold toNumber
      calc 2 ^ 53 = 2 ^ 52 * 2 ^ 1 := by norm_num
        _ ≤ _ := Nat.mul_le_mul (by split_ifs <;> omega) unit
    omega

/-- A hexadecimal reply is read for what it answers. -/
theorem readOnchainSpend_eq_wordsAnswer {raw : Text} {dayUtc : Nat} (hex : isHex raw = true)
    (small : dayUtc < 2 ^ 53) : Sdk.readOnchainSpend raw dayUtc = wordsAnswer raw dayUtc := by
  obtain ⟨digits, rfl, allHex⟩ : ∃ digits, raw = '0' :: 'x' :: digits ∧ AllHex digits := by
    unfold isHex at hex
    split at hex
    · exact ⟨_, rfl, hex⟩
    · simp at hex
  have day : slice ('0' :: 'x' :: digits) 2 66 = slice digits 0 64 := rfl
  have spent : slice ('0' :: 'x' :: digits) 66 130 = slice digits 64 128 := rfl
  rw [wordsAnswer, Sdk.readOnchainSpend, day, spent]
  simp only [List.drop_succ_cons, List.drop_zero, List.length_cons]
  by_cases two : 128 ≤ digits.length
  · have word (start stop : Nat) (inside : start < stop) (fits : stop ≤ 128) :
        bigIntHex (slice digits start stop) = .ok (numeral 16 (slice digits start stop)) := by
      refine bigIntHex_of_allHex (allHex.slice start stop) (List.ne_nil_of_length_pos ?_)
      rw [slice, List.length_take, List.length_drop]
      omega
    rw [if_pos two, if_neg (by omega), word 0 64 (by omega) (by omega),
      word 64 128 (by omega) (by omega)]
    simp only [bind, Except.bind, toNumber_eq_iff small]
    rfl
  · rw [if_neg two, if_pos (by omega)]
    rfl

/-! ## Failing closed -/

section Claim

variable {options : Options} {postJson : PostJson} {cache : Cache} {account : Text} {dayUtc : Nat}
  {fresh : Bool} {now later : Int}

/-- Every reply of the hook is hexadecimal text. -/
def HexReplies (options : Options) (account : Text) : Prop :=
  ∀ raw, hookReply options account = some (.ok raw) → isHex raw = true

theorem readOnchainSpend_eq_hookAnswer (hex : HexReplies options account)
    (small : dayUtc < 2 ^ 53) :
    readOnchainSpend options account dayUtc =
      hookAnswer (hookReply options account) dayUtc := by
  unfold readOnchainSpend hookAnswer
  rcases replied : hookReply options account with _ | (e | raw)
  · rfl
  · rfl
  · exact readOnchainSpend_eq_wordsAnswer (hex raw replied) small

/-- The hook's reply, read. -/
theorem readOnchainSpend_of_reply {raw : Text}
    (reply : hookReply options account = some (.ok raw)) :
    readOnchainSpend options account dayUtc = Sdk.readOnchainSpend raw dayUtc := by
  rw [readOnchainSpend, reply]
  rfl

/-- Reconciliation is the maximum. -/
theorem reconcile_eq {address : Text} (valid : normalizeAddress account = .ok address)
    (indexed onchain : Option Int) :
    reconcile options account indexed onchain =
      match largest indexed onchain with
      | some amount => .ok amount
      | none => .error (StateUnavailableError account) := by
  cases indexed with
  | none => cases onchain <;> rfl
  | some indexed =>
      cases onchain with
      | none => rfl
      | some onchain =>
          simp only [reconcile, largest]
          rcases eq_or_ne indexed onchain with rfl | diverge
          · rw [if_neg (by simp), max_self]
          · rw [if_pos diverge]
            have chosen : (if indexed > onchain then indexed else onchain) = max indexed onchain := by
              split_ifs with ahead
              · exact (max_eq_left (le_of_lt ahead)).symm
              · exact (max_eq_right (not_lt.mp ahead)).symm
            rw [chosen]
            cases options.logger
            · rfl
            · simp [valid, bind, Except.bind]

theorem queryIndexedSpend_eq_some_iff {amount : Int} :
    queryIndexedSpend postJson account dayUtc = some amount ↔
      ∃ body, postJson (toLowerCase account) dayUtc = .ok body ∧
        (bodyAnswer body = some amount ∨ Misread body amount) := by
  unfold queryIndexedSpend
  rcases postJson (toLowerCase account) dayUtc with e | body
  · simp [bind, Except.bind, Except.toOption]
  · simp only [bind, Except.bind, Except.ok.injEq, exists_eq_left',
      ← indexedSpend_eq_ok_some_iff]
    rcases indexedSpend body with e | (_ | a) <;> simp [Except.toOption]

/-- An uncached call returns the largest amount that was read. -/
theorem getDailySpend_of_reads {address : Text} (valid : normalizeAddress account = .ok address)
    (uncached : cachedValue cache account dayUtc fresh now = none) {indexed onchain : Option Int}
    (query : queryIndexedSpend postJson account dayUtc = indexed)
    (hook : readOnchainSpend options account dayUtc = onchain) :
    getDailySpend options postJson cache account dayUtc fresh now later =
      match largest indexed onchain with
      | some amount =>
          (.ok amount, cache.set (cacheKey account dayUtc) ⟨amount, later + options.ttl⟩)
      | none => (.error (StateUnavailableError account), cache) := by
  simp only [getDailySpend, uncached, query, hook, reconcile_eq valid]
  cases largest indexed onchain <;> rfl

theorem getDailySpend_of_uncached {address : Text}
    (valid : normalizeAddress account = .ok address) (small : dayUtc < 2 ^ 53)
    (hex : HexReplies options account)
    (uncached : cachedValue cache account dayUtc fresh now = none) :
    getDailySpend options postJson cache account dayUtc fresh now later =
      match largest (queryIndexedSpend postJson account dayUtc)
        (hookAnswer (hookReply options account) dayUtc) with
      | some amount =>
          (.ok amount, cache.set (cacheKey account dayUtc) ⟨amount, later + options.ttl⟩)
      | none => (.error (StateUnavailableError account), cache) :=
  getDailySpend_of_reads valid uncached rfl (readOnchainSpend_eq_hookAnswer hex small)

/-- A spend that is read is an answer, or misread from a body that is none. -/
theorem queryIndexedSpend_eq_some_of_unanswered {amount : Int}
    (unanswered : subgraphAnswer (postJson (toLowerCase account) dayUtc) = none) :
    queryIndexedSpend postJson account dayUtc = some amount ↔
      ∃ body, postJson (toLowerCase account) dayUtc = .ok body ∧ Misread body amount := by
  rw [queryIndexedSpend_eq_some_iff]
  refine exists_congr fun body => and_congr_right fun replied => or_iff_right ?_
  intro answer
  rw [subgraphAnswer, replied] at unanswered
  exact absurd (answer.symm.trans unanswered) (by simp)

/-- An uncached call fails closed exactly when the hook answers with at least
what a reply that is no answer is read as. -/
theorem getDailySpend_failsClosed_iff {address : Text}
    (valid : normalizeAddress account = .ok address) (small : dayUtc < 2 ^ 53)
    (hex : HexReplies options account)
    (uncached : cachedValue cache account dayUtc fresh now = none) :
    FailsClosed account
        (largest (subgraphAnswer (postJson (toLowerCase account) dayUtc))
          (hookAnswer (hookReply options account) dayUtc)) cache
        (getDailySpend options postJson cache account dayUtc fresh now later) ↔
      ∀ body amount, postJson (toLowerCase account) dayUtc = .ok body → Misread body amount →
        ∃ spent, hookAnswer (hookReply options account) dayUtc = some spent ∧ amount ≤ spent := by
  rw [getDailySpend_of_uncached valid small hex uncached]
  generalize hookAnswer (hookReply options account) dayUtc = onchain
  rcases answer : subgraphAnswer (postJson (toLowerCase account) dayUtc) with _ | stated
  · have misreads := @queryIndexedSpend_eq_some_of_unanswered postJson account dayUtc
    rcases read : queryIndexedSpend postJson account dayUtc with _ | amount
    · refine iff_of_true ?_ fun body amount replied misread => ?_
      · cases onchain <;> simp [largest, FailsClosed]
      · have reads := (misreads answer).mpr ⟨body, replied, misread⟩
        simp [read] at reads
    · obtain ⟨body, replied, misread⟩ := (misreads answer).mp read
      have only : ∀ body' amount', postJson (toLowerCase account) dayUtc = .ok body' →
          Misread body' amount' → amount' = amount := fun body' amount' replied' misread' => by
        have reads := (misreads answer).mpr ⟨body', replied', misread'⟩
        exact Option.some.inj (reads.symm.trans read)
      cases onchain with
      | none =>
          refine iff_of_false (by simp [largest, FailsClosed]) fun covered => ?_
          obtain ⟨spent, impossible, -⟩ := covered body amount replied misread
          simp at impossible
      | some spent =>
          have larger : FailsClosed account (largest none (some spent)) cache
              (.ok (max amount spent), cache.set (cacheKey account dayUtc)
                ⟨max amount spent, later + options.ttl⟩) ↔ amount ≤ spent := by
            simp [FailsClosed, largest]
          refine larger.trans ⟨fun covered body' amount' replied' misread' => ?_, fun covered => ?_⟩
          · rw [only body' amount' replied' misread']
            exact ⟨spent, rfl, covered⟩
          · obtain ⟨spent', same, covered⟩ := covered body amount replied misread
            rwa [Option.some.inj same]
  · obtain ⟨body, replied, stated'⟩ :
        ∃ body, postJson (toLowerCase account) dayUtc = .ok body ∧ bodyAnswer body = some stated := by
      rcases replied : postJson (toLowerCase account) dayUtc with e | body
      · rw [replied] at answer
        simp [subgraphAnswer, Except.toOption] at answer
      · rw [replied] at answer
        exact ⟨body, rfl, answer⟩
    have read : queryIndexedSpend postJson account dayUtc = some stated :=
      queryIndexedSpend_eq_some_iff.mpr ⟨body, replied, .inl stated'⟩
    refine iff_of_true ?_ fun body' amount replied' misread => ?_
    · rw [read]
      cases onchain <;> simp [largest, FailsClosed]
    · rw [replied, Except.ok.injEq] at replied'
      have unanswered := misread.unanswered
      rw [← replied', stated'] at unanswered
      simp at unanswered

/-- A reply without data, and no chain to ask: the refusal is missed. -/
def emptyBody : PostJson := fun _ _ => .ok (.obj [])

def sampleReader : Text := addressText 0xacc0

theorem getDailySpend_reads_emptyBody :
    ¬ FailsClosed sampleReader
      (largest (subgraphAnswer (emptyBody (toLowerCase sampleReader) 20000))
        (hookAnswer (hookReply ⟨[], none, true, none⟩ sampleReader) 20000)) .empty
      (getDailySpend ⟨[], none, true, none⟩ emptyBody .empty sampleReader 20000 false 0 0) := by
  intro closed
  have outcome : getDailySpend ⟨[], none, true, none⟩ emptyBody .empty sampleReader 20000 false 0
      0 = (.error (StateUnavailableError sampleReader), .empty) := closed
  have read := congrArg Prod.fst outcome
  have zero : (getDailySpend ⟨[], none, true, none⟩ emptyBody .empty sampleReader 20000 false 0
      0).1 = .ok 0 := by decide +kernel
  rw [zero] at read
  cases read

/-- The hook has recorded a spend of 7 on the day. -/
def sampleHook : Options :=
  ⟨[], some fun _ _ => .ok (bytesToHex (encodeWords [20000, 7])), true, none⟩

/-- With the hook's answer beside it the empty body does no harm. -/
theorem getDailySpend_failsClosed_sampleHook :
    FailsClosed sampleReader
      (largest (subgraphAnswer (emptyBody (toLowerCase sampleReader) 20000))
        (hookAnswer (hookReply sampleHook sampleReader) 20000)) .empty
      (getDailySpend sampleHook emptyBody .empty sampleReader 20000 false 0 0) := by
  have answer : hookAnswer (hookReply sampleHook sampleReader) 20000 = some 7 := by decide +kernel
  have valid : normalizeAddress sampleReader = .ok sampleReader :=
    normalizeAddress_addressText _
  have uncached : cachedValue .empty sampleReader 20000 false 0 = none := rfl
  have hex : HexReplies sampleHook sampleReader := by
    intro raw replied
    have answered : hookReply sampleHook sampleReader =
        some (.ok (bytesToHex (encodeWords [20000, 7]))) := rfl
    rw [answered, Option.some.injEq, Except.ok.injEq] at replied
    rw [← replied]
    exact isHex_bytesToHex _
  have day : 20000 < 2 ^ 53 := by norm_num
  have exact := @getDailySpend_failsClosed_iff sampleHook emptyBody .empty sampleReader 20000 false
    0 0 sampleReader valid day hex uncached
  rw [exact]
  intro body amount replied misread
  rw [emptyBody, Except.ok.injEq] at replied
  subst replied
  have zero : amount = 0 := misread.amount
  exact ⟨7, answer, by omega⟩

end Claim

end GraphStateProvider

end Sdk

end AgentProof
