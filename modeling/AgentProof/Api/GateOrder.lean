import AgentProof.Api.Gate

/-!
# The order of payments

Whatever facilitator and work do, and however the requests interleave: work
comes after a verdict that the payment is valid, settlement comes after the
work and at most once, and a request that is not answered leaves its payment to
be claimed again.  A claim in flight is nobody else's to release.

This is so while gating is enabled; a gate that is not works for anyone.
-/

namespace AgentProof

namespace Api

open Runs

variable {Payload Result : Type} {codec : PaymentCodec Payload} {guard : ReplayGuard}

/-! ## What one step can do -/

/-- What becomes of a request on arrival, by the header it presents. -/
inductive Admission (codec : PaymentCodec Payload) (guard : ReplayGuard) :
    Option Text → GateCall Result × ReplayGuard → Prop
  | turnedAway {presented : Option Text} {reply : Reply Result}
      (unanswered : reply.isAnswered = false) :
      Admission codec guard presented (.finished none reply, guard)
  | claimed {header : Text} {requirements : PaymentRequirements} {now : Int}
      (free : codec.sha256 header ∉ guard.seen.keys) :
      Admission codec guard (some header) (.verifying header requirements,
        { guard with seen := guard.seen.set (codec.sha256 header) now })

theorem gate_admission {options : X402Options} {resource : Text} {presented : Option Text}
    {nonce : Text} {now : Int} (enabled : options.enabled = true) (within : guard.Within now) :
    Admission codec guard presented
      (gate codec guard options resource presented nonce now :
        GateCall Result × ReplayGuard) := by
  unfold gate
  rw [if_neg (not_not.mpr enabled)]
  cases options.requirements resource nonce with
  | error e => exact .turnedAway rfl
  | ok requirements =>
      match presented with
      | none => exact .turnedAway rfl
      | some [] => exact .turnedAway rfl
      | some (c :: rest) =>
          dsimp only
          by_cases payment : isWellFormedPayment codec (c :: rest) = true
          · rw [if_neg (not_not.mpr payment), ReplayGuard.claim_of_within within]
            by_cases used : codec.sha256 (c :: rest) ∈ guard.seen.keys
            · rw [if_pos used]
              exact .turnedAway rfl
            · rw [if_neg used]
              exact .claimed used
          · rw [if_pos payment]
            exact .turnedAway rfl

/-- What an answer from outside makes of a request that waits for it. -/
inductive Advance (codec : PaymentCodec Payload) (guard : ReplayGuard) (i : Nat) :
    GateEvent Result → GateCall Result → GateCall Result × ReplayGuard → Prop
  | unverified {header : Text} {requirements : PaymentRequirements}
      {verdict : Except JsError Verification} {reply : Reply Result}
      (unanswered : reply.isAnswered = false) :
      Advance codec guard i (.verifyReplies i verdict) (.verifying header requirements)
        (.finished (some header) reply, guard.release codec.sha256 header)
  | valid {header : Text} {requirements : PaymentRequirements} {reason : Option Text} :
      Advance codec guard i (.verifyReplies i (.ok ⟨true, reason⟩))
        (.verifying header requirements) (.working (some (header, requirements)), guard)
  | failed {header : Text} {requirements : PaymentRequirements} {e : JsError} :
      Advance codec guard i (.workReplies i (.error e)) (.working (some (header, requirements)))
        (.finished (some header) (.raised e), guard.release codec.sha256 header)
  | done {header : Text} {requirements : PaymentRequirements} {result : Result} :
      Advance codec guard i (.workReplies i (.ok result)) (.working (some (header, requirements)))
        (.settling header requirements result, guard)
  | served {header : Text} {requirements : PaymentRequirements} {result : Result}
      {reply : Except JsError SettlementResult} :
      Advance codec guard i (.settleReplies i reply) (.settling header requirements result)
        (settled header result reply, guard)

theorem verified_advance (i : Nat) (header : Text) (requirements : PaymentRequirements)
    (reply : Except JsError Verification) :
    Advance codec guard i (.verifyReplies i reply) (.verifying header requirements)
      (verified codec guard header requirements reply : GateCall Result × ReplayGuard) := by
  match reply with
  | .error e => exact .unverified rfl
  | .ok ⟨true, reason⟩ => exact .valid
  | .ok ⟨false, reason⟩ => exact .unverified rfl

theorem worked_advance (i : Nat) (header : Text) (requirements : PaymentRequirements)
    (reply : Except JsError Result) :
    Advance codec guard i (.workReplies i reply) (.working (some (header, requirements)))
      (worked codec guard (some (header, requirements)) reply) := by
  cases reply with
  | error e => exact .failed
  | ok result => exact .done

namespace Gates

variable {s s' : Gates Result} {i j : Nat} {header : Text} {presented : Option Text}
  {moved : GateCall Result × ReplayGuard} {request : GateRequest Result} {e : GateEvent Result}
  {events : List (GateEvent Result)}

/-- The guard evicts nothing at a claim. -/
def WithinLimits (s : Gates Result) : GateEvent Result → Prop
  | .arrives _ _ _ _ now => s.guard.Within now
  | _ => True

/-- The request has come through a gate that asks for payment. -/
def Gated (s : Gates Result) : GateEvent Result → Prop
  | .arrives options _ _ _ now => options.enabled = true ∧ s.guard.Within now
  | _ => True

/-- Nobody works unpaid. -/
def Paid (s : Gates Result) : Prop :=
  ∀ (i : Nat) (presented : Option Text), s.requests[i]? ≠ some ⟨presented, .working none⟩

/-- A step, taken apart. -/
inductive Steps (codec : PaymentCodec Payload) (s : Gates Result) :
    GateEvent Result → Gates Result → Prop
  | receive {options : X402Options} {resource nonce : Text} {presented : Option Text} {now : Int}
      {moved : GateCall Result × ReplayGuard} (admission : Admission codec s.guard presented moved) :
      Steps codec s (.arrives options resource presented nonce now) (s.receive presented moved)
  | become {e : GateEvent Result} {i : Nat} {request : GateRequest Result}
      {moved : GateCall Result × ReplayGuard} (at_i : s.requests[i]? = some request)
      (advance : Advance codec s.guard i e request.call moved) :
      Steps codec s e (s.become i request.header moved)

theorem steps_of_step (paid : s.Paid) (gated : s.Gated e) (stepped : step codec s e = some s') :
    Steps codec s e s' := by
  cases e with
  | arrives options resource presented nonce now =>
      obtain ⟨enabled, within⟩ := gated
      cases Option.some.inj stepped
      exact .receive (gate_admission enabled within)
  | verifyReplies i reply =>
      simp only [step] at stepped
      split at stepped
      · next presented header requirements at_i =>
          cases Option.some.inj stepped
          exact .become at_i (verified_advance i header requirements reply)
      · cases stepped
  | workReplies i reply =>
      simp only [step] at stepped
      split at stepped
      · next presented unpaid at_i =>
          cases Option.some.inj stepped
          cases unpaid with
          | none => exact absurd at_i (paid i presented)
          | some payment => exact .become at_i (worked_advance i payment.1 payment.2 reply)
      · cases stepped
  | settleReplies i reply =>
      simp only [step] at stepped
      split at stepped
      · next presented header requirements result at_i =>
          cases Option.some.inj stepped
          exact .become at_i .served
      · cases stepped

theorem requests_become (at_i : s.requests[i]? = some request) :
    (s.become i presented moved).requests[j]? =
      if i = j then some ⟨presented, moved.1⟩ else s.requests[j]? := by
  obtain ⟨inside, -⟩ := List.getElem?_eq_some_iff.mp at_i
  rw [become, List.getElem?_set]
  split_ifs with here
  · rfl
  · rfl

theorem requests_receive :
    (s.receive presented moved).requests[j]? =
      if j = s.requests.length then some ⟨presented, moved.1⟩ else s.requests[j]? := by
  rw [receive, List.getElem?_append]
  split_ifs with before at_end at_end
  · omega
  · rfl
  · simp [at_end]
  · rw [List.getElem?_eq_none (by simp; omega), List.getElem?_eq_none (by omega)]

/-! ## Claims in flight -/

/-- The request has passed the replay check and keeps its claim. -/
def Holder (s : Gates Result) (i : Nat) (header : Text) : Prop :=
  ∃ request, s.requests[i]? = some request ∧ request.call.held = some header

theorem holder_become (at_i : s.requests[i]? = some request) :
    (s.become i presented moved).Holder j header ↔
      if i = j then moved.1.held = some header else s.Holder j header := by
  unfold Holder
  rw [requests_become at_i]
  split_ifs <;> simp

theorem holder_receive :
    (s.receive presented moved).Holder j header ↔
      if j = s.requests.length then moved.1.held = some header else s.Holder j header := by
  unfold Holder
  rw [requests_receive]
  split_ifs <;> simp

/-- Whoever holds a claim finds it in the guard, and holds it alone. -/
structure Exclusive (codec : PaymentCodec Payload) (s : Gates Result) : Prop where
  seen : ∀ i header, s.Holder i header → codec.sha256 header ∈ s.guard.seen.keys
  alone : ∀ i j header header', s.Holder i header → s.Holder j header' →
    codec.sha256 header = codec.sha256 header' → i = j

/-- A request that goes on with its claim, or has none to go on with. -/
theorem Exclusive.of_holder {t : Gates Result} (exclusive : Exclusive codec s)
    (guard : t.guard = s.guard) (holders : ∀ i header, t.Holder i header → s.Holder i header) :
    Exclusive codec t where
  seen i header holder := guard ▸ exclusive.seen i header (holders i header holder)
  alone i j header header' holder holder' :=
    exclusive.alone i j header header' (holders i header holder) (holders j header' holder')

theorem Exclusive.claim (exclusive : Exclusive codec s) {requirements : PaymentRequirements}
    {now : Int} (free : codec.sha256 header ∉ s.guard.seen.keys) :
    Exclusive codec (s.receive (some header) (.verifying header requirements,
      { s.guard with seen := s.guard.seen.set (codec.sha256 header) now })) := by
  -- the newcomer's header is not among the claims there are
  have fresh : ∀ i h, s.Holder i h → codec.sha256 h ≠ codec.sha256 header := by
    intro i h holder same
    exact free (same ▸ exclusive.seen i h holder)
  constructor
  · intro i h holder
    rw [holder_receive] at holder
    refine (OrderedMap.mem_keys_set _ _ _ _).mpr ?_
    split_ifs at holder with newcomer
    · exact .inl (congrArg codec.sha256 (Option.some.inj holder).symm)
    · exact .inr (exclusive.seen i h holder)
  · intro i j h h' holder holder' same
    rw [holder_receive] at holder holder'
    split_ifs at holder holder' with first second second
    · rw [first, second]
    · cases Option.some.inj holder
      exact absurd same.symm (fresh j h' holder')
    · cases Option.some.inj holder'
      exact absurd same (fresh i h holder)
    · exact exclusive.alone i j h h' holder holder' same

theorem Exclusive.release (exclusive : Exclusive codec s) (holder : s.Holder i header)
    (at_i : s.requests[i]? = some request) {reply : Reply Result}
    (unanswered : reply.isAnswered = false) :
    Exclusive codec (s.become i presented (.finished (some header) reply,
      s.guard.release codec.sha256 header)) := by
  have given_up : (GateCall.finished (some header) reply).held = none := by
    rw [GateCall.held, unanswered]
    rfl
  have others : ∀ j h, (s.become i presented (.finished (some header) reply,
      s.guard.release codec.sha256 header)).Holder j h → j ≠ i ∧ s.Holder j h := by
    intro j h held
    rw [holder_become at_i] at held
    split_ifs at held with here
    · rw [given_up] at held
      cases held
    · exact ⟨Ne.symm here, held⟩
  constructor
  · intro j h held
    obtain ⟨other, holds⟩ := others j h held
    refine ReplayGuard.mem_keys_release.mpr ⟨fun same => ?_, exclusive.seen j h holds⟩
    exact other (exclusive.alone j i h header holds holder same)
  · intro j k h h' held held'
    exact exclusive.alone j k h h' (others j h held).2 (others k h' held').2

theorem Exclusive.step (exclusive : Exclusive codec s) (steps : Steps codec s e s') :
    Exclusive codec s' := by
  cases steps with
  | receive admission =>
      cases admission with
      | turnedAway unanswered =>
          refine exclusive.of_holder rfl fun i header holder => ?_
          rw [holder_receive] at holder
          split_ifs at holder with newcomer
          · simp [GateCall.held, unanswered] at holder
          · exact holder
      | claimed free => exact exclusive.claim free
  | become at_i advance =>
      have keeps : ∀ {i : Nat} {request : GateRequest Result} {call : GateCall Result},
          s.requests[i]? = some request → call.held = request.call.held →
            Exclusive codec (s.become i request.header (call, s.guard)) := by
        intro i request call at_i same
        refine exclusive.of_holder rfl fun j header holder => ?_
        rw [holder_become at_i] at holder
        split_ifs at holder with here
        · exact here ▸ ⟨request, at_i, same ▸ holder⟩
        · exact holder
      generalize waiting : GateRequest.call _ = call at advance
      cases advance with
      | unverified unanswered =>
          exact exclusive.release ⟨_, at_i, by rw [waiting]; rfl⟩ at_i unanswered
      | valid => exact keeps at_i (by rw [waiting]; rfl)
      | failed => exact exclusive.release ⟨_, at_i, by rw [waiting]; rfl⟩ at_i rfl
      | done => exact keeps at_i (by rw [waiting]; rfl)
      | served => exact keeps at_i (by rw [waiting]; rfl)

/-! ## What a request has been through -/

/-- The facilitator has found the request's payment valid. -/
def Verified (events : List (GateEvent Result)) (i : Nat) : Prop :=
  ∃ reason, .verifyReplies i (.ok ⟨true, reason⟩) ∈ events

/-- The request's work has come to a result. -/
def Worked (events : List (GateEvent Result)) (i : Nat) (result : Result) : Prop :=
  .workReplies i (.ok result) ∈ events

/-- What a paying request has asked for, by where it stands. -/
inductive Past (events : List (GateEvent Result)) (i : Nat) :
    GateRequest Result → List OutsideCall → Prop
  | verifying {header : Text} {requirements : PaymentRequirements} :
      Past events i ⟨some header, .verifying header requirements⟩ [.verify i header]
  | working {header : Text} {requirements : PaymentRequirements} (verified : Verified events i) :
      Past events i ⟨some header, .working (some (header, requirements))⟩
        [.verify i header, .work i]
  | settling {header : Text} {requirements : PaymentRequirements} {result : Result}
      (verified : Verified events i) (worked : Worked events i result) :
      Past events i ⟨some header, .settling header requirements result⟩
        [.verify i header, .work i, .settle i header]
  | turnedAway {presented : Option Text} {reply : Reply Result}
      (unanswered : reply.isAnswered = false) :
      Past events i ⟨presented, .finished none reply⟩ []
  | unverified {header : Text} {reply : Reply Result} (unanswered : reply.isAnswered = false) :
      Past events i ⟨some header, .finished (some header) reply⟩ [.verify i header]
  | failed {header : Text} {e : JsError} (verified : Verified events i) :
      Past events i ⟨some header, .finished (some header) (.raised e)⟩ [.verify i header, .work i]
  | served {header : Text} {result : Result} {payment : Option PaymentResponse}
      (verified : Verified events i) (worked : Worked events i result) :
      Past events i ⟨some header, .finished (some header) (.answered result payment)⟩
        [.verify i header, .work i, .settle i header]

/-- What a request has asked for, in order. -/
def askedBy (s : Gates Result) (i : Nat) : List OutsideCall :=
  s.asked.filter fun call => call.request = i

/-- Every request has the past that its standing tells, and nobody else asks. -/
structure Recorded (events : List (GateEvent Result)) (s : Gates Result) : Prop where
  past : ∀ i request, s.requests[i]? = some request → Past events i request (s.askedBy i)
  nobody : ∀ i, s.requests.length ≤ i → s.askedBy i = []

theorem Past.append {asked : List OutsideCall} (past : Past events i request asked)
    (more : List (GateEvent Result)) : Past (events ++ more) i request asked := by
  have still : ∀ {i : Nat}, Verified events i → Verified (events ++ more) i := by
    intro i ⟨reason, mem⟩
    exact ⟨reason, List.mem_append_left more mem⟩
  cases past with
  | verifying => exact .verifying
  | working verified => exact .working (still verified)
  | settling verified worked => exact .settling (still verified) (List.mem_append_left more worked)
  | turnedAway unanswered => exact .turnedAway unanswered
  | unverified unanswered => exact .unverified unanswered
  | failed verified => exact .failed (still verified)
  | served verified worked => exact .served (still verified) (List.mem_append_left more worked)

theorem request_of_mem_asks {call : GateCall Result} {asked : OutsideCall}
    (mem : asked ∈ call.asks i) : asked.request = i := by
  cases call with
  | verifying header requirements => rw [List.mem_singleton.mp mem]; rfl
  | working paid => rw [List.mem_singleton.mp mem]; rfl
  | settling header requirements result => rw [List.mem_singleton.mp mem]; rfl
  | finished claimed reply => cases mem

theorem filter_asks (call : GateCall Result) (i j : Nat) :
    ((call.asks i).filter fun asked => asked.request = j) =
      if i = j then call.asks i else [] := by
  split_ifs with here
  · rw [List.filter_eq_self]
    intro asked mem
    exact decide_eq_true ((request_of_mem_asks mem).trans here)
  · rw [List.filter_eq_nil_iff]
    intro asked mem same
    exact here ((request_of_mem_asks mem).symm.trans (of_decide_eq_true same))

theorem askedBy_become : (s.become i presented moved).askedBy j =
    s.askedBy j ++ if i = j then moved.1.asks i else [] := by
  rw [askedBy, become, List.filter_append, filter_asks]
  rfl

theorem askedBy_receive : (s.receive presented moved).askedBy j =
    s.askedBy j ++ if s.requests.length = j then moved.1.asks s.requests.length else [] := by
  rw [askedBy, receive, List.filter_append, filter_asks]
  rfl

theorem Recorded.paid (recorded : Recorded events s) : s.Paid := by
  intro i presented unpaid
  have past := recorded.past i _ unpaid
  cases past

theorem Recorded.receive (recorded : Recorded events s) (e : GateEvent Result)
    (admission : Admission codec s.guard presented moved) :
    Recorded (events ++ [e]) (s.receive presented moved) := by
  have newcomer : Past (events ++ [e]) s.requests.length ⟨presented, moved.1⟩
      (moved.1.asks s.requests.length) := by
    cases admission with
    | turnedAway unanswered => exact .turnedAway unanswered
    | claimed free => exact .verifying
  constructor
  · intro i request at_i
    rw [requests_receive] at at_i
    rw [askedBy_receive]
    split_ifs at at_i with here
    · cases Option.some.inj at_i
      rw [if_pos here.symm, here, recorded.nobody _ le_rfl, List.nil_append]
      exact newcomer
    · rw [if_neg (Ne.symm here), List.append_nil]
      exact (recorded.past i request at_i).append [e]
  · intro i beyond
    rw [Gates.receive, List.length_append, List.length_singleton] at beyond
    rw [askedBy_receive, if_neg (by omega), List.append_nil]
    exact recorded.nobody i (by omega)

/-- A request that goes from one standing to the next. -/
theorem Recorded.become (recorded : Recorded events s) (e : GateEvent Result)
    (at_i : s.requests[i]? = some request)
    (past : Past (events ++ [e]) i ⟨request.header, moved.1⟩ (s.askedBy i ++ moved.1.asks i)) :
    Recorded (events ++ [e]) (s.become i request.header moved) := by
  constructor
  · intro j request' at_j
    rw [requests_become at_i] at at_j
    rw [askedBy_become]
    split_ifs at at_j with here
    · subst here
      cases Option.some.inj at_j
      rw [if_pos rfl]
      exact past
    · rw [if_neg here, List.append_nil]
      exact (recorded.past j request' at_j).append [e]
  · intro j beyond
    obtain ⟨inside, -⟩ := List.getElem?_eq_some_iff.mp at_i
    rw [Gates.become, List.length_set] at beyond
    rw [askedBy_become, if_neg (by omega), List.append_nil]
    exact recorded.nobody j beyond

theorem Recorded.step (recorded : Recorded events s) (steps : Steps codec s e s') :
    Recorded (events ++ [e]) s' := by
  cases steps with
  | receive admission => exact recorded.receive _ admission
  | @become _ i request moved at_i advance =>
      obtain ⟨presented, call⟩ := request
      apply recorded.become e at_i
      have past := (recorded.past _ _ at_i).append [e]
      have now : e ∈ events ++ [e] := List.mem_append_right events (List.mem_singleton_self e)
      generalize s.askedBy _ = asked at past
      cases advance with
      | unverified unanswered => cases past with | verifying => exact .unverified unanswered
      | valid => cases past with | verifying => exact .working ⟨_, now⟩
      | failed => cases past with | working verified => exact .failed verified
      | done => cases past with | working verified => exact .settling verified now
      | served => cases past with | settling verified worked => exact .served verified worked

/-! ## The order of payments -/

/-- The request is answered, with what its work came to. -/
def Serves (events : List (GateEvent Result)) (i : Nat) (reply : Reply Result) : Prop :=
  ∃ result payment, reply = .answered result payment ∧ Worked events i result

def Finished (s : Gates Result) (i : Nat) : Prop :=
  ∃ request, s.requests[i]? = some request ∧ request.call.isFinished = true

/-- Payments are taken in order up to the step from `s` to `s'`. -/
structure OrdersPayments (codec : PaymentCodec Payload) (events : List (GateEvent Result))
    (s s' : Gates Result) : Prop where
  workAfterVerdict : ∀ i, .work i ∈ s'.asked → ∃ request header, s'.requests[i]? = some request ∧
    request.header = some header ∧ .verify i header ∈ s'.asked ∧ Verified events i
  settlesOnce : ∀ i, ((s'.askedBy i).filter OutsideCall.isSettle).length ≤ 1
  settlesAfterWork : ∀ i header, .settle i header ∈ s'.asked → ∃ result, Worked events i result
  /-- A request that passed the replay check and is not served is not charged. -/
  unservedUnsettled : ∀ i presented header reply,
    s'.requests[i]? = some ⟨presented, .finished (some header) reply⟩ → ¬ Serves events i reply →
      ∀ header', .settle i header' ∉ s'.asked
  /-- And as it finishes, its payment can be claimed. -/
  claimableAgain : ∀ i presented header reply, ¬ s.Finished i →
    s'.requests[i]? = some ⟨presented, .finished (some header) reply⟩ → ¬ Serves events i reply →
      ∀ now, (s'.guard.claim codec.sha256 header now).1 = true
  /-- A request refused as a replay leaves all claims alone. -/
  replayReleasesNothing : ∀ presented requirements,
    s'.requests = s.requests ++ [⟨presented, .finished none (.challenge requirements unused)⟩] →
      s'.guard = s.guard
  /-- Nobody takes the claim of a request that is under way or served. -/
  claimsKept : ∀ i header, s'.Holder i header → ∀ now, s'.guard.Within now →
    (s'.guard.claim codec.sha256 header now).1 = false

instance (s : Gates Result) (e : GateEvent Result) : Decidable (s.WithinLimits e) :=
  match e with
  | .arrives _ _ _ _ now => inferInstanceAs (Decidable (s.guard.Within now))
  | .verifyReplies _ _ => isTrue trivial
  | .workReplies _ _ => isTrue trivial
  | .settleReplies _ _ => isTrue trivial

instance (s : Gates Result) (e : GateEvent Result) : Decidable (s.Gated e) :=
  match e with
  | .arrives options _ _ _ now =>
      inferInstanceAs (Decidable (options.enabled = true ∧ s.guard.Within now))
  | .verifyReplies _ _ => isTrue trivial
  | .workReplies _ _ => isTrue trivial
  | .settleReplies _ _ => isTrue trivial

/-- Requests up to here are recorded and their claims exclusive. -/
structure Orderly (codec : PaymentCodec Payload) (events : List (GateEvent Result))
    (s : Gates Result) : Prop where
  recorded : Recorded events s
  exclusive : Exclusive codec s

theorem orderly_opened (guard : ReplayGuard) :
    Orderly codec [] (opened guard : Gates Result) where
  recorded := {
    past := by
      intro i request at_i
      cases at_i
    nobody := by
      intro i beyond
      rfl }
  exclusive := {
    seen := by
      intro i header holder
      obtain ⟨request, at_i, -⟩ := holder
      cases at_i
    alone := by
      intro i j header header' holder
      obtain ⟨request, at_i, -⟩ := holder
      cases at_i }

theorem Orderly.step (orderly : Orderly codec events s) (steps : Steps codec s e s') :
    Orderly codec (events ++ [e]) s' :=
  ⟨orderly.recorded.step steps, orderly.exclusive.step steps⟩

theorem orderly_of_run (run : Run (Gates.step codec) Gated (opened guard) events s) :
    Orderly codec events s := by
  apply run.history (orderly_opened guard)
  intro before e s₁ s₂ _ orderly gated stepped
  exact orderly.step (steps_of_step orderly.recorded.paid gated stepped)

theorem mem_askedBy {asked : OutsideCall} (mem : asked ∈ s.asked) :
    asked ∈ s.askedBy asked.request :=
  List.mem_filter.mpr ⟨mem, decide_eq_true rfl⟩

/-- Whoever has asked for something is there, with the past that goes with it. -/
theorem Recorded.of_mem {asked : OutsideCall} (recorded : Recorded events s)
    (mem : asked ∈ s.asked) : ∃ request, s.requests[asked.request]? = some request ∧
      Past events asked.request request (s.askedBy asked.request) := by
  have listed := mem_askedBy mem
  cases at_i : s.requests[asked.request]? with
  | none =>
      rw [recorded.nobody _ (List.getElem?_eq_none_iff.mp at_i)] at listed
      cases listed
  | some request => exact ⟨request, rfl, recorded.past _ _ at_i⟩

theorem Recorded.workAfterVerdict (recorded : Recorded events s) (started : .work i ∈ s.asked) :
    ∃ request header, s.requests[i]? = some request ∧ request.header = some header ∧
      .verify i header ∈ s.asked ∧ Verified events i := by
  obtain ⟨request, at_i, past⟩ := recorded.of_mem started
  have listed : .work i ∈ s.askedBy i := mem_askedBy started
  have asked : ∀ {call : OutsideCall}, call ∈ s.askedBy i → call ∈ s.asked := fun mem =>
    (List.mem_filter.mp mem).1
  dsimp only [OutsideCall.request] at at_i past
  generalize s.askedBy i = calls at past listed asked
  cases past with
  | verifying => simp at listed
  | working verified => exact ⟨_, _, at_i, rfl, asked List.mem_cons_self, verified⟩
  | settling verified worked => exact ⟨_, _, at_i, rfl, asked List.mem_cons_self, verified⟩
  | turnedAway unanswered => cases listed
  | unverified unanswered => simp at listed
  | failed verified => exact ⟨_, _, at_i, rfl, asked List.mem_cons_self, verified⟩
  | served verified worked => exact ⟨_, _, at_i, rfl, asked List.mem_cons_self, verified⟩

/-- Only what is being settled or has been served has asked for settlement, and once. -/
theorem Past.settles {asked : List OutsideCall} (past : Past events i request asked) :
    asked.filter OutsideCall.isSettle = [] ∨
      (∃ call, asked.filter OutsideCall.isSettle = [call]) ∧
        ∃ result, Worked events i result ∧ ∀ claimed reply,
          request.call = .finished claimed reply → Serves events i reply := by
  cases past with
  | verifying => exact .inl rfl
  | working verified => exact .inl rfl
  | settling verified worked =>
      refine .inr ⟨⟨_, rfl⟩, _, worked, ?_⟩
      intro claimed reply finished
      cases finished
  | turnedAway unanswered => exact .inl rfl
  | unverified unanswered => exact .inl rfl
  | failed verified => exact .inl rfl
  | served verified worked =>
      refine .inr ⟨⟨_, rfl⟩, _, worked, ?_⟩
      intro claimed reply finished
      cases finished
      exact ⟨_, _, rfl, worked⟩

theorem Recorded.settlesOnce (recorded : Recorded events s) (i : Nat) :
    ((s.askedBy i).filter OutsideCall.isSettle).length ≤ 1 := by
  cases at_i : s.requests[i]? with
  | none =>
      rw [recorded.nobody i (List.getElem?_eq_none_iff.mp at_i)]
      exact Nat.zero_le 1
  | some request =>
      rcases (recorded.past i request at_i).settles with none | ⟨⟨call, one⟩, -⟩
      · rw [none]
        exact Nat.zero_le 1
      · rw [one]
        exact le_refl 1

/-- A settlement means that the work is done, and the request served if it is over. -/
theorem Recorded.of_settle (recorded : Recorded events s) (asks : .settle i header ∈ s.asked) :
    ∃ request, s.requests[i]? = some request ∧ ∃ result, Worked events i result ∧
      ∀ claimed reply, request.call = .finished claimed reply → Serves events i reply := by
  obtain ⟨request, at_i, past⟩ := recorded.of_mem asks
  have listed : .settle i header ∈ (s.askedBy i).filter OutsideCall.isSettle :=
    List.mem_filter.mpr ⟨mem_askedBy asks, rfl⟩
  rcases past.settles with none | ⟨-, done⟩
  · rw [OutsideCall.request] at none
    rw [none] at listed
    cases listed
  · exact ⟨request, at_i, done⟩

/-- The step in which an unserved request finishes gives its claim back. -/
theorem claimable_of_finishing (recorded : Recorded (events ++ [e]) s')
    (steps : Steps codec s e s') {reply : Reply Result} (pending : ¬ s.Finished i)
    (finished : s'.requests[i]? = some ⟨presented, .finished (some header) reply⟩)
    (unserved : ¬ Serves (events ++ [e]) i reply) (now : Int) :
    (s'.guard.claim codec.sha256 header now).1 = true := by
  have past := recorded.past i _ finished
  cases steps with
  | receive admission =>
      rw [requests_receive] at finished
      split_ifs at finished with newcomer
      · cases admission with
        | turnedAway unanswered => cases finished
        | claimed free => cases finished
      · exact absurd ⟨_, finished, rfl⟩ pending
  | @become _ j request moved at_j advance =>
      obtain ⟨shown, call⟩ := request
      rw [requests_become at_j] at finished
      split_ifs at finished with here
      · subst here
        have given_back : ∀ h, (s.guard.release codec.sha256 h).claim codec.sha256 h now |>.1 := by
          intro h
          apply ReplayGuard.claim_of_not_mem
          rw [ReplayGuard.mem_keys_release]
          exact fun both => both.1 rfl
        cases advance with
        | unverified unanswered =>
            cases finished
            exact given_back _
        | valid => cases finished
        | failed =>
            cases finished
            exact given_back _
        | done => cases finished
        | served =>
            cases finished
            generalize Gates.askedBy _ _ = asked at past
            cases past with
            | unverified unanswered => cases unanswered
            | served verified worked => exact absurd ⟨_, _, rfl, worked⟩ unserved
      · exact absurd ⟨_, finished, rfl⟩ pending

/-- In every run through gates that ask for payment, within the limits of the
guard, payments are taken in order. -/
theorem orders_payments (run : Run (Gates.step codec) Gated (opened guard) events s)
    (gated : s.Gated e) (stepped : Gates.step codec s e = some s') :
    OrdersPayments codec (events ++ [e]) s s' := by
  have orderly := orderly_of_run run
  have steps := steps_of_step orderly.recorded.paid gated stepped
  obtain ⟨recorded, exclusive⟩ := orderly.step steps
  constructor
  · intro i started
    exact recorded.workAfterVerdict started
  · exact recorded.settlesOnce
  · intro i header asks
    obtain ⟨-, -, result, worked, -⟩ := recorded.of_settle asks
    exact ⟨result, worked⟩
  · intro i presented header reply finished unserved header' asks
    obtain ⟨request, at_i, -, -, serves⟩ := recorded.of_settle asks
    cases Option.some.inj (finished.symm.trans at_i)
    exact unserved (serves _ _ rfl)
  · intro i presented header reply pending finished unserved now
    exact claimable_of_finishing recorded steps pending finished unserved now
  · intro presented requirements refused
    cases steps with
    | receive admission =>
        have newcomer := List.append_cancel_left refused
        cases admission with
        | turnedAway unanswered => rfl
        | claimed free => cases newcomer
    | become at_i advance =>
        have grown := congrArg List.length refused
        simp [Gates.become] at grown
  · intro i header holder now within
    rw [ReplayGuard.claim_of_within within, if_pos (exclusive.seen i header holder)]

/-- A payment that is verified, worked for and settled. -/
def paidCall : List (GateEvent Unit) :=
  [.arrives sampleOptions "/v1/verify".toList (some samplePayment) "n1".toList 0,
    .verifyReplies 0 (.ok ⟨true, none⟩), .workReplies 0 (.ok ())]

theorem paidCall_ordered : ∃ s s', Run (Gates.step sampleCodec) Gated (opened freshGuard) paidCall s ∧
    Gates.step sampleCodec s (.settleReplies 0 (.ok ⟨true, none, none, none, none⟩)) = some s' ∧
      OrdersPayments sampleCodec
        (paidCall ++ [.settleReplies 0 (.ok ⟨true, none, none, none, none⟩)]) s s' := by
  have ran : (replay (Gates.step sampleCodec) Gated (opened freshGuard) paidCall).any fun s =>
      (Gates.step sampleCodec s (.settleReplies 0 (.ok ⟨true, none, none, none, none⟩))).isSome := by
    decide +kernel
  obtain ⟨s, replayed, served⟩ := (Option.any_eq_true _ _).mp ran
  obtain ⟨s', stepped⟩ := Option.isSome_iff_exists.mp served
  have run := run_of_replay replayed
  exact ⟨s, s', run, stepped, orders_payments run trivial stepped⟩

/-- With gating disabled the work starts unverified. -/
theorem disabledGate_unordered :
    ¬ ∀ (guard : ReplayGuard) (events : List (GateEvent Unit)) (s s' : Gates Unit)
        (e : GateEvent Unit),
      Run (Gates.step sampleCodec) WithinLimits (opened guard) events s → s.WithinLimits e →
        Gates.step sampleCodec s e = some s' →
          OrdersPayments sampleCodec (events ++ [e]) s s' := by
  intro ordered
  have payments := ordered freshGuard [] _ _
    (.arrives { sampleOptions with enabled := false } "/v1/verify".toList none "n1".toList 0)
    .nil (by decide) rfl
  obtain ⟨-, -, -, -, -, reason, verdict⟩ := payments.workAfterVerdict 0 List.mem_cons_self
  simp at verdict

end Gates

end Api

end AgentProof
