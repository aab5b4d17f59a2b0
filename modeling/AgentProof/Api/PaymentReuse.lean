import AgentProof.Api.GateOrder

/-!
# What a payment buys

The guard knows a payment by the text of its header, and the facilitator by the
JSON value in it.  One value has many texts, and each of them buys a call.  A
payment buys one call as long as whoever presents it while it is claimed
presents the same text.
-/

namespace AgentProof

namespace Api

open Runs

variable {Payload Result : Type} {codec : PaymentCodec Payload} {guard : ReplayGuard}

namespace Gates

variable {s s' : Gates Result} {e : GateEvent Result} {events : List (GateEvent Result)}

/-- The request presents the payload, has its work executed and gets the result. -/
def Buys (codec : PaymentCodec Payload) (s : Gates Result) (i : Nat) (payload : Payload) : Prop :=
  ∃ header claimed result payment,
    s.requests[i]? = some ⟨some header, .finished claimed (.answered result payment)⟩ ∧
      codec.decodePayload header = some payload ∧ .work i ∈ s.asked

/-- Every payload buys one call at most. -/
def BuysOneCall (codec : PaymentCodec Payload) (s : Gates Result) : Prop :=
  ∀ payload i j, s.Buys codec i payload → s.Buys codec j payload → i = j

/-- Whoever presents a payload that is claimed presents it in the claimed spelling. -/
def SpelledAlike (codec : PaymentCodec Payload) (s : Gates Result) : GateEvent Result → Prop
  | .arrives _ _ (some header) _ _ => ∀ request ∈ s.requests, ∀ header' ∈ request.call.held,
      codec.decodePayload header = codec.decodePayload header' → header = header'
  | _ => True

/-- No two claims are for one payload. -/
def Distinct (codec : PaymentCodec Payload) (s : Gates Result) : Prop :=
  ∀ i j header header', s.Holder i header → s.Holder j header' →
    codec.decodePayload header = codec.decodePayload header' → i = j

theorem Distinct.step (distinct : Distinct codec s) (exclusive : Exclusive codec s)
    (alike : s.SpelledAlike codec e) (steps : Steps codec s e s') : Distinct codec s' := by
  have fewer : (∀ i header, s'.Holder i header → s.Holder i header) → Distinct codec s' := by
    intro holders i j header header' holder holder'
    exact distinct i j header header' (holders i header holder) (holders j header' holder')
  cases steps with
  | receive admission =>
      cases admission with
      | turnedAway unanswered =>
          apply fewer
          intro i header holder
          rw [holder_receive] at holder
          split_ifs at holder with newcomer
          · simp [GateCall.held, unanswered] at holder
          · exact holder
      | @claimed header requirements now free =>
          -- a claim on the same payload would be on the same text, and keep the newcomer out
          have first : ∀ i header', s.Holder i header' →
              codec.decodePayload header ≠ codec.decodePayload header' := by
            intro i header' holder same
            obtain ⟨request, at_i, held⟩ := holder
            rw [alike request (List.mem_of_getElem? at_i) header' held same] at free
            exact free (exclusive.seen i header' ⟨request, at_i, held⟩)
          intro i j h h' holder holder' same
          rw [holder_receive] at holder holder'
          split_ifs at holder holder' with one other other
          · rw [one, other]
          · cases Option.some.inj holder
            exact absurd same (first j h' holder')
          · cases Option.some.inj holder'
            exact absurd same.symm (first i h holder)
          · exact distinct i j h h' holder holder' same
  | @become _ i request moved at_i advance =>
      apply fewer
      intro j header holder
      rw [holder_become at_i] at holder
      split_ifs at holder with here
      · subst here
        refine ⟨request, at_i, ?_⟩
        generalize GateRequest.call _ = call at advance
        cases advance with
        | unverified unanswered => simp [GateCall.held, unanswered] at holder
        | valid => exact holder
        | failed => simp [GateCall.held, Reply.isAnswered] at holder
        | done => exact holder
        | served => exact holder
      · exact holder

/-- A buyer keeps its claim for good. -/
theorem Recorded.holder_of_buys (recorded : Recorded events s) {i : Nat} {payload : Payload}
    (buys : s.Buys codec i payload) :
    ∃ header, s.Holder i header ∧ codec.decodePayload header = some payload := by
  obtain ⟨header, claimed, result, payment, at_i, decoded, -⟩ := buys
  have past := recorded.past i _ at_i
  generalize s.askedBy i = asked at past
  cases past with
  | turnedAway unanswered => cases unanswered
  | unverified unanswered => cases unanswered
  | served verified worked => exact ⟨header, ⟨_, at_i, rfl⟩, decoded⟩

/-- In every run whose payments are spelled alike while they are claimed, a
payment buys one call. -/
theorem buys_one_call
    (run : Run (Gates.step codec) (fun s e => s.Gated e ∧ s.SpelledAlike codec e) (opened guard)
      events s) : s.BuysOneCall codec := by
  have kept : Orderly codec events s ∧ Distinct codec s := by
    apply run.history
    · refine ⟨orderly_opened guard, ?_⟩
      intro i j header header' holder
      obtain ⟨request, at_i, -⟩ := holder
      cases at_i
    · intro before e s₁ s₂ _ ⟨orderly, distinct⟩ ⟨gated, alike⟩ stepped
      have steps := steps_of_step orderly.recorded.paid gated stepped
      exact ⟨orderly.step steps, distinct.step orderly.exclusive alike steps⟩
  obtain ⟨orderly, distinct⟩ := kept
  intro payload i j buys buys'
  obtain ⟨header, holder, decoded⟩ := orderly.recorded.holder_of_buys buys
  obtain ⟨header', holder', decoded'⟩ := orderly.recorded.holder_of_buys buys'
  exact distinct i j header header' holder holder' (decoded.trans decoded'.symm)

instance [DecidableEq Payload] (s : Gates Result) (e : GateEvent Result) :
    Decidable (s.SpelledAlike codec e) :=
  match e with
  | .arrives _ _ (some header) _ _ => inferInstanceAs (Decidable (∀ request ∈ s.requests,
      ∀ header' ∈ request.call.held,
        codec.decodePayload header = codec.decodePayload header' → header = header'))
  | .arrives _ _ none _ _ => isTrue trivial
  | .verifyReplies _ _ => isTrue trivial
  | .workReplies _ _ => isTrue trivial
  | .settleReplies _ _ => isTrue trivial

/-- A request that is verified, worked for and settled. -/
def callWith (i : Nat) (header nonce : Text) : List (GateEvent Unit) :=
  [.arrives sampleOptions "/v1/verify".toList (some header) nonce 0,
    .verifyReplies i (.ok ⟨true, none⟩), .workReplies i (.ok ()),
    .settleReplies i (.ok ⟨true, none, none, none, none⟩)]

/-- One payment, with its padding and then without. -/
def paidTwice : List (GateEvent Unit) :=
  callWith 0 samplePayment "n1".toList ++ callWith 1 sampleUnpadded "n2".toList

/-- A request that has been answered under the header it claimed. -/
def servedWith (header : Text) : GateRequest Unit :=
  ⟨some header, .finished (some header) (.answered () (some ⟨true, none, none⟩))⟩

theorem paidTwice_buysTwoCalls :
    ¬ ∀ (guard : ReplayGuard) (events : List (GateEvent Unit)) (s : Gates Unit),
        Run (Gates.step sampleCodec) Gated (opened guard) events s →
          s.BuysOneCall sampleCodec := by
  intro once
  have ran : (replay (Gates.step sampleCodec) Gated (opened freshGuard) paidTwice).any fun s =>
      s.requests = [servedWith samplePayment, servedWith sampleUnpadded] ∧
        .work 0 ∈ s.asked ∧ .work 1 ∈ s.asked := by
    decide +kernel
  obtain ⟨s, replayed, state⟩ := (Option.any_eq_true _ _).mp ran
  obtain ⟨requests, first, second⟩ := of_decide_eq_true state
  have payload : sampleCodec.decodePayload samplePayment = some "\x7b\"x402Version\":2\x7d".toList ∧
      sampleCodec.decodePayload sampleUnpadded = some "\x7b\"x402Version\":2\x7d".toList := by
    decide +kernel
  have same := once freshGuard paidTwice s (run_of_replay replayed) _ 0 1
    ⟨samplePayment, _, _, _, by rw [requests]; rfl, payload.1, first⟩
    ⟨sampleUnpadded, _, _, _, by rw [requests]; rfl, payload.2, second⟩
  cases same

/-- The same text twice: the second request is refused. -/
theorem paidAgain_buysOneCall : ∃ s, Run (Gates.step sampleCodec)
    (fun s e => s.Gated e ∧ s.SpelledAlike sampleCodec e) (opened freshGuard)
    (callWith 0 samplePayment "n1".toList ++
      [.arrives sampleOptions "/v1/decode".toList (some samplePayment) "n2".toList 1]) s ∧
    s.BuysOneCall sampleCodec := by
  have ran : (replay (Gates.step sampleCodec) (fun s e => s.Gated e ∧ s.SpelledAlike sampleCodec e)
      (opened freshGuard) (callWith 0 samplePayment "n1".toList ++
        [.arrives sampleOptions "/v1/decode".toList (some samplePayment) "n2".toList 1])).isSome := by
    decide +kernel
  obtain ⟨s, replayed⟩ := Option.isSome_iff_exists.mp ran
  have run := run_of_replay replayed
  exact ⟨s, run, buys_one_call run⟩

end Gates

end Api

end AgentProof
