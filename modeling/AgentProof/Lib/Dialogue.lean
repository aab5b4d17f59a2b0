import Mathlib.Tactic

/-!
# Dialogues

An asynchronous function as the questions it puts to its surroundings: it is
done, it fails, or it asks and goes on with the answer.  Nothing is assumed of
the answers, so what is proved of a dialogue holds of every conversation.

`Keeps` is a logic of dialogues.  Every question is asked with leave, which may
look at the exchanges before it, and the outcome is as wanted.  Its rules follow
the operations; `Keeps.asked` and `Keeps.outcome` read it off a conversation.
-/

/-- A function that asks questions in `Q`, answered in `A`, and fails with `ε`. -/
inductive Dialogue (Q : Type*) (A : Q → Type*) (ε α : Type*)
  | done (a : α)
  | fails (e : ε)
  | ask (q : Q) (next : A q → Dialogue Q A ε α)

namespace Dialogue

variable {Q : Type*} {A : Q → Type*} {ε ε' α β : Type*}

/-- A question and its answer. -/
abbrev Exchange (Q : Type*) (A : Q → Type*) := (q : Q) × A q

/-! ## Operations -/

def bind : Dialogue Q A ε α → (α → Dialogue Q A ε β) → Dialogue Q A ε β
  | done a, f => f a
  | fails e, _ => fails e
  | ask q next, f => ask q fun a => (next a).bind f

/-- Go on from a failure. -/
def rescue : Dialogue Q A ε α → (ε → Dialogue Q A ε' α) → Dialogue Q A ε' α
  | done a, _ => done a
  | fails e, f => f e
  | ask q next, f => ask q fun a => (next a).rescue f

def ofExcept : Except ε α → Dialogue Q A ε α
  | .ok a => done a
  | .error e => fails e

/-- Ask for something that may fail. -/
def query (q : Q) (answers : A q → Except ε α) : Dialogue Q A ε α :=
  ask q fun a => ofExcept (answers a)

/-! ## Conversations -/

/-- The exchanges lead from a dialogue to what is left of it. -/
inductive Leads : Dialogue Q A ε α → List (Exchange Q A) → Dialogue Q A ε α → Prop
  | refl (d) : Leads d [] d
  | turn {q next d log} (a : A q) (rest : Leads (next a) log d) :
      Leads (ask q next) (⟨q, a⟩ :: log) d

/-- The dialogue of an outcome. -/
def Ends (d : Dialogue Q A ε α) (log : List (Exchange Q A)) (outcome : Except ε α) : Prop :=
  d.Leads log (ofExcept outcome)

/-- The conversation with someone who answers the `k`-th question by `answers k`. -/
def run (answers : Nat → (q : Q) → A q) :
    Nat → Dialogue Q A ε α → List (Exchange Q A) × Except ε α
  | _, done a => ([], .ok a)
  | _, fails e => ([], .error e)
  | k, ask q next =>
      let later := run answers (k + 1) (next (answers k q))
      (⟨q, answers k q⟩ :: later.1, later.2)

/-- Whoever answers, the dialogue comes to its end. -/
theorem ends_run (answers : Nat → (q : Q) → A q) (k : Nat) (d : Dialogue Q A ε α) :
    d.Ends (d.run answers k).1 (d.run answers k).2 := by
  induction d generalizing k with
  | done a => exact .refl _
  | fails e => exact .refl _
  | ask q next ih => exact .turn _ (ih _ (k + 1))

/-! ## The logic -/

variable {Leave : List (Exchange Q A) → Q → Prop}
  {Wanted : List (Exchange Q A) → Except ε α → Prop}
  {log past : List (Exchange Q A)} {d rest : Dialogue Q A ε α}

/-- After the exchanges so far every question is asked with leave, and the
outcome is wanted. -/
def Keeps (Leave : List (Exchange Q A) → Q → Prop)
    (Wanted : List (Exchange Q A) → Except ε α → Prop) :
    List (Exchange Q A) → Dialogue Q A ε α → Prop
  | past, done a => Wanted past (.ok a)
  | past, fails e => Wanted past (.error e)
  | past, ask q next => Leave past q ∧ ∀ a, Keeps Leave Wanted (past ++ [⟨q, a⟩]) (next a)

theorem keeps_ofExcept {outcome : Except ε α} :
    Keeps Leave Wanted past (ofExcept outcome) ↔ Wanted past outcome := by
  cases outcome <;> exact Iff.rfl

theorem keeps_query {q : Q} {answers : A q → Except ε α} :
    Keeps Leave Wanted past (query q answers) ↔
      Leave past q ∧ ∀ a, Wanted (past ++ [⟨q, a⟩]) (answers a) := by
  simp only [query, Keeps, keeps_ofExcept]

/-- Where there is a result, these are the exchanges. -/
def Exactly (exchanges : α → List (Exchange Q A)) (log : List (Exchange Q A))
    (outcome : Except ε α) : Prop :=
  ∀ a, outcome = .ok a → log = exchanges a

theorem exactly_error {exchanges : α → List (Exchange Q A)} {e : ε} :
    Exactly exchanges log (.error e) := fun _ is => nomatch is

theorem Keeps.bind {Mid : List (Exchange Q A) → Except ε α → Prop}
    {Wanted : List (Exchange Q A) → Except ε β → Prop} {f : α → Dialogue Q A ε β}
    (first : Keeps Leave Mid past d)
    (then_ : ∀ past a, Mid past (.ok a) → Keeps Leave Wanted past (f a))
    (fails : ∀ past e, Mid past (.error e) → Wanted past (.error e)) :
    Keeps Leave Wanted past (d.bind f) := by
  induction d generalizing past with
  | done a => exact then_ past a first
  | fails e => exact fails past e first
  | ask q next ih => exact ⟨first.1, fun a => ih a (first.2 a)⟩

theorem Keeps.rescue {Mid : List (Exchange Q A) → Except ε α → Prop}
    {Wanted : List (Exchange Q A) → Except ε' α → Prop} {f : ε → Dialogue Q A ε' α}
    (first : Keeps Leave Mid past d)
    (then_ : ∀ past a, Mid past (.ok a) → Wanted past (.ok a))
    (fails : ∀ past e, Mid past (.error e) → Keeps Leave Wanted past (f e)) :
    Keeps Leave Wanted past (d.rescue f) := by
  induction d generalizing past with
  | done a => exact then_ past a first
  | fails e => exact fails past e first
  | ask q next ih => exact ⟨first.1, fun a => ih a (first.2 a)⟩

theorem Keeps.mono {Wanted' : List (Exchange Q A) → Except ε α → Prop}
    (keeps : Keeps Leave Wanted past d)
    (weaker : ∀ past outcome, Wanted past outcome → Wanted' past outcome) :
    Keeps Leave Wanted' past d := by
  induction d generalizing past with
  | done a => exact weaker _ _ keeps
  | fails e => exact weaker _ _ keeps
  | ask q next ih => exact ⟨keeps.1, fun a => ih a (keeps.2 a)⟩

/-- What is left of a dialogue keeps what the dialogue kept. -/
theorem Keeps.leads (keeps : Keeps Leave Wanted past d) (leads : d.Leads log rest) :
    Keeps Leave Wanted (past ++ log) rest := by
  induction leads generalizing past with
  | refl => rwa [List.append_nil]
  | turn a _ ih =>
      rw [List.append_cons]
      exact ih (keeps.2 a)

/-- Every question of a conversation had leave. -/
theorem Keeps.asked {before after : List (Exchange Q A)} {q : Q} {a : A q}
    (keeps : Keeps Leave Wanted past d) (leads : d.Leads (before ++ ⟨q, a⟩ :: after) rest) :
    Leave (past ++ before) q := by
  induction before generalizing past d with
  | nil =>
      rw [List.append_nil]
      cases leads with
      | turn => exact keeps.1
  | cons first before ih =>
      cases leads with
      | turn answer leads =>
          rw [List.append_cons]
          exact ih (keeps.2 answer) leads

theorem Keeps.outcome {outcome : Except ε α} (keeps : Keeps Leave Wanted past d)
    (ends : d.Ends log outcome) : Wanted (past ++ log) outcome :=
  keeps_ofExcept.mp (keeps.leads ends)

end Dialogue
