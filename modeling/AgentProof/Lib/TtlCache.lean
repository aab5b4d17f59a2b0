import AgentProof.Lib.Runs

/-!
# Reading through a cache that expires

Readers of a source share a cache.  One that finds a live entry is answered by it;
one that does not asks the source, and is answered by the reply, which it keeps.
Others read in the meantime, so replies come in any order and an older one may
replace a newer one in the cache, and the source changes all the while.

* `answered_recent`: however the reads interleave, an answer was the source's word
  no longer ago than an entry lives and a reply takes, together.
* `run_alone`: a read that nobody interrupts is one function, `Cache.alone`.
-/

namespace TtlCache

open Runs

/-- A cache whose entries live for `ttl`: what is read was there to be read before,
or was written less than `ttl` ago. -/
structure Cache (C K V : Type*) (ttl : Int) where
  read : C → K → Int → Option V
  write : C → K → V → Int → C
  read_write : ∀ {c k v written k' now w}, read (write c k v written) k' now = some w →
    (k' = k ∧ w = v ∧ now < written + ttl) ∨ read c k' now = some w

/-- A question whose reply is on its way. -/
structure Pending (K : Type*) where
  key : K
  since : Int
  deriving DecidableEq

structure Answer (K V E : Type*) where
  key : K
  time : Int
  result : Except E V

/-- The readers of one cache: who waits, and who has been told what. -/
structure Readers (C K V E : Type*) where
  cache : C
  clock : Int
  pending : List (Pending K)
  answers : List (Answer K V E)

inductive Event (K V E : Type*)
  /-- A reader wants the value of a key. -/
  | ask (now : Int) (key : K)
  /-- The reply to the question at a place among those pending. -/
  | reply (place : Nat) (now : Int) (result : Except E V)

variable {C K V E : Type*} {ttl lag : Int}

/-- Readers of `c` from the time `now` on. -/
def Readers.start (c : C) (now : Int) : Readers C K V E := ⟨c, now, [], []⟩

namespace Cache

variable (cache : Cache C K V ttl)

/-- Only a value is kept. -/
def keep (c : C) (key : K) (result : Except E V) (now : Int) : C :=
  match result with
  | .ok value => cache.write c key value now
  | .error _ => c

/-- A read with nobody in between; `result` is what the source would reply. -/
def alone (c : C) (key : K) (now later : Int) (result : Except E V) : Except E V × C :=
  match cache.read c key now with
  | some value => (.ok value, c)
  | none => (result, cache.keep c key result later)

def ask (s : Readers C K V E) (now : Int) (key : K) : Readers C K V E :=
  match cache.read s.cache key now with
  | some value => { s with clock := now, answers := s.answers ++ [⟨key, now, .ok value⟩] }
  | none => { s with clock := now, pending := s.pending ++ [⟨key, now⟩] }

def reply (s : Readers C K V E) (place : Nat) (p : Pending K) (now : Int) (result : Except E V) :
    Readers C K V E where
  cache := cache.keep s.cache p.key result now
  clock := now
  pending := s.pending.eraseIdx place
  answers := s.answers ++ [⟨p.key, now, result⟩]

def step (s : Readers C K V E) : Event K V E → Option (Readers C K V E)
  | .ask now key => if s.clock ≤ now then some (cache.ask s now key) else none
  | .reply place now result =>
      if s.clock ≤ now then
        (s.pending[place]?).map fun p => cache.reply s place p now result
      else none

end Cache

/-! ## The source -/

/-- The source said so within the last `age`. -/
def Recent (source : Int → K → Except E V) (age : Int) (key : K) (now : Int) (value : V) : Prop :=
  ∃ u, u ≤ now ∧ now ≤ u + age ∧ source u key = .ok value

/-- What the source has only said for longer than `age` is all that is recent. -/
theorem Recent.settled {source : Int → K → Except E V} {age now since : Int} {key : K} {value : V}
    {P : V → Prop} (recent : Recent source age key now value) (late : since + age ≤ now)
    (only : ∀ u v, since ≤ u → source u key = .ok v → P v) : P value := by
  obtain ⟨u, -, near, said⟩ := recent
  exact only u value (by omega) said

/-- A value that arrives is what the source said since it was asked, at most `lag` ago;
an error may come from anywhere. -/
def Replies (source : Int → K → Except E V) (lag : Int) (s : Readers C K V E) :
    Event K V E → Prop
  | .ask _ _ => True
  | .reply place now result => ∀ p value, s.pending[place]? = some p → result = .ok value →
      now ≤ p.since + lag ∧ ∃ u, p.since ≤ u ∧ u ≤ now ∧ source u p.key = .ok value

/-! ## Every interleaving -/

section Runs

variable {cache : Cache C K V ttl} {source : Int → K → Except E V} {s s' : Readers C K V E}
  {events : List (Event K V E)}

/-- What is kept and what was answered are recent. -/
structure Honest (cache : Cache C K V ttl) (source : Int → K → Except E V) (lag : Int)
    (s : Readers C K V E) : Prop where
  kept : ∀ key now value, s.clock ≤ now → cache.read s.cache key now = some value →
    Recent source (ttl + lag) key now value
  answered : ∀ a ∈ s.answers, ∀ value, a.result = .ok value →
    Recent source (ttl + lag) a.key a.time value

theorem Honest.start {c : C} {now : Int} (fresh : ∀ key now, cache.read c key now = none) :
    Honest cache source lag (Readers.start c now) where
  kept key now value _ read := by
    rw [Readers.start, fresh] at read
    exact absurd read (by simp)
  answered _ mem := absurd mem List.not_mem_nil

theorem Honest.ask (honest : Honest cache source lag s) {now : Int} {key : K}
    (forward : s.clock ≤ now) : Honest cache source lag (cache.ask s now key) := by
  unfold Cache.ask
  cases found : cache.read s.cache key now with
  | none =>
      exact ⟨fun key' now' value later => honest.kept key' now' value (forward.trans later),
        honest.answered⟩
  | some value =>
      refine ⟨fun key' now' value' later => honest.kept key' now' value' (forward.trans later), ?_⟩
      intro a mem value' result
      rcases List.mem_append.mp mem with old | new
      · exact honest.answered a old value' result
      · obtain rfl := List.mem_singleton.mp new
        obtain rfl := Except.ok.inj result
        exact honest.kept key now value forward found

/-- A reply is newer than anything it can be mistaken for: it is kept for `ttl` after it
came, and came `lag` at most after it was true. -/
theorem Honest.reply (honest : Honest cache source lag s) {place : Nat} {p : Pending K}
    {now : Int} {result : Except E V} (life : 0 ≤ ttl) (forward : s.clock ≤ now)
    (waits : s.pending[place]? = some p)
    (replies : Replies source lag s (.reply place now result)) :
    Honest cache source lag (cache.reply s place p now result) where
  kept key now' value later read := by
    have later' : now ≤ now' := later
    cases result with
    | error e => exact honest.kept key now' value (forward.trans later') read
    | ok fetched =>
        obtain ⟨prompt, u, since, past, said⟩ := replies p fetched waits rfl
        rcases cache.read_write read with ⟨rfl, rfl, lives⟩ | old
        · exact ⟨u, past.trans later', by omega, said⟩
        · exact honest.kept key now' value (forward.trans later') old
  answered a mem value given := by
    rcases List.mem_append.mp mem with old | new
    · exact honest.answered a old value given
    · obtain rfl := List.mem_singleton.mp new
      obtain ⟨prompt, u, since, past, said⟩ := replies p value waits given
      exact ⟨u, past, by change now ≤ _; omega, said⟩

theorem step_eq_some {event : Event K V E} (steps : cache.step s event = some s') :
    (∃ now key, event = .ask now key ∧ s.clock ≤ now ∧ s' = cache.ask s now key) ∨
      ∃ place now result p, event = .reply place now result ∧ s.clock ≤ now ∧
        s.pending[place]? = some p ∧ s' = cache.reply s place p now result := by
  cases event with
  | ask now key =>
      rw [Cache.step] at steps
      split_ifs at steps with forward
      exact .inl ⟨now, key, rfl, forward, (Option.some.inj steps).symm⟩
  | reply place now result =>
      rw [Cache.step] at steps
      split_ifs at steps with forward
      obtain ⟨p, waits, rfl⟩ := Option.map_eq_some_iff.mp steps
      exact .inr ⟨place, now, result, p, rfl, forward, waits, rfl⟩

theorem Honest.run (life : 0 ≤ ttl) (run : Run cache.step (Replies source lag) s events s')
    (honest : Honest cache source lag s) : Honest cache source lag s' := by
  apply run.invariant _ honest
  intro s event s' honest replies steps
  rcases step_eq_some steps with ⟨now, key, rfl, forward, rfl⟩ |
    ⟨place, now, result, p, rfl, forward, waits, rfl⟩
  · exact honest.ask forward
  · exact honest.reply life forward waits replies

/-- Whatever the order of questions and replies. -/
theorem answered_recent (life : 0 ≤ ttl) {c : C} {now : Int}
    (fresh : ∀ key now, cache.read c key now = none)
    (run : Run cache.step (Replies source lag) (.start c now) events s) {a : Answer K V E}
    (mem : a ∈ s.answers) {value : V} (given : a.result = .ok value) :
    Recent source (ttl + lag) a.key a.time value :=
  (Honest.run life run (.start fresh)).answered a mem value given

/-! ## One read alone -/

/-- Asked and answered with nothing in between. -/
theorem run_alone {c : C} {key : K} {began now later : Int} {result : Except E V}
    (started : began ≤ now) (forward : now ≤ later) :
    ∃ (events : List (Event K V E)) (s : Readers C K V E),
      Run cache.step (fun _ _ => True) (.start c began) events s ∧
      s.answers.map Answer.result = [(cache.alone c key now later result).1] ∧
      s.cache = (cache.alone c key now later result).2 := by
  have asks : cache.step (.start c began) (.ask now key) =
      some (cache.ask (.start c began : Readers C K V E) now key) := if_pos started
  cases found : cache.read c key now with
  | some value =>
      refine ⟨[.ask now key], _, .cons trivial asks .nil, ?_, ?_⟩
      · simp only [Cache.ask, Readers.start, found, Cache.alone, List.nil_append, List.map_cons,
          List.map_nil]
      · simp only [Cache.ask, Readers.start, found, Cache.alone]
  | none =>
      have waiting : cache.ask (.start c began : Readers C K V E) now key =
          ⟨c, now, [⟨key, now⟩], []⟩ := by
        simp only [Cache.ask, Readers.start, found, List.nil_append]
      have replied : cache.step ⟨c, now, [⟨key, now⟩], []⟩ (.reply 0 later result) =
          some (cache.reply ⟨c, now, [⟨key, now⟩], []⟩ 0 ⟨key, now⟩ later result) := if_pos forward
      rw [waiting] at asks
      refine ⟨[.ask now key, .reply 0 later result], _,
        .cons trivial asks (.cons trivial replied .nil), ?_, ?_⟩
      · simp only [Cache.reply, Cache.alone, found, List.nil_append, List.map_cons, List.map_nil]
      · simp only [Cache.reply, Cache.alone, found]

end Runs

end TtlCache
