import Mathlib.Tactic

/-!
# What can be made up from what is heard

A message is a text that may depend on what its reader does not know, so it is a
function of the worlds the reader cannot tell apart.  Whoever has heard some
messages can write any text, and apply any public function to messages that are
known.  In worlds in which all that was heard is the same, all that is known is.
-/

namespace Knowledge

variable {W T : Type*}

/-- What is known to whoever has heard the messages. -/
inductive Knows (heard : Set (W → T)) : (W → T) → Prop
  | text (t : T) : Knows heard fun _ => t
  | heard {m : W → T} (mem : m ∈ heard) : Knows heard m
  | apply (f : List T → T) (ms : List (W → T)) (known : ∀ m ∈ ms, Knows heard m) :
      Knows heard fun w => f (ms.map fun m => m w)

variable {heard : Set (W → T)} {m : W → T}

/-- Worlds that what was heard does not tell apart are not told apart. -/
theorem Knows.agree {w w' : W} (same : ∀ m ∈ heard, m w = m w') (knows : Knows heard m) :
    m w = m w' := by
  induction knows with
  | text t => rfl
  | heard mem => exact same _ mem
  | apply f ms _ ih => exact congrArg f (List.map_congr_left ih)

end Knowledge
