import Mathlib.Tactic

/-!
# Lists that events add to and sift

Each event puts its items in front and takes out those it does not keep.  An item
stands in the list where some event has put it in and every later one has kept it.
A list of which only the newest are kept is the case where an event keeps by place.
-/

namespace Sifted

variable {E A : Type*} {adds : E → List A} {keeps : E → A → Bool} {items : List A}
  {events : List E} {a : A}

def sift (adds : E → List A) (keeps : E → A → Bool) (items : List A) (e : E) : List A :=
  adds e ++ items.filter (keeps e)

end Sifted
