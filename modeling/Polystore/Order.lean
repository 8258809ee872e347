/-!
Lists of names in order. Names are ordered by their characters' code points.
-/

namespace Polystore

/-- The names in order, repetitions kept. -/
def sorted (names : List String) : List String := names.mergeSort fun a b => a ≤ b

/-- The names in order, each once. -/
def sortedOnce (names : List String) : List String := sorted names.eraseDups

/-- The names that occur more than once, in order. -/
def repeated (names : List String) : List String :=
  sorted (names.eraseDups.filter fun name => 1 < names.count name)

end Polystore
