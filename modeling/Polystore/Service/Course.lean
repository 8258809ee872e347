import Polystore.Trace

/-!
Courses: computations that depend on what has happened before. A caller may cancel a query at any
time; the course of answering it looks at the flag in front of each stage and stops where it is set.
-/

namespace Polystore

/-- Whether the flag is set after some happenings. -/
abbrev Cancellation := List Happening → Bool

namespace Cancellation

def never : Cancellation := fun _ => false

/-- The flag is set once it has been looked at a number of times. -/
def afterLooks (n : Nat) : Cancellation := fun past => n ≤ past.countP Happening.isLook

/-- The flag is set by the first read of the cache. -/
def onCacheRead : Cancellation := fun past => past.any fun h => h.keys?.isSome

/-- The flag is set when either of two is. -/
def or (a b : Cancellation) : Cancellation := fun past => a past || b past

end Cancellation

/-- A computation that knows what has happened before it. -/
def Course (α : Type) : Type := List Happening → Traced α

namespace Course

variable {α β : Type}

/-- Goes on with what a course comes to; what it has recorded is past to the rest. -/
def bind (x : Course α) (f : α → Course β) : Course β := fun past =>
  let t := x past
  match t.result with
  | .ok a =>
    let u := f a (past ++ t.trace)
    ⟨t.trace ++ u.trace, u.result⟩
  | .error failure => ⟨t.trace, .error failure⟩

instance : Monad Course where
  pure a := fun _ => pure a
  bind := bind

/-- The course that takes no notice of the past. -/
def ofTraced (t : Traced α) : Course α := fun _ => t

/-- Looks at the flag in front of a stage, and stops if it is set. -/
def checkpoint (cancellation : Cancellation) (stage : Stage) : Course Unit := fun past =>
  ⟨[.looked stage],
    if cancellation past then .error (.refused (.cancelled stage)) else .ok ()⟩

end Course

end Polystore
