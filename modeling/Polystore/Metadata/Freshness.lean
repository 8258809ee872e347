import Polystore.Vocabulary

/-!
How far a replica of a table may lag behind it. Each class of lag admits the lags before it.
-/

namespace Polystore

inductive Freshness where
  | realtime
  | seconds
  | minutes
  | hours
  deriving DecidableEq, Inhabited

namespace Freshness

instance : Vocabulary Freshness where
  members := [realtime, seconds, minutes, hours]
  name
    | realtime => "realtime"
    | seconds => "seconds"
    | minutes => "minutes"
    | hours => "hours"

def name (f : Freshness) : String := Vocabulary.name f

def rank : Freshness → Nat
  | realtime => 0
  | seconds => 1
  | minutes => 2
  | hours => 3

/-- Whether a copy of this lag is fresh enough. -/
def satisfies (lag tolerance : Freshness) : Bool := lag.rank ≤ tolerance.rank

end Freshness

end Polystore
