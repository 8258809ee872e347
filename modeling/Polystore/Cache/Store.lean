import Polystore.Fault

/-!
Caches of values by key. A cache answers a batch of keys with the values it found, or fails as a
whole; a store in memory is one that never fails.
-/

namespace Polystore

/-- What the planner asks a cache. -/
structure Cache where
  read : List String → Except Outage (Entries String Value)

namespace Cache

/-- Values kept in memory. -/
abbrev Store := Entries String Value

namespace Store

/-- The values of those keys that are known, each key once. -/
def find (store : Store) (keys : List String) : Entries String Value := store.among keys

def cache (store : Store) : Cache := ⟨fun keys => .ok (store.find keys)⟩

end Store

/-- A cache that fails. -/
def failing (o : Outage) : Cache := ⟨fun _ => .error o⟩

end Cache

end Polystore
