import Polystore.Entries
import Polystore.Schema.Memory.Basic

/-!
The order of tables in which every table comes after those it refers to. Tables go out in rounds:
in each round, in the order of their keys, all those that refer to no table which is still left.
References of tables that lead back to themselves are not heeded.
-/

namespace Polystore.Schema.Memory

/-- What each item needs. -/
abbrev Needs := Entries String (List String)

namespace Needs

def of (needs : Needs) (item : String) : List String := (needs.lookup item).getD []

/-- The items none of whose needs is among the items. -/
def ready (needs : Needs) (items : List String) : List String :=
  items.filter fun item => (needs.of item).all fun need => !items.contains need

/-- Takes out the items that are ready, round after round, and what is left where none is. -/
def rounds (needs : Needs) : Nat → List String → List String
  | 0, items => items
  | fuel + 1, items =>
    match needs.ready items with
    | [] => items
    | out => out ++ rounds needs fuel (items.filter fun item => !out.contains item)

/-- What items need, directly or over others, in at most so many steps. -/
def within (needs : Needs) : Nat → List String → List String
  | 0, items => items
  | steps + 1, items => within needs steps (items ++ items.flatMap needs.of).eraseDups

/-- Whether an item needs itself, directly or over others. -/
def isCyclic (needs : Needs) (item : String) : Bool :=
  (needs.within needs.length (needs.of item)).contains item

/-- The needs of those items that do not need themselves. -/
def acyclic (needs : Needs) : Needs :=
  needs.map fun (item, needed) => (item, if needs.isCyclic item then [] else needed)

/-- The items in an order in which every item comes after those it needs, as far as it does not
need itself. -/
def ordered (needs : Needs) : List String := needs.acyclic.rounds needs.length needs.keys

end Needs

/-- The keys of the other tables that a table refers to. -/
def neededBy (tables : List Table) (t : Table) : Except Defect (List String) := do
  let found ← (t.references.filterMap (·.pairs.head?)).mapM fun (column, target) =>
    follow tables t column target
  return (found.map (·.key)).filter (· != t.key)

/-- The tables, every one after those it refers to. -/
def ordered (tables : List Table) : Except Defect (List Table) := do
  let byKey := tables.mergeSort fun a b => a.key ≤ b.key
  let needs ← byKey.mapM fun t => return (t.key, ← neededBy tables t)
  return (Needs.ordered needs).filterMap fun key => byKey.find? fun t => t.key == key

end Polystore.Schema.Memory
