/-!
Entries found by key, in the order in which their keys first came. A later value for a known key
takes the place of the earlier one.
-/

namespace Polystore

abbrev Entries (κ α : Type) := List (κ × α)

namespace Entries

variable {κ α : Type} [BEq κ]

def keys (entries : Entries κ α) : List κ := entries.map Prod.fst

def values (entries : Entries κ α) : List α := entries.map Prod.snd

/-- Gives a key a value: in place where the key is known, otherwise at the end. -/
def put (entries : Entries κ α) (key : κ) (value : α) : Entries κ α :=
  match entries with
  | [] => [(key, value)]
  | (k, v) :: rest => if k == key then (k, value) :: rest else (k, v) :: put rest key value

/-- Adds an entry unless its key is known. -/
def putNew (entries : Entries κ α) (key : κ) (value : α) : Entries κ α :=
  if entries.any (·.1 == key) then entries else entries ++ [(key, value)]

/-- Puts the pairs of a list one after the other. -/
def ofList (pairs : List (κ × α)) : Entries κ α :=
  pairs.foldl (fun entries p => entries.put p.1 p.2) []

def has (entries : Entries κ α) (key : κ) : Bool := entries.any (·.1 == key)

/-- The entries of those keys that are known, in the order of the keys, each once. -/
def among (entries : Entries κ α) (keys : List κ) : Entries κ α :=
  keys.eraseDups.filterMap fun key => (entries.lookup key).map (key, ·)

end Entries

end Polystore
