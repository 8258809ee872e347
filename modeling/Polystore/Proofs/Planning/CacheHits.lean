import Polystore.Planning.Planner
import Polystore.Proofs.Cache.Keys
import Polystore.Proofs.Planning.Routing
import Polystore.Proofs.Value.Sameness

/-! What a hit of the cache holds. Of the ids that are asked for, those whose key leads to a row
with every column of the row rules are served, all others are left to the database, and the
visible rows are those of the served ids that meet the row rules.
-/

namespace Polystore.Planning

-----------------------------------------------------------------------------------------
-- What is found under a key
-----------------------------------------------------------------------------------------

variable (nesting : Nat) (values : Entries String Value) (conditions : List (Condition ColumnRef))

/-- The row under a key that counts: one that has every column of the conditions. -/
def heldRow (key : String) : Option Row :=
  match Cache.row? nesting ((values.lookup key).getD .null) with
  | .ok row => row.filter (·.covers conditions)
  | .error _ => none

/-- The row under a key that meets the conditions. -/
def shownRow (key : String) : Option Row :=
  (heldRow nesting values conditions key).filter fun row =>
    match row.meets conditions with
    | .ok visible => visible
    | .error _ => false

/-- What ids and keys lead to: the rows that are shown, and the ids whose rows are held. -/
def sifted (keys : List (Value × String)) : Found where
  rows := keys.filterMap fun e => (shownRow nesting values conditions e.2).map (e.1, ·)
  served := (keys.filter fun e => (heldRow nesting values conditions e.2).isSome).map Prod.fst

variable {nesting values conditions}

theorem heldRow_eq_some {key : String} {row : Row}
    : heldRow nesting values conditions key = some row
      ↔ Cache.row? nesting ((values.lookup key).getD .null) = .ok (some row)
        ∧ row.covers conditions = true := by
  unfold heldRow
  cases Cache.row? nesting ((values.lookup key).getD .null) with
  | error fault => simp
  | ok held => simp [Option.filter_eq_some_iff]

theorem shownRow_eq_some {key : String} {row : Row}
    : shownRow nesting values conditions key = some row
      ↔ heldRow nesting values conditions key = some row ∧ row.meets conditions = .ok true := by
  rw [shownRow, Option.filter_eq_some_iff]
  cases row.meets conditions <;> simp

/-- Keys whose values can be read, and whose rows can be checked, are sifted, by induction on
the keys.
-/
theorem sift_eq_ok {keys : List (Value × String)}
    (read : ∀ e ∈ keys, ∃ row, Cache.row? nesting ((values.lookup e.2).getD .null) = .ok row)
    (checked
      : ∀ e ∈ keys,
          ∀ row ∈ heldRow nesting values conditions e.2,
            ∃ visible, row.meets conditions = .ok visible)
    : sift nesting values conditions keys = .ok (sifted nesting values conditions keys) := by
  induction keys with
  | nil => rfl
  | cons e rest ih =>
      obtain ⟨id, key⟩ := e
      obtain ⟨row, hrow⟩ := read _ (List.mem_cons_self ..)
      have behind := ih (fun e member => read e (List.mem_cons_of_mem _ member))
        fun e member => checked e (List.mem_cons_of_mem _ member)
      have here := checked _ (List.mem_cons_self ..)
      simp only [sift, hrow, Outcome.ok_bind]
      cases row with
      | none =>
          rw [behind]
          simp [sifted, shownRow, heldRow, hrow]
      | some row =>
          cases covers : row.covers conditions with
          | false =>
              simp only [covers, Bool.false_eq_true, if_false]
              rw [behind]
              simp [sifted, shownRow, heldRow, hrow, Option.filter, covers]
          | true =>
              obtain ⟨visible, hvisible⟩ := here row (by simp [heldRow, hrow, covers])
              simp only [covers, if_true, hvisible, Outcome.ok_bind, behind, Outcome.pure_eq]
              cases visible <;>
                simp [sifted, shownRow, heldRow, hrow, Option.filter, covers, hvisible]

-----------------------------------------------------------------------------------------
-- What a hit holds
-----------------------------------------------------------------------------------------

/-- Ids with keys of which no two are the same and none is a collection. -/
structure Apart (keys : List (Value × String)) : Prop where
  scalars : ∀ e ∈ keys, e.1.isCollection = false
  distinct : keys.Pairwise fun a b => a.1.same b.1 = false

variable {keys : List (Value × String)}

/-- Among ids that are apart only an id itself is the same as it. -/
theorem Apart.eq_of_same (h : Apart keys) {a b : Value × String} (ha : a ∈ keys) (hb : b ∈ keys)
    (same : a.1.same b.1 = true)
    : a = b := by
  have later : keys.Pairwise fun a b => a.1.same b.1 = true → a = b :=
    h.distinct.imp fun different same => by simp [same] at different
  have earlier : keys.Pairwise fun a b => b.1.same a.1 = true → b = a := by
    refine h.distinct.imp_of_mem fun {a b} _ hb different same => ?_
    simp [Value.same_symm (h.scalars b hb) same] at different
  exact later.forall_of_forall_of_flip (fun _ _ _ => rfl) earlier ha hb same

/-- The hit of what was sifted. -/
def hitOf (nesting : Nat) (values : Entries String Value) (conditions : List (Condition ColumnRef))
    (keys : List (Value × String)) (database : String)
    : CacheHit :=
  let found := sifted nesting values conditions keys
  ⟨found.rows, found.served, (keys.map Prod.fst).filter fun id => !id.isAmong found.served,
    database⟩

/-- The visible row of an id is the row that its key shows. -/
theorem Apart.row?_hitOf (h : Apart keys) {e : Value × String} (member : e ∈ keys)
    (database : String)
    : (hitOf nesting values conditions keys database).row? e.1
      = shownRow nesting values conditions e.2 := by
  unfold CacheHit.row?
  cases found
    : (hitOf nesting values conditions keys database).rows.find? fun r => r.1.same e.1 with
  | some r =>
      obtain ⟨other, hother, shown⟩ := List.mem_filterMap.mp (List.mem_of_find?_eq_some found)
      obtain ⟨row, hrow, rfl⟩ := Option.map_eq_some_iff.mp shown
      have same := List.find?_some found
      cases h.eq_of_same hother member same
      rw [hrow]
      rfl
  | none =>
      cases shown : shownRow nesting values conditions e.2 with
      | none => rfl
      | some row =>
          have listed : (e.1, row) ∈ (hitOf nesting values conditions keys database).rows :=
            List.mem_filterMap.mpr ⟨e, member, by rw [shown]; rfl⟩
          have unlike := List.find?_eq_none.mp found _ listed
          simp [Value.same_self (h.scalars e member)] at unlike

/-- The visible rows of a hit are those that the keys show, in the order of the ids. -/
theorem Apart.visibleRows_hitOf (h : Apart keys) (database : String)
    : (hitOf nesting values conditions keys database).visibleRows
      = keys.filterMap fun e => shownRow nesting values conditions e.2 := by
  have served : (hitOf nesting values conditions keys database).served
      = (keys.filter fun e => (heldRow nesting values conditions e.2).isSome).map Prod.fst :=
    rfl
  rw [CacheHit.visibleRows, served, List.filterMap_map, List.filterMap_filter]
  refine List.filterMap_congr fun e member => ?_
  rw [Function.comp_apply, h.row?_hitOf member]
  split
  · rfl
  next none =>
    cases shown : shownRow nesting values conditions e.2 with
    | none => rfl
    | some row => exact absurd (by rw [(shownRow_eq_some.mp shown).1]; rfl) none

/-- The ids that a hit leaves open are those whose keys hold no row. -/
theorem Apart.fallback_hitOf (h : Apart keys) (database : String)
    : (hitOf nesting values conditions keys database).fallback
      = (keys.filter fun e => !(heldRow nesting values conditions e.2).isSome).map Prod.fst := by
  change (keys.map Prod.fst).filter _ = _
  rw [List.filter_map]
  congr 1
  refine List.filter_congr fun e member => ?_
  rw [Function.comp_apply]
  congr 1
  rw [Bool.eq_iff_iff, Value.isAmong, List.any_eq_true]
  constructor
  · rintro ⟨id, served, same⟩
    obtain ⟨other, hother, rfl⟩ := List.mem_map.mp served
    obtain ⟨hother, held⟩ := List.mem_filter.mp hother
    rwa [← h.eq_of_same hother member same]
  · intro held
    exact ⟨e.1, List.mem_map.mpr ⟨e, List.mem_filter.mpr ⟨member, held⟩, rfl⟩,
      Value.same_self (h.scalars e member)⟩

-----------------------------------------------------------------------------------------
-- The route through the cache
-----------------------------------------------------------------------------------------

/-- The conditions of the row rules by which the rows of a lookup are checked. -/
def rowsOf (s : Setting) (l : Lookup) : List (Condition ColumnRef) :=
  ((s.granted.scopes.lookup l.table.apiName).map (·.rows)).getD []

/-- What the cache finds for a lookup: the values under the keys of the distinct ids. -/
structure Reads (s : Setting) (l : Lookup) (keys : List (Value × String))
    (values : Entries String Value)
    : Prop where
  looked : lookup s = .ok l
  keyed
    : Cache.keys s.objects l.entry.keyPattern s.context.values
        (Value.distinct s.granted.query.idList)
      = .ok keys
  answered : l.cache.read (keys.map Prod.snd) = .ok values

-----------------------------------------------------------------------------------------
-- Plans for one table
-----------------------------------------------------------------------------------------

/-- A query of one table goes through the cache where that applies, and otherwise to the
database that is home to the table.
-/
theorem chooseRoute_single {s : Setting} {t : Table} (single : s.tables = [t])
    {found : Option Route} (through : (throughCache s).result = .ok found)
    : (chooseRoute s).result = .ok (found.getD (.direct t.database)) := by
  rw [chooseRoute_eq_ok, firstRoute_cons_eq_ok]
  cases found with
  | some route => exact .inl ⟨route, through, rfl⟩
  | none =>
      refine .inr ⟨through, ?_⟩
      rw [firstRoute_cons_eq_ok]
      refine .inl ⟨.direct t.database, ?_, rfl⟩
      have once : [t.database].eraseDups = [t.database] :=
        eraseDups_of_nodup (List.nodup_singleton _)
      rw [direct, single, List.map_singleton, once]
      rfl

/-- The plan of the database that is home to all tables has a statement, restricted to the ids
of the query if there are any.
-/
theorem planFor_direct {s : Setting} {database : String} {p : Plan}
    (made : planFor s (.direct database) = .ok p)
    : p.route = .direct database
      ∧ p.granted = s.granted
      ∧ (s.granted.query.idList ≠ [] → p.ids = some s.granted.query.idList) := by
  obtain ⟨assigned, engine, _, _, rfl⟩ := planFor_eq_ok.mp made
  exact ⟨rfl, rfl, fun asked => by simp [idsFor, asked]⟩

/-- The plan that takes a hit in place of the database that is home to its table. -/
def afterHit (p : Plan) (hit : CacheHit) : Plan :=
  { p with
    route := .cached hit
    engine := if hit.isComplete then none else p.engine
    ids := if hit.isComplete then none else some hit.fallback }

/-- A hit for the table changes no more of a plan than what a hit has to change. -/
theorem planFor_hit {s : Setting} {t : Table} (single : s.tables = [t]) {p : Plan}
    (atHome : planFor s (.direct t.database) = .ok p) {hit : CacheHit}
    (home : hit.database = t.database)
    : planFor s (.cached hit) = .ok (afterHit p hit) := by
  obtain ⟨made, engine, assigned, addressed, rfl⟩ := planFor_eq_ok.mp atHome
  have same : assignments s.catalog (.cached hit) s.tables = .ok made := by
    rw [← assigned, single]
    rfl
  have engine : engineFor s.catalog (.cached hit)
      = .ok (if hit.isComplete then none else engine) := by
    cases complete : hit.isComplete with
    | true => simp [engineFor, complete]
    | false =>
        simpa [engineFor, complete, home] using addressed
  simp only [planFor, same, engine, Outcome.ok_bind, Outcome.pure_eq, afterHit, idsFor]

/-- The same facilities but for the cache, of which there is none. -/
def withoutCache (facilities : Facilities) : Facilities := { facilities with cache := none }

variable {c : Catalog} {facilities : Facilities} {granted : ScopedQuery} {context : Context}
  {tolerance : Freshness} {t : Table} {p : Plan}

/-- Without a cache a lookup in one table is answered by the database that is home to it. -/
theorem plan_withoutCache (tables : tablesOf granted granted.query.tableNames = .ok [t])
    (planned : (plan c (withoutCache facilities) granted context tolerance).result = .ok p)
    : planFor ⟨c, facilities, granted, [t], context, tolerance⟩ (.direct t.database) = .ok p := by
  obtain ⟨found, route, known, chosen, made⟩ := plan_eq_ok.mp planned
  rw [tables, Except.ok.injEq] at known
  subst known
  rw [chooseRoute_single rfl (throughCache_eq_none rfl), Except.ok.injEq] at chosen
  rw [← made, ← chosen]
  rfl

/-- Where the cache does not answer, the plan of a lookup in one table is the one without it. -/
theorem plan_of_none (tables : tablesOf granted granted.query.tableNames = .ok [t])
    (atHome
      : planFor ⟨c, facilities, granted, [t], context, tolerance⟩ (.direct t.database) = .ok p)
    (none
      : (throughCache ⟨c, facilities, granted, [t], context, tolerance⟩).result = .ok none)
    : (plan c facilities granted context tolerance).result = .ok p :=
  plan_eq_ok.mpr ⟨[t], _, tables, chooseRoute_single rfl none, atHome⟩

/-- Where the cache has a hit, the plan of a lookup in one table takes it. -/
theorem plan_of_hit (tables : tablesOf granted granted.query.tableNames = .ok [t])
    (atHome
      : planFor ⟨c, facilities, granted, [t], context, tolerance⟩ (.direct t.database) = .ok p)
    {hit : CacheHit} (home : hit.database = t.database)
    (through
      : (throughCache ⟨c, facilities, granted, [t], context, tolerance⟩).result
        = .ok (some (.cached hit)))
    : (plan c facilities granted context tolerance).result = .ok (afterHit p hit) :=
  plan_eq_ok.mpr ⟨[t], _, tables, chooseRoute_single rfl through, planFor_hit rfl atHome home⟩

end Polystore.Planning
