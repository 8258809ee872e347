import Polystore.Proofs.Service.CacheDegradation
import Polystore.Proofs.Sql.Conjuncts
import Polystore.Proofs.Sql.Parameters

/-! How a hit of the cache divides the ids of a lookup. Every id that is asked for is either
served or left open, the rows of a hit are those that its ids may show, and the statement of a
plan that takes a hit is for exactly the ids that are left open.
-/

namespace Polystore

open Outcome

-----------------------------------------------------------------------------------------
-- Statements for ids
-----------------------------------------------------------------------------------------

namespace Sql

open Statement

/-- SQL for the rows of one table by ids: the first conjunct of its conditions is that a column is
among the ids, which are its first parameter.
-/
def Restricts (d : Dialect) (column : ColumnName String) (ids : List Value) (compiled : Compiled)
    : Prop :=
  ∃ select table body others rest,
    compiled.sql = d.render (join "\n" (select :: table :: (.text "WHERE " :: body) :: rest))
    ∧ conjuncts 0 body
      = d.membership [.name column.table, .text ".", .name column.physicalName]
          [.slot (.list ids)]
        :: others
    ∧ compiled.params.head? = some (.list ids)

/-- A statement of one table whose first condition restricts it to ids has SQL that does. -/
theorem restricts_of_conditions {d : Dialect} (shippedDialect : d ∈ shipped)
    {s : Statement String} (alone : s.joins = []) {column : ColumnName String} {ids : List Value}
    {source : Source} {behind : List (Condition (ColumnName String))}
    (conditions : s.conditions = ⟨column, .known .among, .list ids, source⟩ :: behind)
    (some : ids ≠ []) {compiled : Compiled} (written : Compiled.ofStatement d s = .ok compiled)
    : Restricts d column ids compiled := by
  obtain ⟨sql, hsql, written⟩ := Outcome.bind_eq_ok.mp written
  cases written
  obtain ⟨select, table, joins, clauses, rest, whole, joined, inWhere⟩ :=
    setsOut_of_ofStatement shippedDialect hsql
  rw [alone] at joined
  cases joined
  obtain ⟨texts, each, clause⟩ := inWhere
  rw [conditions, if_neg (by simp)] at clause
  obtain ⟨body, rfl, parts⟩ := clause
  have present : (Value.list ids).isPresent = true := by simpa [Value.isPresent] using some
  have first : condition d ⟨column, .known .among, .list ids, source⟩
      = .ok (d.membership [.name column.table, .text ".", .name column.physicalName]
          [.slot (.list ids)]) := by
    simp [condition, column_eq, member, present, Value.elements?]
  rw [conditions] at each
  have parameter : Condition.parameter? (⟨column, .known .among, .list ids, source⟩
      : Condition (ColumnName String)) = .some (.list ids) := by
    simp [Condition.parameter?, present, Value.elements?]
  cases each with
  | @cons _ _ _ others head _ =>
      cases first.symm.trans head.predicate.written
      refine ⟨select, _, body, others, rest, by rw [whole]; rfl, parts, ?_⟩
      obtain ⟨_, predicates, woven⟩ := exists_woven shippedDialect hsql
      rw [params_eq_of_woven predicates woven]
      simp [Statement.predicates, alone, conditions, Predicate.parameter?, parameter]

end Sql

namespace Planning

-----------------------------------------------------------------------------------------
-- Divisions of ids
-----------------------------------------------------------------------------------------

/-- A division of the ids that are asked for. Each part has ids as they are first asked for, in
that order; every id that is asked for is the same as one of them, and no two of them are the same,
be it within a part or across the parts.
-/
structure Divides (asked served left : List Value) : Prop where
  first : ∀ id ∈ served ++ left, asked.find? (·.same id) = some id
  covered : ∀ id ∈ asked, ∃ first ∈ served ++ left, first.same id = true
  apart : (served ++ left).Pairwise fun a b => a.same b = false
  servedInOrder
    : served.Pairwise fun a b => asked.findIdx (·.same a) < asked.findIdx (·.same b)
  leftInOrder : left.Pairwise fun a b => asked.findIdx (·.same a) < asked.findIdx (·.same b)

variable {nesting : Nat} {values : Entries String Value}
  {conditions : List (Condition ColumnRef)} {keys : List (Value × String)}

/-- The ids that a hit serves or leaves open are those that have keys. -/
theorem Apart.parts_perm (h : Apart keys) (nesting : Nat) (values : Entries String Value)
    (conditions : List (Condition ColumnRef)) (database : String)
    : ((hitOf nesting values conditions keys database).served
        ++ (hitOf nesting values conditions keys database).fallback).Perm
        (keys.map Prod.fst) := by
  rw [h.fallback_hitOf]
  change ((keys.filter _).map _ ++ _).Perm _
  rw [← List.map_append]
  exact (List.filter_append_perm _ keys).map _

/-- No id whose key passes a test is the same as one whose key fails it. -/
theorem Apart.same_eq_false (h : Apart keys) {test : Value × String → Bool} {a b : Value}
    (ha : a ∈ (keys.filter test).map Prod.fst)
    (hb : b ∈ (keys.filter fun e => !test e).map Prod.fst)
    : a.same b = false := by
  obtain ⟨e, left, rfl⟩ := List.mem_map.mp ha
  obtain ⟨other, right, rfl⟩ := List.mem_map.mp hb
  obtain ⟨listed, passes⟩ := List.mem_filter.mp left
  obtain ⟨listed', fails⟩ := List.mem_filter.mp right
  rw [Bool.eq_false_iff]
  intro same
  rw [← h.eq_of_same listed listed' same, passes] at fails
  cases fails

/-- A hit divides the ids that are asked for. -/
theorem Apart.divides (h : Apart keys) {asked : List Value}
    (ids : keys.map Prod.fst = Value.distinct asked) (nesting : Nat)
    (values : Entries String Value) (conditions : List (Condition ColumnRef)) (database : String)
    : Divides asked (hitOf nesting values conditions keys database).served
        (hitOf nesting values conditions keys database).fallback := by
  have firsts : FirstsOf Value.same asked (keys.map Prod.fst) := by
    rw [ids]
    refine Value.firstsOf_distinct fun id member => ?_
    rw [← ids] at member
    obtain ⟨e, listed, rfl⟩ := List.mem_map.mp member
    exact h.scalars e listed
  have distinct : (keys.map Prod.fst).Pairwise fun a b => a.same b = false :=
    List.pairwise_map.mpr h.distinct
  have part (test : Value × String → Bool)
      : ((keys.filter test).map Prod.fst).Sublist (keys.map Prod.fst) :=
    List.filter_sublist.map _
  have parts := h.parts_perm nesting values conditions database
  constructor
  case first => exact fun id member => firsts.first id (parts.mem_iff.mp member)
  case covered =>
    intro id member
    obtain ⟨first, listed, same⟩ := firsts.covered id member
    exact ⟨first, parts.mem_iff.mpr listed, same⟩
  case apart =>
    rw [h.fallback_hitOf, List.pairwise_append]
    exact ⟨distinct.sublist (part _), distinct.sublist (part _), fun a ha b hb =>
      h.same_eq_false ha hb⟩
  case servedInOrder => exact firsts.ordered.sublist (part _)
  case leftInOrder =>
    rw [h.fallback_hitOf]
    exact firsts.ordered.sublist (part _)

-----------------------------------------------------------------------------------------
-- The rows of a hit
-----------------------------------------------------------------------------------------

/-- The row that was read for an id: what stands under the key of the id, if that is a row. -/
def RowRead (runtime : Runtime) (pattern : String) (context : Context)
    (values : Entries String Value) (id : Value) (row : Row)
    : Prop :=
  ∃ key,
    Cache.key runtime.objects pattern id context.values = .ok key
    ∧ Cache.row? runtime.nesting ((values.lookup key).getD .null) = .ok (some row)

/-- What a hit holds of the ids that are asked for, given the row rules of their table and which
rows were read. Served are the ids whose row has every column of the row rules; the rows of the
hit are those rows that comply with the row rules, in the order of their ids.
-/
structure Accounts (asked : List Value) (context : Context) (rules : List RowRule)
    (read : Value → Row → Prop) (hit : CacheHit)
    : Prop where
  divides : Divides asked hit.served hit.fallback
  served
    : ∀ id ∈ hit.served ++ hit.fallback,
        id ∈ hit.served
        ↔ ∃ row, read id row ∧ ∀ rule ∈ rules, row.has rule.column = true
  rows
    : ∀ id row,
        (id, row) ∈ hit.rows
        ↔ id ∈ hit.served ∧ read id row ∧ row.Complies context rules
  inOrder : (hit.rows.map Prod.fst).Sublist hit.served

/-- An id that has a key is served where its key holds a row. -/
theorem Apart.mem_served (h : Apart keys) {e : Value × String} (member : e ∈ keys)
    (database : String)
    : e.1 ∈ (hitOf nesting values conditions keys database).served
      ↔ ∃ row, heldRow nesting values conditions e.2 = some row := by
  rw [← Option.isSome_iff_exists]
  constructor
  · intro served
    obtain ⟨other, listed, same⟩ := List.mem_map.mp served
    obtain ⟨listed, held⟩ := List.mem_filter.mp listed
    have self : other.1.same e.1 = true := same ▸ Value.same_self (h.scalars other listed)
    rwa [h.eq_of_same listed member self] at held
  · exact fun held => List.mem_map.mpr ⟨e, List.mem_filter.mpr ⟨member, held⟩, rfl⟩

/-- The rows of a hit are those that are shown, each with the id of its key. -/
theorem mem_rows_hitOf {id : Value} {row : Row} (database : String)
    : (id, row) ∈ (hitOf nesting values conditions keys database).rows
      ↔ ∃ key, (id, key) ∈ keys ∧ shownRow nesting values conditions key = some row := by
  change (id, row) ∈ keys.filterMap _ ↔ _
  rw [List.mem_filterMap]
  constructor
  · rintro ⟨⟨other, key⟩, member, shown⟩
    obtain ⟨found, isShown, same⟩ := Option.map_eq_some_iff.mp shown
    cases same
    exact ⟨key, member, isShown⟩
  · rintro ⟨key, member, isShown⟩
    exact ⟨(id, key), member, by simp [isShown]⟩

/-- The ids of the rows of a hit stand in the order in which they are served. -/
theorem ids_sublist_served (keys : List (Value × String)) (database : String)
    : ((hitOf nesting values conditions keys database).rows.map Prod.fst).Sublist
        (hitOf nesting values conditions keys database).served := by
  change ((keys.filterMap _).map _).Sublist ((keys.filter _).map _)
  induction keys with
  | nil => exact .slnil
  | cons e rest ih =>
      cases held : heldRow nesting values conditions e.2 with
      | none => simpa [shownRow, held] using ih
      | some row =>
          rw [List.filter_cons_of_pos (by simp [held]), List.map_cons, List.filterMap_cons]
          cases shownRow nesting values conditions e.2 with
          | none => exact ih.cons _
          | some row => exact ih.cons_cons _

/-- Rows have the columns of conditions of row rules if they have those of the rules. -/
theorem covers_iff {row : Row} {context : Context} {table : String} {rules : List RowRule}
    : row.covers (rules.map (RowRule.conditionOn context table)) = true
      ↔ ∀ rule ∈ rules, row.has rule.column = true := by
  simp [Row.covers, RowRule.conditionOn, ColumnRef.joined]

/-- A held row is shown exactly where it complies with the row rules. -/
theorem shownRow_eq_some_iff {row : Row} {context : Context} {table key : String}
    {rules : List RowRule}
    : shownRow nesting values (rules.map (RowRule.conditionOn context table)) key = some row
      ↔ Cache.row? nesting ((values.lookup key).getD .null) = .ok (some row)
        ∧ row.Complies context rules := by
  obtain ⟨met, decided, holds⟩ := row.exists_meets context table rules
  rw [shownRow_eq_some, heldRow_eq_some, and_assoc, covers_iff, decided, Except.ok.injEq, holds]
  refine and_congr_right fun _ => ?_
  exact ⟨fun ⟨has, held⟩ rule member => ⟨has rule member, held rule member⟩,
    fun complies => ⟨fun rule member => (complies rule member).1,
      fun rule member => (complies rule member).2⟩⟩

/-- The hit of what was read for the ids that are asked for accounts for them. -/
theorem Apart.accounts (h : Apart keys) {asked : List Value} {runtime : Runtime}
    {pattern : String} {context : Context}
    (keyed : Cache.keys runtime.objects pattern context.values (Value.distinct asked) = .ok keys)
    (values : Entries String Value) (table : String) (rules : List RowRule) (database : String)
    : Accounts asked context rules (RowRead runtime pattern context values)
        (hitOf runtime.nesting values (rules.map (RowRule.conditionOn context table)) keys
          database) := by
  have ids : keys.map Prod.fst = Value.distinct asked :=
    Entries.keys_of_forall₂ (Cache.keys_eq_ok keyed)
  have divides :=
    h.divides ids runtime.nesting values (rules.map (RowRule.conditionOn context table)) database
  have key_eq {e : Value × String} (member : e ∈ keys)
      : Cache.key runtime.objects pattern e.1 context.values = .ok e.2 :=
    (Entries.of_mem_of_forall₂
      (R := fun id key => Cache.key runtime.objects pattern id context.values = .ok key)
      (Cache.keys_eq_ok keyed) member).2
  have parts := h.parts_perm runtime.nesting values
    (rules.map (RowRule.conditionOn context table)) database
  have read_iff {e : Value × String} (member : e ∈ keys) {row : Row}
      : RowRead runtime pattern context values e.1 row
        ↔ Cache.row? runtime.nesting ((values.lookup e.2).getD .null) = .ok (some row) := by
    constructor
    · rintro ⟨key, made, held⟩
      cases made.symm.trans (key_eq member)
      exact held
    · exact fun held => ⟨e.2, key_eq member, held⟩
  constructor
  case divides => exact divides
  case served =>
    intro id member
    obtain ⟨e, listed, rfl⟩ := List.mem_map.mp (parts.mem_iff.mp member)
    rw [h.mem_served listed]
    simp only [heldRow_eq_some, covers_iff, read_iff listed]
  case rows =>
    intro id row
    simp only [mem_rows_hitOf, shownRow_eq_some_iff]
    constructor
    · rintro ⟨key, listed, held, complies⟩
      have covers : row.covers (rules.map (RowRule.conditionOn context table)) = true :=
        covers_iff.mpr fun rule member => (complies rule member).1
      exact ⟨(h.mem_served listed database).mpr ⟨row, heldRow_eq_some.mpr ⟨held, covers⟩⟩,
        (read_iff listed).mpr held, complies⟩
    · rintro ⟨served, read, complies⟩
      obtain ⟨e, listed, rfl⟩ :=
        List.mem_map.mp (parts.mem_iff.mp (List.mem_append_left _ served))
      exact ⟨e.2, listed, (read_iff listed).mp read, complies⟩
  case inOrder => exact ids_sublist_served keys database

-----------------------------------------------------------------------------------------
-- The ids that are left open
-----------------------------------------------------------------------------------------

/-- A plan that takes a hit leaves the open ids to a statement: it needs one exactly where there
are such ids, and then the statement is restricted to them, in whichever dialect it is written.
-/
structure Leaves (c : Catalog) (q : Query) (context : Context) (t : Table) (p : Plan)
    (hit : CacheHit)
    : Prop where
  route : p.route = .cached hit
  needsSql : p.needsSql = false ↔ hit.fallback = []
  restricted
    : hit.fallback ≠ []
      → ∃ key statement,
          t.primaryKey = [key]
          ∧ (Statement.resolve p).result = .ok statement
          ∧ statement.conditions
            = ⟨c.columnName ⟨q.source, key, false⟩, .known .among, .list hit.fallback, .ids⟩
              :: (c.rowConditions context q.source).map c.conditionNamed
          ∧ ∀ d ∈ Sql.shipped,
              ∀ compiled,
                Compiled.ofStatement d statement = .ok compiled
                → Sql.Restricts d (c.columnName ⟨q.source, key, false⟩) hit.fallback compiled

variable {c : Catalog} {q : Query} {context : Context} {granted : ScopedQuery}
  {facilities : Facilities} {tolerance : Freshness}

/-- The plan that takes a hit leaves the open ids to a statement. -/
theorem leaves_afterHit {p : Plan} {hit : CacheHit} {t : Table} {engine : String}
    (resolvable : Statement.Resolvable c q context (afterHit p hit)) (look : q.LooksUp q.idList)
    (source : c.table? q.source = some t) (needed : p.engine = some engine)
    : Leaves c q context t (afterHit p hit) hit := by
  have complete : hit.isComplete = true ↔ hit.fallback = [] := List.isEmpty_iff
  constructor
  case route => rfl
  case needsSql =>
    rw [← complete]
    cases whole : hit.isComplete <;> simp [Plan.needsSql, afterHit, whole, needed]
  case restricted =>
    intro some
    have missed : hit.isComplete = false := Bool.eq_false_iff.mpr fun whole =>
      some (complete.mp whole)
    have addressed : (afterHit p hit).engine = .some engine := by simp [afterHit, missed, needed]
    have left : (afterHit p hit).ids = .some hit.fallback := by simp [afterHit, missed]
    obtain ⟨key, single⟩ := resolvable.primaryKey_eq (by simp [left]) source
    have first : Statement.idsNamed c (afterHit p hit)
        = [⟨c.columnName ⟨q.source, key, false⟩, .known .among, .list hit.fallback, .ids⟩] := by
      simp [Statement.idsNamed, left, resolvable.query_eq, source, single]
    have conditions := resolvable.lookup_conditions_eq look engine
    rw [first] at conditions
    have joins : (Statement.named c (afterHit p hit) engine).joins = [] := by
      simp [Statement.named, resolvable.query_eq, look.joins]
    exact ⟨key, _, single, resolvable.resolve_eq addressed, conditions,
      fun d shipped compiled written =>
        Sql.restricts_of_conditions shipped joins conditions some written⟩

-----------------------------------------------------------------------------------------
-- Hits of lookups
-----------------------------------------------------------------------------------------

/-- What a cache answers when it is asked for the keys of ids, in their order. -/
def Answers (runtime : Runtime) (cache : Cache) (pattern : String) (context : Context)
    (ids : List Value) (values : Entries String Value)
    : Prop :=
  ∃ keys,
    List.Forall₂ (fun id key => Cache.key runtime.objects pattern id context.values = .ok key) ids
      keys
    ∧ cache.read keys = .ok values

/-- Wherever the cache has a hit for a query that is valid and granted, the hit accounts for all
ids that the query asks for, by what the cache answers for them and the row rules of the role, and
the query is planned with the hit, which leaves to a statement exactly the ids that it does not
serve.
-/
theorem hit_accounts_for_ids (valid : Validation.issues c q = [])
    (allowed : (Access.apply c q context).result = .ok granted) {hit : CacheHit}
    (taken
      : (throughCache ⟨c, facilities, granted, c.touched q, context, tolerance⟩).result
        = .ok (some (.cached hit)))
    : ∃ t rule cache entry values p,
        c.table? q.source = some t
        ∧ c.rule? context.role t = some rule
        ∧ facilities.cache = some cache
        ∧ c.cacheOf? t = some entry
        ∧ Answers facilities.runtime cache entry.keyPattern context (Value.distinct q.idList) values
        ∧ Accounts q.idList context rule.rows
            (RowRead facilities.runtime entry.keyPattern context values) hit
        ∧ (plan c facilities granted context tolerance).result = .ok p
        ∧ Leaves c q context t p hit := by
  have accepted := Validation.accepted_of_issues valid
  have rights := Access.granted_of_apply allowed
  have known := rights.tablesOf_tableNames
  obtain ⟨l, keys, values, reads, is⟩ := hit_of_throughCache taken
  obtain ⟨scope, rule, _, _, of, table, rows⟩ :=
    scope_of_lookup accepted rights reads.looked rfl known
  have look := looksUp_of_lookup accepted rights reads.looked rfl known
  obtain ⟨p, engine, atHome, needed, _⟩ :=
    exists_plan_withoutCache accepted rights reads.looked known
  have answerable := answerable_of_lookup reads.looked
  have source : c.table? q.source = some l.table := by rw [table, of.table]
  have ruled : c.rule? context.role l.table = some rule := by rw [table, of.ruled]
  have keyed := reads.keyed
  rw [rights.query] at keyed
  have answers
      : Answers facilities.runtime l.cache l.entry.keyPattern context (Value.distinct q.idList)
          values := by
    refine ⟨keys.map Prod.snd, ?_, reads.answered⟩
    rw [List.forall₂_map_right_iff]
    exact (Cache.keys_eq_ok keyed).imp fun _ _ made => made.2
  have accounts := reads.apart.2.accounts keyed values q.source rule.rows l.table.database
  rw [← of.rows, ← rows] at accounts
  cases is
  have single : c.touched q = [l.table] := answerable.tables
  rw [single] at atHome taken known
  have planned := plan_of_hit known atHome rfl taken
  exact ⟨l.table, rule, l.cache, l.entry, values, _, source, ruled, answerable.cache,
    answerable.entry, answers, accounts, planned,
    leaves_afterHit (Statement.resolvable_of_plan valid allowed planned) look source needed⟩

end Planning

namespace Sample

/-- A lookup of users in no order, with repetitions: the truth value counts as the number one. -/
def repeatedLookup : Query :=
  { lookup with byIds := some [.int 3, .int 1, .bool true, .int 2, .int 3] }

/-- Of the ids that are asked for, the first and the second user are served, of whom the second is
hidden, and the third is left to a statement.
-/
theorem repeated_ids_accounted
    : ∃ granted hit rule values p,
        (Access.apply catalog repeatedLookup context).result = .ok granted
        ∧ (Planning.throughCache ⟨catalog, service.facilities, granted,
            catalog.touched repeatedLookup, context, .hours⟩).result
          = .ok (some (.cached hit))
        ∧ hit.served = [.int 1, .int 2]
        ∧ hit.fallback = [.int 3]
        ∧ hit.rows.map Prod.fst = [.int 1]
        ∧ Planning.Accounts repeatedLookup.idList context rule
            (Planning.RowRead runtime "users:\x7bid\x7d" context values) hit
        ∧ (Planning.plan catalog service.facilities granted context .hours).result = .ok p
        ∧ Planning.Leaves catalog repeatedLookup context users p hit := by
  have parts
      : ((Access.apply catalog repeatedLookup context).result >>= fun granted =>
          (Planning.throughCache ⟨catalog, service.facilities, granted,
            catalog.touched repeatedLookup, context, .hours⟩).result).map
          (fun route => (route.bind Route.hit?).map fun hit =>
            (hit.served, hit.fallback, hit.rows.map Prod.fst))
        = .ok (some ([.int 1, .int 2], [.int 3], [.int 1])) := by
    cbv
  obtain ⟨route, taken, parts⟩ := Outcome.map_eq_ok.mp parts
  obtain ⟨granted, allowed, taken⟩ := Outcome.bind_eq_ok.mp taken
  obtain ⟨hit, is, parts⟩ := Option.map_eq_some_iff.mp parts
  obtain ⟨route, rfl, is⟩ := Option.bind_eq_some_iff.mp is
  obtain ⟨_, _, _, _, rfl⟩ := Planning.hit_of_throughCache taken
  cases is
  simp only [Prod.mk.injEq] at parts
  obtain ⟨served, left, shown⟩ := parts
  obtain ⟨t, rule, cache, entry, values, p, source, _, _, listed, _, accounts, planned, leaves⟩ :=
    Planning.hit_accounts_for_ids (by rfl) allowed taken
  cases source
  cases listed
  exact ⟨granted, _, rule.rows, values, p, allowed, taken, served, left, shown, accounts, planned,
    leaves⟩

end Sample

end Polystore
