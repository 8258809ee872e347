import Polystore.Proofs.Service.Calls
import Polystore.Proofs.Service.Division

/-! Rows that a lookup shows more than once. The cache finds rows by the texts of ids, and nothing
compares the rows that it gives with one another, so that two ids of one text show one row twice.
Where the cache keeps rows by their own keys, this and keys that differ for equal values are all
that can repeat a row.
-/

namespace Polystore

/-- A cache that keeps rows by their own keys: whatever it answers, a row stands under the key that
a pattern gives to the value of its key column.
-/
def Cache.KeepsByKey (cache : Cache) (runtime : Runtime) (pattern column : String)
    (context : Context)
    : Prop :=
  ∀ asked values place value row,
    cache.read asked = .ok values
    → values.lookup place = some value
    → Cache.row? runtime.nesting value = .ok (some row)
    → Cache.key runtime.objects pattern (row.cell column) context.values = .ok place

/-- A store in which each row stands under its own key keeps rows by their own keys. -/
theorem Cache.Store.keepsByKey {store : Store} {runtime : Runtime} {pattern column : String}
    {context : Context}
    (own
      : ∀ e ∈ store,
          ∀ row,
            Cache.row? runtime.nesting e.2 = .ok (some row)
            → Cache.key runtime.objects pattern (row.cell column) context.values = .ok e.1)
    : store.cache.KeepsByKey runtime pattern column context := by
  intro asked values place value row read found held
  cases read
  exact own _ (Entries.mem_of_lookup (Entries.lookup_of_lookup_among found)) row held

/-- Rows of which no two have equal values under a label. -/
def ApartBy (label : String) (rows : List Row) : Prop :=
  rows.Pairwise fun a b =>
    (a.cell label).equals (b.cell label) = false ∧ (b.cell label).equals (a.cell label) = false

namespace Planning

variable {s : Setting} {l : Lookup} {keys : List (Value × String)} {values : Entries String Value}
  {hit : CacheHit} {column : String}

-----------------------------------------------------------------------------------------
-- Rows and the keys they are found under
-----------------------------------------------------------------------------------------

/-- What tells the rows of a hit apart, given the keys of values. Ids with one key are one id, at
least if their row has a value in the key column that is equal to itself; and rows with equal values
there have one key.
-/
structure TellsApart (keyOf : Value → Except Fault String) (column : String)
    (rows : List (Value × Row))
    : Prop where
  ids
    : ∀ a ∈ rows,
        ∀ b ∈ rows,
          keyOf a.1 = keyOf b.1
          → (a.2.cell column).equals (a.2.cell column) = true
          → a.1 = b.1
  values
    : ∀ a ∈ rows,
        ∀ b ∈ rows,
          (a.2.cell column).equals (b.2.cell column) = true
          → keyOf (a.2.cell column) = keyOf (b.2.cell column)

/-- Rows that are found under the keys of their ids, as what stands there, and under the keys of
their own values.
-/
structure FoundByKey (keyOf : Value → Except Fault String) (column : String)
    (rows : List (Value × Row))
    : Prop where
  distinct : (rows.map Prod.fst).Nodup
  own : ∀ e ∈ rows, keyOf e.1 = keyOf (e.2.cell column)
  same : ∀ a ∈ rows, ∀ b ∈ rows, keyOf a.1 = keyOf b.1 → a.2 = b.2

/-- Rows with distinct ids have no equal values in a column exactly where rows with equal values
there have one id.
-/
theorem pairwise_iff {rows : List (Value × Row)} (distinct : (rows.map Prod.fst).Nodup)
    : rows.Pairwise (fun a b =>
          (a.2.cell column).equals (b.2.cell column) = false
          ∧ (b.2.cell column).equals (a.2.cell column) = false)
      ↔ ∀ a ∈ rows,
          ∀ b ∈ rows, (a.2.cell column).equals (b.2.cell column) = true → a.1 = b.1 := by
  constructor
  · intro apart a ha b hb
    have later : rows.Pairwise fun a b =>
        (a.2.cell column).equals (b.2.cell column) = true → a.1 = b.1 :=
      apart.imp fun unequal equal => by simp [unequal.1] at equal
    have earlier : rows.Pairwise fun a b =>
        (b.2.cell column).equals (a.2.cell column) = true → b.1 = a.1 :=
      apart.imp fun unequal equal => by simp [unequal.2] at equal
    exact later.forall_of_forall_of_flip (fun _ _ _ => rfl) earlier ha hb
  · intro one
    have unequal {a b : Value × Row} (ha : a ∈ rows) (hb : b ∈ rows) (different : a ≠ b)
        : (a.2.cell column).equals (b.2.cell column) = false :=
      Bool.eq_false_iff.mpr fun equal =>
        different (List.inj_on_of_nodup_map distinct ha hb (one a ha b hb equal))
    exact (List.Nodup.of_map _ distinct).pairwise_of_forall_ne fun a ha b hb different =>
      ⟨unequal ha hb different, unequal hb ha different.symm⟩

/-- Rows that are found by key are apart exactly if something tells them apart. -/
theorem FoundByKey.apart_iff {keyOf : Value → Except Fault String} {rows : List (Value × Row)}
    (h : FoundByKey keyOf column rows)
    : rows.Pairwise (fun a b =>
          (a.2.cell column).equals (b.2.cell column) = false
          ∧ (b.2.cell column).equals (a.2.cell column) = false)
      ↔ TellsApart keyOf column rows := by
  rw [pairwise_iff h.distinct]
  constructor
  · intro apart
    constructor
    case ids =>
      intro a ha b hb key self
      exact apart a ha b hb (h.same a ha b hb key ▸ self)
    case values =>
      intro a ha b hb equal
      have id := apart a ha b hb equal
      rw [← h.own a ha, ← h.own b hb, id]
  · intro tells a ha b hb equal
    have key : keyOf a.1 = keyOf b.1 := by
      rw [h.own a ha, h.own b hb, tells.values a ha b hb equal]
    have row := h.same a ha b hb key
    exact tells.ids a ha b hb key (by rw [← row] at equal; exact equal)

-----------------------------------------------------------------------------------------
-- Rows of hits
-----------------------------------------------------------------------------------------

/-- Ids that are apart are distinct. -/
theorem Apart.nodup (h : Apart keys) : (keys.map Prod.fst).Nodup := by
  rw [List.Nodup, List.pairwise_map]
  refine h.distinct.imp_of_mem fun {a b} ha _ different same => ?_
  rw [← same, Value.same_self (h.scalars a ha)] at different
  cases different

/-- The visible rows of a hit are its rows, in order. -/
theorem Apart.visibleRows_eq (h : Apart keys) (nesting : Nat)
    (conditions : List (Condition ColumnRef)) (database : String)
    : (hitOf nesting values conditions keys database).visibleRows
      = (hitOf nesting values conditions keys database).rows.map Prod.snd := by
  rw [h.visibleRows_hitOf]
  change _ = (keys.filterMap _).map _
  rw [List.map_filterMap]
  simp

/-- The rows of a hit of a cache that keeps rows by their own keys are found by key. -/
theorem Reads.foundByKey (h : Reads s l keys values)
    (kept : l.cache.KeepsByKey s.facilities.runtime l.entry.keyPattern column s.context)
    (conditions : List (Condition ColumnRef)) (database : String)
    : FoundByKey (fun v => Cache.key s.objects l.entry.keyPattern v s.context.values) column
        (hitOf s.nesting values conditions keys database).rows := by
  have found {e : Value × Row} (member : e ∈ (hitOf s.nesting values conditions keys database).rows)
      : ∃ place,
          Cache.key s.objects l.entry.keyPattern e.1 s.context.values = .ok place
          ∧ Cache.row? s.nesting ((values.lookup place).getD .null) = .ok (some e.2) := by
    obtain ⟨place, listed, shown⟩ := (mem_rows_hitOf database).mp member
    have made := (Entries.of_mem_of_forall₂
      (R := fun id key => Cache.key s.objects l.entry.keyPattern id s.context.values = .ok key)
      (Cache.keys_eq_ok h.keyed) listed).2
    exact ⟨place, made, (heldRow_eq_some.mp (shownRow_eq_some.mp shown).1).1⟩
  constructor
  case distinct =>
    exact h.apart.2.nodup.sublist
      ((ids_sublist_served keys database).trans (List.filter_sublist.map _))
  case own =>
    intro e member
    obtain ⟨place, made, held⟩ := found member
    cases stored : values.lookup place with
    | none =>
        rw [stored] at held
        cases held
    | some value =>
        rw [stored, Option.getD_some] at held
        exact made.trans (kept _ values place value e.2 h.answered stored held).symm
  case same =>
    intro a ha b hb key
    obtain ⟨place, made, held⟩ := found ha
    obtain ⟨other, made', held'⟩ := found hb
    cases made.symm.trans (key.trans made')
    rw [held, Except.ok.injEq, Option.some.injEq] at held'
    exact held'

end Planning

namespace Service

open Planning

variable {s : Service} {q : Query} {context : Context} {t : Table} {cache : Cache}
  {entry : CachedTable}

/-- Where the cache keeps rows by the values of a selected column, as it does by those of the key
column, a complete hit shows no two rows with equal values there exactly if its ids and these values
tell its rows apart. It shows a row twice for two ids that are not the same but have one key.
-/
theorem execute_apart_iff {cancellation : Cancellation} {past : List Happening} {answer : Answer}
    (executed : (s.execute q context cancellation past).result = .ok answer) {hit : CacheHit}
    (taken : answer.prepared.plan.route.hit? = some hit) (complete : hit.fallback = [])
    (source : s.catalog.table? q.source = some t) (present : s.facilities.cache = some cache)
    (listed : s.catalog.cacheOf? t = some entry) {ref : ColumnRef}
    (selected : ref ∈ answer.prepared.plan.granted.selection)
    (kept : cache.KeepsByKey s.facilities.runtime entry.keyPattern ref.column context)
    : ∃ rows,
        answer.rows = some rows
        ∧ (ApartBy ref.label rows
            ↔ TellsApart
              (fun v => Cache.key s.facilities.runtime.objects entry.keyPattern v context.values)
              ref.column hit.rows) := by
  obtain ⟨prepares, rows, ran, answered⟩ := prepares_of_execute executed
  obtain ⟨tables, l, keys, values, scope, _, reads, rfl, joins, _, of, table⟩ :=
    prepares.reads_of_hit taken
  have answerable := answerable_of_lookup reads.looked
  have same : l.table = t := by
    rw [table, ← Option.some.injEq, ← of.table, source]
  obtain rfl : l.entry = entry := by
    rw [← Option.some.injEq, ← answerable.entry, same, listed]
  obtain rfl : l.cache = cache := by
    rw [← Option.some.injEq, ← answerable.cache, present]
  have unwritten : answer.prepared.statement = none := by
    cases prepares.shape with
    | complete _ _ _ unwritten => exact unwritten
    | spoken _ _ left =>
        have missed := left _ taken
        simp [CacheHit.isComplete, complete] at missed
  rw [(prepares.rows_of_complete taken unwritten).2] at ran
  replace ran := eq_of_complete_nil taken ran
  rw [reads.apart.2.visibleRows_eq] at ran
  have labels := (Access.granted_of_apply prepares.granted).labels_nodup
    (Validation.accepted_of_issues prepares.valid) joins
  have cell_eq (row : Row)
      : (Cache.projectCached answer.prepared.plan.granted.selection row).cell ref.label
        = row.cell ref.column := by
    rw [Cache.projectCached_eq labels, Row.cell]
    have member : (ref.label, row.cell ref.column)
        ∈ answer.prepared.plan.granted.selection.map fun ref =>
            (ref.label, row.cell ref.column) :=
      List.mem_map_of_mem selected
    rw [Entries.lookup_of_mem (by rwa [Entries.keys, List.map_map]) member, Option.getD_some]
  refine ⟨rows, answered, ?_⟩
  rw [← (reads.foundByKey kept _ _).apart_iff, ApartBy, ran, List.map_map, List.pairwise_map]
  simp only [Function.comp_apply, cell_eq]

end Service

namespace Sample

/-- Users of the tenant of the clerk, each under the key of its id. -/
def keptStore : Cache.Store := [
  ("users:1", .object (cachedUser 1 "Ann" "acme")),
  ("users:3", .object (cachedUser 3 "Cid" "acme"))]

def keptService : Service :=
  { service with facilities := ⟨false, some keptStore.cache, true, runtime⟩ }

theorem keptStore_keepsByKey
    : keptStore.cache.KeepsByKey runtime "users:\x7bid\x7d" "id" context := by
  refine Cache.Store.keepsByKey fun e member row held => ?_
  simp only [keptStore, List.mem_cons, List.not_mem_nil, or_false] at member
  rcases member with rfl | rfl
  all_goals
    cases held
    cbv

/-- The same user by a number and by its text. -/
def ambiguousLookup : Query := { lookup with byIds := some [.int 1, .text "1"] }

/-- The cache answers for both ids with the one user, who is shown twice. -/
theorem user_shown_twice
    : ∃ answer hit rows,
        users.primaryKey = ["id"]
        ∧ keptStore.cache.KeepsByKey runtime "users:\x7bid\x7d" "id" context
        ∧ (keptService.execute ambiguousLookup context .never []).result = .ok answer
        ∧ answer.prepared.plan.route.hit? = some hit
        ∧ hit.fallback = []
        ∧ answer.rows = some rows
        ∧ ¬ ApartBy "id" rows := by
  have parts
      : (keptService.execute ambiguousLookup context .never []).result.map
          (fun answer => (answer.prepared.plan.route.hit?.map (·.fallback), answer.rows))
        = .ok
          (some [],
            some [
              [("id", .int 1), ("name", .text "Ann")],
              [("id", .int 1), ("name", .text "Ann")]]) := by
    cbv
  obtain ⟨answer, executed, parts⟩ := Outcome.map_eq_ok.mp parts
  obtain ⟨seen, shown⟩ := Prod.mk.inj parts
  obtain ⟨hit, taken, complete⟩ := Option.map_eq_some_iff.mp seen
  refine ⟨answer, hit, _, rfl, keptStore_keepsByKey, executed, taken, complete, shown, ?_⟩
  intro apart
  have unequal := (List.pairwise_cons.mp apart).1 _ (List.mem_singleton_self _)
  revert unequal
  decide +kernel

/-- By other ids the users are told apart, and none is shown twice. -/
theorem users_shown_once
    : ∃ answer hit rows,
        (keptService.execute { lookup with byIds := some [.int 1, .int 3] } context .never
            []).result
          = .ok answer
        ∧ answer.prepared.plan.route.hit? = some hit
        ∧ rows = [
          [("id", .int 1), ("name", .text "Ann")], [("id", .int 3), ("name", .text "Cid")]]
        ∧ answer.rows = some rows
        ∧ ApartBy "id" rows
        ∧ Planning.TellsApart (fun v => Cache.key .none "users:\x7bid\x7d" v context.values) "id"
            hit.rows := by
  have parts
      : (keptService.execute { lookup with byIds := some [.int 1, .int 3] } context .never
            []).result.map
          (fun answer =>
            (answer.prepared.plan.route.hit?.map (·.fallback), answer.rows,
              answer.prepared.plan.granted.selection))
        = .ok
          (some [],
            some [
              [("id", .int 1), ("name", .text "Ann")], [("id", .int 3), ("name", .text "Cid")]],
            [⟨"users", "id", false⟩, ⟨"users", "name", false⟩]) := by
    cbv
  obtain ⟨answer, executed, parts⟩ := Outcome.map_eq_ok.mp parts
  simp only [Prod.mk.injEq] at parts
  obtain ⟨seen, shown, selection⟩ := parts
  obtain ⟨hit, taken, complete⟩ := Option.map_eq_some_iff.mp seen
  have selected
      : (⟨"users", "id", false⟩ : ColumnRef) ∈ answer.prepared.plan.granted.selection := by
    rw [selection]
    exact List.mem_cons_self ..
  have source : catalog.table? "users" = some users := rfl
  have present : keptService.facilities.cache = some keptStore.cache := rfl
  obtain ⟨rows, answered, apart⟩ := Service.execute_apart_iff executed taken complete source present
    rfl selected keptStore_keepsByKey
  rw [shown, Option.some.injEq] at answered
  subst answered
  have once : ApartBy "id"
      [[("id", .int 1), ("name", .text "Ann")], [("id", .int 3), ("name", .text "Cid")]] := by
    rw [ApartBy, List.pairwise_pair]
    decide +kernel
  exact ⟨answer, hit, _, executed, taken, rfl, shown, once, apart.mp once⟩

end Sample

end Polystore
