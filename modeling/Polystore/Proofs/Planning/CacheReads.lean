import Polystore.Proofs.Cache.Usability
import Polystore.Proofs.Planning.CacheHits

/-! What comes of reading a cache that may hold anything. Every row of a hit was found under the
key of an id that is asked for, and was checked by the row rules; the only failures are those of
keys that cannot be made and of values that cannot be read.
-/

namespace Polystore.Planning

variable {nesting : Nat} {values : Entries String Value} {conditions : List (Condition ColumnRef)}

-----------------------------------------------------------------------------------------
-- Sifting any values
-----------------------------------------------------------------------------------------

/-- What is sifted out for an id and a key, in front of what is sifted out behind them. -/
theorem sift_cons_eq_ok {id : Value} {key : String} {rest : List (Value × String)}
    {found : Found} (h : sift nesting values conditions ((id, key) :: rest) = .ok found)
    : ∃ held later,
        Cache.row? nesting ((values.lookup key).getD .null) = .ok held
        ∧ sift nesting values conditions rest = .ok later
        ∧ ((found = later ∧ ∀ row ∈ held, row.covers conditions = false)
            ∨ ∃ row visible,
                held = some row
                ∧ row.covers conditions = true
                ∧ row.meets conditions = .ok visible
                ∧ found.rows = (if visible then (id, row) :: later.rows else later.rows)
                ∧ found.served = id :: later.served) := by
  obtain ⟨held, read, h⟩ := Outcome.bind_eq_ok.mp h
  cases held with
  | none => exact ⟨none, found, read, h, .inl ⟨rfl, nofun⟩⟩
  | some row =>
      cases covers : row.covers conditions with
      | false =>
          simp only [covers, Bool.false_eq_true, if_false] at h
          exact ⟨some row, found, read, h, .inl ⟨rfl, by simpa using covers⟩⟩
      | true =>
          simp only [covers, if_true] at h
          obtain ⟨visible, meets, h⟩ := Outcome.bind_eq_ok.mp h
          obtain ⟨later, sifted, h⟩ := Outcome.bind_eq_ok.mp h
          cases h
          exact ⟨some row, later, read, sifted, .inr ⟨row, visible, rfl, covers, meets, rfl, rfl⟩⟩

/-- Whatever is sifted out of the rows under keys is what these rows come to, by induction on the
keys.
-/
theorem eq_sifted {keys : List (Value × String)} {found : Found}
    (h : sift nesting values conditions keys = .ok found)
    : found = sifted nesting values conditions keys := by
  induction keys generalizing found with
  | nil =>
      cases h
      rfl
  | cons e rest ih =>
      obtain ⟨id, key⟩ := e
      obtain ⟨held, later, read, behind, here⟩ := sift_cons_eq_ok h
      cases ih behind
      rcases here with ⟨rfl, lacks⟩ | ⟨row, visible, rfl, covers, meets, rows, served⟩
      · have absent : heldRow nesting values conditions key = none := by
          simpa [heldRow, read] using lacks
        simp [sifted, shownRow, absent]
      · have isHeld : heldRow nesting values conditions key = some row :=
          heldRow_eq_some.mpr ⟨read, covers⟩
        obtain ⟨foundRows, foundServed⟩ := found
        dsimp only at rows served
        subst rows served
        cases visible <;> simp [sifted, shownRow, isHeld, Option.filter, meets]

-----------------------------------------------------------------------------------------
-- Routes through any cache
-----------------------------------------------------------------------------------------

/-- The route for what was sifted out, if any id is served. -/
def routeFor (s : Setting) (l : Lookup) (found : Found) : Option Route :=
  if found.served.isEmpty then none
  else
    some (.cached ⟨found.rows, found.served,
      (Value.distinct s.granted.query.idList).filter fun id => !id.isAmong found.served,
      l.table.database⟩)

/-- What the route through the cache comes to, step by step: the lookup, the keys of its ids, the
answer of the cache, and what is sifted out of it.
-/
theorem result_throughCache (s : Setting)
    : (throughCache s).result
      = match lookup s with
        | .error _ => .ok none
        | .ok l =>
            match Cache.keys s.objects l.entry.keyPattern s.context.values
                (Value.distinct s.granted.query.idList) with
            | .error (.missingField _) => .ok none
            | .error fault => .error (.fault fault)
            | .ok keys =>
                match l.cache.read (keys.map Prod.snd) with
                | .error _ => .ok none
                | .ok values =>
                    match sift s.nesting values (rowsOf s l) keys with
                    | .error fault => .error (.fault fault)
                    | .ok found => .ok (routeFor s l found) := by
  unfold throughCache
  cases lookup s with
  | error reason => simp [skipCache]
  | ok l =>
      dsimp only
      cases Cache.keys s.objects l.entry.keyPattern s.context.values
          (Value.distinct s.granted.query.idList) with
      | error fault => cases fault <;> simp [skipCache]
      | ok keys =>
          simp only [readCache, Traced.result_bind, Traced.result_record, Outcome.ok_bind]
          cases l.cache.read (keys.map Prod.snd) with
          | error o => simp
          | ok values =>
              unfold rowsOf
              dsimp only
              cases sift s.nesting values
                  (((s.granted.scopes.lookup l.table.apiName).map (·.rows)).getD []) keys with
              | error fault => rfl
              | ok found => simp [hit, routeFor]

/-- A route through the cache holds what was sifted out of what the cache answered. -/
theorem throughCache_eq_some {s : Setting} {route : Route}
    (h : (throughCache s).result = .ok (some route))
    : ∃ l keys values found,
        Reads s l keys values
        ∧ sift s.nesting values (rowsOf s l) keys = .ok found
        ∧ routeFor s l found = some route := by
  rw [result_throughCache] at h
  cases looked : lookup s with
  | error reason => simp [looked] at h
  | ok l =>
      simp only [looked] at h
      split at h
      · cases h
      · cases h
      next keys keyed =>
        split at h
        · cases h
        next values answered =>
          split at h
          · cases h
          next found sifted =>
            rw [Except.ok.injEq] at h
            exact ⟨l, keys, values, found, ⟨looked, keyed, answered⟩, sifted, h⟩

/-- The ids of a lookup that have keys are the distinct ones, which are apart. -/
theorem Reads.apart {s : Setting} {l : Lookup} {keys : List (Value × String)}
    (h : Reads s l keys values)
    : keys.map Prod.fst = Value.distinct s.granted.query.idList ∧ Apart keys := by
  have ids := Entries.keys_of_forall₂ (Cache.keys_eq_ok h.keyed)
  have plain := Cache.exists_keys_iff.mp ⟨keys, h.keyed⟩
  refine ⟨ids, ?scalars, ?distinct⟩
  case scalars =>
    intro e member
    exact (plain e.1 (ids ▸ List.mem_map_of_mem member)).1
  case distinct =>
    have apart := Value.pairwise_distinct s.granted.query.idList
    rwa [← ids, Entries.keys, List.pairwise_map] at apart

/-- A route through the cache is the hit of what the keys of the ids lead to, some of which is
served.
-/
theorem hit_of_throughCache {s : Setting} {route : Route}
    (h : (throughCache s).result = .ok (some route))
    : ∃ l keys values,
        Reads s l keys values
        ∧ route = .cached (hitOf s.nesting values (rowsOf s l) keys l.table.database) := by
  obtain ⟨l, keys, values, found, reads, sifted, made⟩ := throughCache_eq_some h
  refine ⟨l, keys, values, reads, ?_⟩
  unfold routeFor at made
  split at made
  · cases made
  · cases made
    rw [eq_sifted sifted, ← reads.apart.1]
    rfl

/-- Keys can be made where the route through the cache is decided, or they lack a value. -/
theorem keyable_of_throughCache {s : Setting} {l : Lookup} (looked : lookup s = .ok l)
    {found : Option Route} (h : (throughCache s).result = .ok found)
    : Cache.Keyable s.objects l.entry.keyPattern s.context.values
        (Value.distinct s.granted.query.idList) := by
  rw [Cache.keyable_iff (Value.distinct_ne_nil (answerable_of_lookup looked).ids)]
  intro fault failed
  rw [result_throughCache, looked] at h
  simp only [failed] at h
  split at h
  next name same => exact ⟨name, Except.error.inj same⟩
  · cases h
  next keyed => cases keyed

/-- Where there is a plan the route through the cache is decided. -/
theorem exists_throughCache_of_plan {c : Catalog} {facilities : Facilities}
    {granted : ScopedQuery} {context : Context} {tolerance : Freshness} {tables : List Table}
    {p : Plan} (known : tablesOf granted granted.query.tableNames = .ok tables)
    (planned : (plan c facilities granted context tolerance).result = .ok p)
    : ∃ found,
        (throughCache ⟨c, facilities, granted, tables, context, tolerance⟩).result = .ok found := by
  obtain ⟨_, _, known', chosen, _⟩ := plan_eq_ok.mp planned
  cases known.symm.trans known'
  rw [chooseRoute_eq_ok, firstRoute_cons_eq_ok] at chosen
  rcases chosen with ⟨_, through, _⟩ | ⟨through, _⟩ <;> exact ⟨_, through⟩

/-- Where keys can be made of patterns, and all that is read can be sifted, the route through the
cache is either not taken or holds the hit of what was sifted.
-/
theorem throughCache_cases {s : Setting}
    (keyable
      : ∀ l,
          lookup s = .ok l
          → Cache.Keyable s.objects l.entry.keyPattern s.context.values
              (Value.distinct s.granted.query.idList))
    (sifts
      : ∀ l keys values, Reads s l keys values
        → sift s.nesting values (rowsOf s l) keys
          = .ok (sifted s.nesting values (rowsOf s l) keys))
    : (throughCache s).result = .ok none
      ∨ ∃ l keys values,
          Reads s l keys values
          ∧ (throughCache s).result
            = .ok (some (.cached
                (hitOf s.nesting values (rowsOf s l) keys l.table.database))) := by
  cases through : (throughCache s).result with
  | ok found =>
      cases found with
      | none => exact .inl rfl
      | some route =>
          obtain ⟨l, keys, values, reads, rfl⟩ := hit_of_throughCache through
          exact .inr ⟨l, keys, values, reads, rfl⟩
  | error failure =>
      rw [result_throughCache] at through
      cases looked : lookup s with
      | error reason => simp [looked] at through
      | ok l =>
          have only := (Cache.keyable_iff (Value.distinct_ne_nil (answerable_of_lookup looked).ids)
            ).mp (keyable l looked)
          cases made : Cache.keys s.objects l.entry.keyPattern s.context.values
              (Value.distinct s.granted.query.idList) with
          | ok keys =>
              cases answered : l.cache.read (keys.map Prod.snd) with
              | error o => simp [looked, made, answered] at through
              | ok values =>
                  have reads : Reads s l keys values := ⟨looked, made, answered⟩
                  simp [looked, made, answered, sifts l keys values reads] at through
          | error fault =>
              obtain ⟨name, rfl⟩ := only fault made
              simp [looked, made] at through

/-- A plan that takes a hit is one whose route through the cache led to it. -/
theorem throughCache_of_hit {c : Catalog} {facilities : Facilities} {granted : ScopedQuery}
    {context : Context} {tolerance : Freshness} {p : Plan}
    (planned : (plan c facilities granted context tolerance).result = .ok p) {taken : CacheHit}
    (hit : p.route.hit? = some taken)
    : ∃ tables,
        tablesOf granted granted.query.tableNames = .ok tables
        ∧ (throughCache ⟨c, facilities, granted, tables, context, tolerance⟩).result
          = .ok (some (.cached taken)) := by
  obtain ⟨tables, route, known, chosen, made⟩ := plan_eq_ok.mp planned
  have route_eq : p.route = route := by
    obtain ⟨_, _, _, _, rfl⟩ := planFor_eq_ok.mp made
    rfl
  subst route_eq
  refine ⟨tables, known, ?_⟩
  rw [chooseRoute_eq_ok, firstRoute_cons_eq_ok] at chosen
  rcases chosen with ⟨route, through, same⟩ | ⟨_, others⟩
  · cases same
    obtain ⟨_, _, _, _, is⟩ := hit_of_throughCache through
    rw [is] at hit through
    cases hit
    exact through
  · rw [hit?_eq_none others] at hit
    cases hit

/-- Without a cache no plan takes a hit. -/
theorem hit?_of_uncached {c : Catalog} {facilities : Facilities} {granted : ScopedQuery}
    {context : Context} {tolerance : Freshness} {p : Plan} (uncached : facilities.cache = none)
    (planned : (plan c facilities granted context tolerance).result = .ok p)
    : p.route.hit? = none := by
  cases taken : p.route.hit? with
  | none => rfl
  | some hit =>
      obtain ⟨tables, _, through⟩ := throughCache_of_hit planned taken
      cases (throughCache_eq_none uncached).symm.trans through

-----------------------------------------------------------------------------------------
-- Reads that fail
-----------------------------------------------------------------------------------------

/-- A cache that can be used for what a query is planned with. If the query is a lookup that the
cache is asked about, it has keys unless it lacks a value for them, and all that the cache gives
for them is legible.
-/
def CacheUsable (s : Setting) : Prop :=
  ∀ l,
    lookup s = .ok l
    → Cache.Keyable s.objects l.entry.keyPattern s.context.values
        (Value.distinct s.granted.query.idList)
      ∧ ∀ keys values,
          Reads s l keys values
          → ∀ e ∈ keys, Cache.Legible s.nesting ((values.lookup e.2).getD .null)

/-- Rows under keys are sifted out exactly where what is there is legible, by induction on the
keys.
-/
theorem exists_sift_iff
    (decided : ∀ row : Row, ∃ met, row.meets conditions = .ok met) (keys : List (Value × String))
    : (∃ found, sift nesting values conditions keys = .ok found)
      ↔ ∀ e ∈ keys, Cache.Legible nesting ((values.lookup e.2).getD .null) := by
  induction keys with
  | nil => simp [sift]
  | cons e rest ih =>
      obtain ⟨id, key⟩ := e
      rw [List.forall_mem_cons, ← ih, ← Cache.exists_row?_iff]
      constructor
      · rintro ⟨found, h⟩
        obtain ⟨held, later, read, behind, _⟩ := sift_cons_eq_ok h
        exact ⟨⟨held, read⟩, later, behind⟩
      · rintro ⟨⟨held, read⟩, later, behind⟩
        simp only [sift, read, behind, Outcome.ok_bind]
        cases held with
        | none => exact ⟨later, rfl⟩
        | some row =>
            obtain ⟨met, checked⟩ := decided row
            simp only [checked, Outcome.ok_bind]
            split
            · exact ⟨_, rfl⟩
            · exact ⟨later, rfl⟩

/-- Nothing but a value that is not legible keeps rows from being sifted out, by induction on the
keys.
-/
theorem ofCache_of_sift
    (decided : ∀ row : Row, ∃ met, row.meets conditions = .ok met) {keys : List (Value × String)}
    {fault : Fault} (h : sift nesting values conditions keys = .error fault)
    : fault.OfCache := by
  induction keys with
  | nil => cases h
  | cons e rest ih =>
      obtain ⟨id, key⟩ := e
      unfold sift at h
      cases read : Cache.row? nesting ((values.lookup key).getD .null) with
      | error other =>
          rw [read] at h
          cases h
          exact Cache.ofCache_of_row? read
      | ok held =>
          rw [read, Outcome.ok_bind] at h
          cases held with
          | none => exact ih h
          | some row =>
              obtain ⟨met, checked⟩ := decided row
              dsimp only at h
              split at h
              · rw [checked, Outcome.ok_bind] at h
                cases behind : sift nesting values conditions rest with
                | ok later => simp [behind] at h
                | error other =>
                    rw [behind] at h
                    cases h
                    exact ih behind
              · exact ih h

/-- Nothing but a fault of the cache keeps the route through it from being decided. -/
theorem ofCache_of_throughCache {s : Setting}
    (decided
      : ∀ l, lookup s = .ok l → ∀ row : Row, ∃ met, row.meets (rowsOf s l) = .ok met)
    {failure : Failure} (h : (throughCache s).result = .error failure)
    : failure.OfCache := by
  rw [result_throughCache] at h
  cases looked : lookup s with
  | error reason => simp [looked] at h
  | ok l =>
      simp only [looked] at h
      split at h
      · cases h
      next other keyed =>
        cases h
        refine (Cache.keys_error keyed).resolve_left ?_
        rintro ⟨_, name, _, _, rfl⟩
        exact other name rfl
      · split at h
        · cases h
        · split at h
          next sifted =>
            cases h
            exact ofCache_of_sift (decided l looked) sifted
          · cases h

/-- The route through a cache is decided exactly where the cache is usable. -/
theorem exists_throughCache_iff {s : Setting}
    (decided
      : ∀ l, lookup s = .ok l → ∀ row : Row, ∃ met, row.meets (rowsOf s l) = .ok met)
    : (∃ found, (throughCache s).result = .ok found) ↔ CacheUsable s := by
  rw [result_throughCache]
  cases looked : lookup s with
  | error reason => simp [CacheUsable, looked]
  | ok l =>
      have some := Value.distinct_ne_nil (answerable_of_lookup looked).ids
      have usable
          : CacheUsable s
            ↔ Cache.Keyable s.objects l.entry.keyPattern s.context.values
                (Value.distinct s.granted.query.idList)
              ∧ ∀ keys values,
                  Reads s l keys values
                  → ∀ e ∈ keys, Cache.Legible s.nesting ((values.lookup e.2).getD .null) := by
        simp [CacheUsable, looked]
      rw [usable, Cache.keyable_iff some]
      dsimp only
      split
      next name keyed =>
        -- The lookup lacks a value for its keys, so that the cache is not even read.
        refine ⟨fun _ => ⟨?_, ?_⟩, fun _ => ⟨none, rfl⟩⟩
        · rintro fault failed
          rw [keyed] at failed
          cases failed
          exact ⟨name, rfl⟩
        · intro keys values reads
          cases keyed.symm.trans reads.keyed
      next fault other keyed =>
        refine ⟨fun ⟨_, h⟩ => (nomatch h), fun ⟨only, _⟩ => ?_⟩
        obtain ⟨name, rfl⟩ := only fault keyed
        exact absurd rfl (other name)
      next keys keyed =>
        have sifts (values : Entries String Value)
            : (∃ found, sift s.nesting values (rowsOf s l) keys = .ok found)
              ↔ ∀ e ∈ keys, Cache.Legible s.nesting ((values.lookup e.2).getD .null) :=
          exists_sift_iff (decided l looked) keys
        constructor
        · intro ⟨found, h⟩
          refine ⟨fun fault failed => ?_, fun keys' values reads => ?_⟩
          · cases keyed.symm.trans failed
          · cases keyed.symm.trans reads.keyed
            rw [reads.answered] at h
            refine (sifts values).mp ?_
            cases sifted : sift s.nesting values (rowsOf s l) keys with
            | error fault => simp [sifted] at h
            | ok found => exact ⟨found, rfl⟩
        · rintro ⟨_, legible⟩
          cases answered : l.cache.read (keys.map Prod.snd) with
          | error o => exact ⟨none, rfl⟩
          | ok values =>
              obtain ⟨found, sifted⟩ :=
                (sifts values).mpr (legible keys values ⟨looked, keyed, answered⟩)
              exact ⟨routeFor s l found, by simp [sifted]⟩

end Polystore.Planning
