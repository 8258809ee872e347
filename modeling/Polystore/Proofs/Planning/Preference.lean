import Polystore.Proofs.Metadata.Copies
import Polystore.Proofs.Planning.CacheReads

/-! Which route is preferred. The cache answers for one table only; a database that is home to all
tables comes before one that has fresh enough copies of them, of which the one that is home to the
most tables comes first; and the home databases are federated where no database has such copies.
-/

namespace Polystore

-----------------------------------------------------------------------------------------
-- Routes for tables
-----------------------------------------------------------------------------------------

namespace Catalog

/-- Whether a database holds a fresh enough copy of each of some tables. -/
def Serves (c : Catalog) (tolerance : Freshness) (tables : List Table) (database : String)
    : Prop :=
  ∀ t ∈ tables, ∃ copy ∈ c.copies t, copy.database = database ∧ copy.satisfies tolerance = true

/-- Whether a table is in a database with a catalog, which is not empty. -/
def Federates (c : Catalog) (t : Table) (catalog : String) : Prop :=
  catalog ≠ "" ∧ ∃ d, c.database? t.database = some d ∧ d.catalog = some catalog

end Catalog

/-- How many of some tables have their home in a database. -/
def originalsIn (tables : List Table) (database : String) : Nat :=
  tables.countP fun t => t.database == database

namespace Planning

/-- What makes a route the preferred one for some tables. -/
def Preferred (c : Catalog) (facilities : Facilities) (tolerance : Freshness)
    (tables : List Table)
    : Route → Prop
  | .cached hit =>
      ∃ t,
        tables = [t]
        ∧ (Route.cached hit).target = if hit.fallback.isEmpty then "cache" else t.database
  | .direct database => ∀ t ∈ tables, t.database = database
  | .materialized database =>
      (¬ ∃ home, ∀ t ∈ tables, t.database = home)
      ∧ c.Serves tolerance tables database
      ∧ ∀ other,
          c.Serves tolerance tables other
          → originalsIn tables other ≤ originalsIn tables database
            ∧ (originalsIn tables other = originalsIn tables database → database ≤ other)
  | .federated =>
      (¬ ∃ database, c.Serves tolerance tables database)
      ∧ facilities.federation = true
      ∧ ∀ t ∈ tables, ∃ catalog, c.Federates t catalog

-----------------------------------------------------------------------------------------
-- Databases that serve all tables
-----------------------------------------------------------------------------------------

/-- Tables that can be planned for: there are some, and all are declared. -/
structure Setting.Plannable (s : Setting) : Prop where
  declared : ∀ t ∈ s.tables, t ∈ s.catalog.tables
  touched : s.tables ≠ []

variable {s : Setting} {database : String}

/-- Nothing stands in the way of a declared table exactly where a fresh enough copy is. -/
theorem obstacle_eq_none {t : Table} (declared : t ∈ s.catalog.tables)
    : obstacle s t database = none
      ↔ ∃ copy ∈ s.catalog.copies t,
          copy.database = database ∧ copy.satisfies s.tolerance = true := by
  have here (copy : Copy)
      : s.catalog.copyIn? t database = some copy
        ↔ copy ∈ s.catalog.copies t ∧ copy.database = database :=
    Catalog.copyIn?_eq_some_iff declared
  unfold obstacle
  cases found : s.catalog.copyIn? t database with
  | none =>
      refine iff_of_false nofun ?_
      rintro ⟨copy, member, is, _⟩
      rw [(here copy).mpr ⟨member, is⟩] at found
      cases found
  | some copy =>
      obtain ⟨member, is⟩ := (here copy).mp found
      by_cases fresh : copy.satisfies s.tolerance = true
      · simp only [if_pos fresh, true_iff]
        exact ⟨copy, member, is, fresh⟩
      · simp only [if_neg fresh, reduceCtorEq, false_iff]
        rintro ⟨other, member', is', fresh'⟩
        rw [(here other).mpr ⟨member', is'⟩, Option.some.injEq] at found
        exact fresh (found ▸ fresh')

/-- The databases without obstacles are those that serve all tables. -/
theorem Setting.Plannable.obstacles_eq_nil (h : s.Plannable)
    : obstacles s database = [] ↔ s.catalog.Serves s.tolerance s.tables database := by
  rw [obstacles, List.filterMap_eq_nil_iff]
  refine forall₂_congr fun t member => ?_
  rw [Option.map_eq_none_iff, obstacle_eq_none (h.declared t member)]

theorem homes_eq (s : Setting) (database : String)
    : homes s database = originalsIn s.tables database :=
  List.countP_congr fun t _ => by rw [Catalog.isHome_copyIn?]

/-- The candidates are the databases that serve all tables. -/
theorem Setting.Plannable.mem_candidates (h : s.Plannable)
    : database ∈ candidates s ↔ s.catalog.Serves s.tolerance s.tables database := by
  rw [candidates, List.mem_mergeSort, List.mem_filter, List.isEmpty_iff, h.obstacles_eq_nil,
    Catalog.mem_databasesOf]
  refine and_iff_right_of_imp fun serves => ?_
  obtain ⟨t, member⟩ := List.exists_mem_of_ne_nil _ h.touched
  obtain ⟨copy, listed, is, _⟩ := serves t member
  exact ⟨t, member, copy, listed, is⟩

/-- Whether a database comes before another, as one that is home to more of the tables, or to as
many and first by name.
-/
def Ahead (s : Setting) (database other : String) : Prop :=
  homes s other < homes s database
  ∨ (homes s database = homes s other ∧ database ≤ other)

/-- The candidates stand in order of preference: any two can be compared, and being ahead is
transitive.
-/
theorem pairwise_candidates (s : Setting) : (candidates s).Pairwise (Ahead s) := by
  have same (a b : String)
      : (decide (homes s b < homes s a) || (homes s a == homes s b && decide (a ≤ b))) = true
        ↔ Ahead s a b := by
    simp [Ahead]
  refine (List.pairwise_mergeSort ?_ ?_ _).imp fun {a b} h => (same a b).mp h
  · intro a b d hab hbd
    rw [same] at *
    rcases hab with more | ⟨even, before⟩ <;> rcases hbd with more' | ⟨even', before'⟩
    · exact .inl (by omega)
    · exact .inl (by omega)
    · exact .inl (by omega)
    · exact .inr ⟨even.trans even', String.le_trans before before'⟩
  · intro a b
    rw [Bool.or_eq_true, same, same]
    rcases Nat.lt_trichotomy (homes s a) (homes s b) with fewer | even | more
    · exact .inr (.inl fewer)
    · rcases String.le_total a b with before | behind
      · exact .inl (.inr ⟨even, before⟩)
      · exact .inr (.inr ⟨even.symm, behind⟩)
    · exact .inl (.inl more)

-----------------------------------------------------------------------------------------
-- The home of all tables
-----------------------------------------------------------------------------------------

/-- The tables have one home exactly where the list of their homes has one database. -/
theorem Setting.Plannable.eraseDups_homes (h : s.Plannable)
    : (s.tables.map (·.database)).eraseDups = [database]
      ↔ ∀ t ∈ s.tables, t.database = database := by
  constructor
  · intro once t member
    have home : t.database ∈ (s.tables.map (·.database)).eraseDups :=
      List.mem_eraseDups.mpr (List.mem_map.mpr ⟨t, member, rfl⟩)
    rw [once] at home
    exact List.mem_singleton.mp home
  · intro home
    obtain ⟨first, rest, tables⟩ := List.exists_cons_of_ne_nil h.touched
    rw [tables] at home ⊢
    have others : (rest.map (·.database)).filter (fun b => !b == first.database) = [] := by
      rw [List.filter_eq_nil_iff]
      intro b listed
      obtain ⟨t, member, rfl⟩ := List.mem_map.mp listed
      rw [home t (List.mem_cons_of_mem _ member), home first (List.mem_cons_self ..)]
      simp
    rw [List.map_cons, List.eraseDups_cons, others, home first (List.mem_cons_self ..)]
    rfl

theorem Setting.Plannable.preferred_of_direct (h : s.Plannable) {route : Route}
    (taken : (direct s).result = .ok (some route))
    : Preferred s.catalog s.facilities s.tolerance s.tables route := by
  unfold direct at taken
  split at taken
  next home once =>
    cases taken
    exact h.eraseDups_homes.mp once
  · cases taken

/-- Where the tables are not taken to one home, they have none. -/
theorem Setting.Plannable.no_home (h : s.Plannable) (passed : (direct s).result = .ok none)
    : ¬ ∃ home, ∀ t ∈ s.tables, t.database = home := by
  rintro ⟨home, all⟩
  have once := h.eraseDups_homes.mpr all
  simp only [direct, once] at passed
  cases passed

-----------------------------------------------------------------------------------------
-- The best of the databases that serve all tables
-----------------------------------------------------------------------------------------

/-- The first candidate serves all tables and is ahead of every other database that does. -/
theorem Setting.Plannable.preferred_of_materialized (h : s.Plannable) {route : Route}
    (apart : ¬ ∃ home, ∀ t ∈ s.tables, t.database = home)
    (taken : (materialized s).result = .ok (some route))
    : Preferred s.catalog s.facilities s.tolerance s.tables route := by
  unfold materialized at taken
  split at taken
  · cases taken
  next best rest ranked =>
    cases taken
    refine ⟨apart, ?_, fun other serves => ?_⟩
    · rw [← h.mem_candidates, ranked]
      exact List.mem_cons_self ..
    · rw [← h.mem_candidates, ranked] at serves
      rw [← homes_eq, ← homes_eq]
      rcases List.mem_cons.mp serves with rfl | later
      · exact ⟨Nat.le_refl _, fun _ => String.le_refl _⟩
      · have ordered := pairwise_candidates s
        rw [ranked] at ordered
        rcases List.rel_of_pairwise_cons ordered later with more | ⟨even, before⟩
        · exact ⟨by omega, fun even => by omega⟩
        · exact ⟨by omega, fun _ => before⟩

theorem Setting.Plannable.none_serves (h : s.Plannable)
    (passed : (materialized s).result = .ok none)
    : ¬ ∃ database, s.catalog.Serves s.tolerance s.tables database := by
  rintro ⟨database, serves⟩
  rw [← h.mem_candidates] at serves
  unfold materialized at passed
  split at passed
  next none =>
    rw [none] at serves
    cases serves
  · cases passed

-----------------------------------------------------------------------------------------
-- The federation of the homes
-----------------------------------------------------------------------------------------

/-- A table can be federated exactly where its home has a catalog of some name. -/
theorem federates_iff {c : Catalog} {t : Table}
    : (∃ catalog, c.Federates t catalog) ↔ (c.database? t.database).any Database.hasCatalog := by
  constructor
  · rintro ⟨catalog, some, d, found, named⟩
    simpa [found, Database.hasCatalog, named] using some
  · intro has
    obtain ⟨d, found, has⟩ := (Option.any_eq_true _ _).mp has
    obtain ⟨catalog, named, some⟩ := (Option.any_eq_true _ _).mp has
    exact ⟨catalog, by simpa using some, d, found, named⟩

/-- Where nothing stands in the way of federation it is enabled, and every home has a catalog. -/
theorem federates_of_obstacle (free : federationObstacle s = none)
    : s.facilities.federation = true
      ∧ ∀ t ∈ s.tables, ∃ catalog, s.catalog.Federates t catalog := by
  unfold federationObstacle at free
  split at free
  · cases free
  next enabled =>
    split at free
    next reached =>
      refine ⟨by simpa using enabled, fun t member => ?_⟩
      have listed := List.filter_eq_nil_iff.mp (sortedOnce_eq_nil.mp reached) t.database
        (List.mem_map.mpr ⟨t, member, rfl⟩)
      exact federates_iff.mpr (by simpa using listed)
    · cases free

theorem preferred_of_federated {route : Route}
    (unserved : ¬ ∃ database, s.catalog.Serves s.tolerance s.tables database)
    (taken : (federated s).result = .ok (some route))
    : Preferred s.catalog s.facilities s.tolerance s.tables route := by
  unfold federated at taken
  split at taken
  next free =>
    cases taken
    exact ⟨unserved, federates_of_obstacle free⟩
  · cases taken

-----------------------------------------------------------------------------------------
-- The route that is chosen
-----------------------------------------------------------------------------------------

/-- A hit of the cache is for one table, and leaves the rest of the ids to its home. -/
theorem preferred_of_throughCache {route : Route}
    (taken : (throughCache s).result = .ok (some route))
    : Preferred s.catalog s.facilities s.tolerance s.tables route := by
  obtain ⟨l, _, _, reads, rfl⟩ := hit_of_throughCache taken
  exact ⟨l.table, (answerable_of_lookup reads.looked).tables, rfl⟩

/-- The route that is chosen is the preferred one: each attempt is made only where those before it
have shown that their routes do not exist.
-/
theorem Setting.Plannable.preferred_of_chooseRoute (h : s.Plannable) {route : Route}
    (chosen : (chooseRoute s).result = .ok route)
    : Preferred s.catalog s.facilities s.tolerance s.tables route := by
  simp only [chooseRoute_eq_ok, firstRoute_cons_eq_ok] at chosen
  rcases chosen with ⟨_, taken, same⟩ | ⟨_, ⟨_, taken, same⟩ | ⟨passed, later⟩⟩
  · cases same
    exact preferred_of_throughCache taken
  · cases same
    exact h.preferred_of_direct taken
  · rcases later with ⟨_, taken, same⟩ | ⟨passed', ⟨_, taken, same⟩ | ⟨_, none⟩⟩
    · cases same
      exact h.preferred_of_materialized (h.no_home passed) taken
    · cases same
      exact preferred_of_federated (h.none_serves passed') taken
    · cases none

end Planning

end Polystore
