import Polystore.Proofs.Planning.Assignments

/-! When planning fails, and what the report then says. Without a cache planning fails exactly where
the tables have no common home, no database holds fresh enough copies of all of them, and the homes
cannot be federated. The report is on the joined tables that the home of the first one does not
serve, and what it says to be lacking is lacking.
-/

namespace Polystore

-----------------------------------------------------------------------------------------
-- Tables that cannot be reached together
-----------------------------------------------------------------------------------------

/-- Whether a database holds a fresh enough copy of a table. -/
def Catalog.holdsFresh (c : Catalog) (tolerance : Freshness) (database : String) (t : Table)
    : Bool :=
  (c.copies t).any fun copy => copy.database == database && copy.satisfies tolerance

namespace Planning

/-- Tables that no route brings together. -/
structure Blocked (c : Catalog) (facilities : Facilities) (tolerance : Freshness)
    (tables : List Table)
    : Prop where
  apart : ¬ ∃ home, ∀ t ∈ tables, t.database = home
  unserved : ¬ ∃ database, c.Serves tolerance tables database
  unfederated : facilities.federation = false ∨ ∃ t ∈ tables, ¬ ∃ catalog, c.Federates t catalog

/-- Whether a verdict says why the homes of some tables cannot be federated. -/
def IsVerdict (c : Catalog) (facilities : Facilities) (tables : List Table) (verdict : String)
    : Prop :=
  (facilities.federation = false ∧ verdict = "trino disabled")
  ∨ (facilities.federation = true
      ∧ ∃ missing,
          missing ≠ []
          ∧ (∀ database,
              database ∈ missing
              ↔ ∃ t ∈ tables, t.database = database ∧ ¬ ∃ catalog, c.Federates t catalog)
          ∧ verdict = "no trino catalog for " ++ ", ".intercalate missing)

/-- The other tables that a database holds no fresh enough copy of. -/
def lackingIn (c : Catalog) (tolerance : Freshness) (tables : List Table) (name database : String)
    : List Table :=
  tables.filter fun other => other.apiName != name && !c.holdsFresh tolerance database other

/-- An accurate report on one of some tables. A database that could serve the table is excused by
those other tables that it does not serve, of which there are some, and nothing else is said to be
lacking anywhere. The verdict on federation is never that it is available.
-/
structure Accurate (c : Catalog) (facilities : Facilities) (tolerance : Freshness)
    (tables : List Table) (r : Unreachable)
    : Prop where
  excuses
    : ∀ database text,
        (database, "cannot serve " ++ text) ∈ r.checked
        → lackingIn c tolerance tables r.table database ≠ []
          ∧ text
            = ", ".intercalate ((lackingIn c tolerance tables r.table database).map (·.apiName))
  excused
    : ∀ t ∈ tables, t.apiName = r.table → ∀ database, database ≠ "trino"
      → c.holdsFresh tolerance database t = true
      → ∃ text, r.checked.lookup database = some ("cannot serve " ++ text)
  verdict
    : ∃ colocation verdict,
        r.reason = colocation ++ ", " ++ verdict
        ∧ r.checked.lookup "trino" = some verdict
        ∧ IsVerdict c facilities tables verdict
        ∧ verdict ≠ "trino available"

-----------------------------------------------------------------------------------------
-- When no route applies
-----------------------------------------------------------------------------------------

variable {s : Setting} {t : Table} {database why : String}

theorem Setting.Plannable.direct_eq_none (h : s.Plannable)
    : (direct s).result = .ok none ↔ ¬ ∃ home, ∀ t ∈ s.tables, t.database = home := by
  refine ⟨h.no_home, fun apart => ?_⟩
  unfold direct
  split
  next home once => exact absurd ⟨home, h.eraseDups_homes.mp once⟩ apart
  · rfl

theorem Setting.Plannable.materialized_eq_none (h : s.Plannable)
    : (materialized s).result = .ok none
      ↔ ¬ ∃ database, s.catalog.Serves s.tolerance s.tables database := by
  refine ⟨h.none_serves, fun unserved => ?_⟩
  unfold materialized
  split
  · rfl
  next best rest ranked =>
    have candidate : best ∈ candidates s := by
      rw [ranked]
      exact List.mem_cons_self ..
    exact absurd ⟨best, h.mem_candidates.mp candidate⟩ unserved

/-- The homes that federation does not reach are those of tables that it does not reach. -/
theorem mem_withoutCatalog
    : database ∈ withoutCatalog s
      ↔ ∃ t ∈ s.tables, t.database = database ∧ ¬ ∃ catalog, s.catalog.Federates t catalog := by
  simp only [withoutCatalog, sortedOnce, sorted, List.mem_mergeSort, List.mem_eraseDups,
    List.mem_filter, List.mem_map, federates_iff, Bool.not_eq_true]
  constructor
  · rintro ⟨⟨t, member, rfl⟩, without⟩
    exact ⟨t, member, rfl, by simpa using without⟩
  · rintro ⟨t, member, rfl, without⟩
    exact ⟨⟨t, member, rfl⟩, by simpa using without⟩

/-- What stands in the way of federation is a verdict on it. -/
theorem isVerdict_of_obstacle {reason : String} (blocked : federationObstacle s = some reason)
    : IsVerdict s.catalog s.facilities s.tables reason := by
  unfold federationObstacle at blocked
  split at blocked
  next disabled =>
    cases blocked
    exact .inl ⟨by simpa using disabled, rfl⟩
  next enabled =>
    split at blocked
    · cases blocked
    next missing unreached =>
      cases blocked
      refine .inr ⟨by simpa using enabled, withoutCatalog s, unreached, ?_, rfl⟩
      exact fun database => mem_withoutCatalog

/-- A verdict is one that federation is not possible. -/
theorem IsVerdict.unfederated {c : Catalog} {facilities : Facilities} {tables : List Table}
    {verdict : String} (h : IsVerdict c facilities tables verdict)
    : facilities.federation = false ∨ ∃ t ∈ tables, ¬ ∃ catalog, c.Federates t catalog := by
  rcases h with ⟨disabled, _⟩ | ⟨_, missing, some, reached, _⟩
  · exact .inl disabled
  · obtain ⟨database, member⟩ := List.exists_mem_of_ne_nil _ some
    obtain ⟨t, listed, _, without⟩ := (reached database).mp member
    exact .inr ⟨t, listed, without⟩

theorem federated_eq_none
    : (federated s).result = .ok none ↔ ∃ reason, federationObstacle s = some reason := by
  unfold federated
  cases federationObstacle s <;> simp

/-- Something stands in the way of federation exactly where it is not possible. -/
theorem exists_federationObstacle
    : (∃ reason, federationObstacle s = some reason)
      ↔ s.facilities.federation = false
        ∨ ∃ t ∈ s.tables, ¬ ∃ catalog, s.catalog.Federates t catalog := by
  constructor
  · rintro ⟨reason, blocked⟩
    exact (isVerdict_of_obstacle blocked).unfederated
  · intro unfederated
    by_contra free
    obtain ⟨enabled, reached⟩ :=
      federates_of_obstacle (Option.eq_none_iff_forall_ne_some.mpr (not_exists.mp free))
    rcases unfederated with disabled | ⟨t, member, without⟩
    · rw [enabled] at disabled
      cases disabled
    · exact without (reached t member)

/-- No route applies exactly where the tables are blocked. -/
theorem Setting.Plannable.firstRoute_eq_none (h : s.Plannable)
    (uncached : s.facilities.cache = none)
    : (firstRoute [throughCache s, direct s, materialized s, federated s]).result = .ok none
      ↔ Blocked s.catalog s.facilities s.tolerance s.tables := by
  simp only [firstRoute_cons_eq_ok, throughCache_eq_none uncached, h.direct_eq_none,
    h.materialized_eq_none, federated_eq_none, exists_federationObstacle, reduceCtorEq, and_false,
    exists_false, false_or, true_and]
  constructor
  · rintro ⟨apart, unserved, unfederated, _⟩
    exact ⟨apart, unserved, unfederated⟩
  · intro blocked
    exact ⟨blocked.apart, blocked.unserved, blocked.unfederated, rfl⟩

/-- Choosing a route fails exactly where the tables are blocked, and it fails with the reports. -/
theorem Setting.Plannable.chooseRoute_eq_error (h : s.Plannable)
    (uncached : s.facilities.cache = none) {failure : Failure}
    : (chooseRoute s).result = .error failure
      ↔ Blocked s.catalog s.facilities s.tolerance s.tables
        ∧ failure = .refused (.unreachable (reports s)) := by
  rw [← h.firstRoute_eq_none uncached]
  obtain ⟨found, tried⟩ := exists_firstRoute_of_asked ⟨none, throughCache_eq_none uncached⟩
  simp only [chooseRoute, Traced.result_bind, tried, Outcome.ok_bind]
  cases found with
  | none => simp [eq_comm]
  | some route => simp

-----------------------------------------------------------------------------------------
-- What is reported
-----------------------------------------------------------------------------------------

theorem holdsFresh_iff {c : Catalog} {tolerance : Freshness}
    : c.holdsFresh tolerance database t = true
      ↔ ∃ copy ∈ c.copies t, copy.database = database ∧ copy.satisfies tolerance = true := by
  simp [Catalog.holdsFresh]

theorem serves_iff {c : Catalog} {tolerance : Freshness} {tables : List Table}
    : c.Serves tolerance tables database
      ↔ ∀ t ∈ tables, c.holdsFresh tolerance database t = true := by
  simp only [Catalog.Serves, holdsFresh_iff]

theorem isSome_obstacle (declared : t ∈ s.catalog.tables) (database : String)
    : (obstacle s t database).isSome = !s.catalog.holdsFresh s.tolerance database t := by
  have free
      : obstacle s t database = none ↔ s.catalog.holdsFresh s.tolerance database t = true := by
    rw [obstacle_eq_none declared, holdsFresh_iff]
  cases fresh : s.catalog.holdsFresh s.tolerance database t with
  | true => simp [free.mpr fresh]
  | false =>
      rw [Bool.not_false, Option.isSome_iff_ne_none]
      intro none
      rw [free.mp none] at fresh
      cases fresh

/-- Texts that begin differently are different. -/
theorem ne_of_initial {text other : String} (apart : text.toList.head? ≠ other.toList.head?)
    : text ≠ other := by
  rintro rfl
  exact apart rfl

/-- An obstacle to serving a table is worded unlike an excuse for not taking a database. -/
theorem obstacle_ne (text : String) : obstacle s t database ≠ some ("cannot serve " ++ text) := by
  unfold obstacle
  rw [ne_eq]
  split
  · rw [Option.some.injEq]
    exact ne_of_initial (by simp [noCopy])
  · split
    · nofun
    · rw [Option.some.injEq]
      exact ne_of_initial (by simp [toString])

/-- A verdict is worded unlike an excuse, and unlike the statement that federation is possible. -/
theorem IsVerdict.ne {c : Catalog} {facilities : Facilities} {tables : List Table}
    {verdict : String} (h : IsVerdict c facilities tables verdict)
    : (∀ text, verdict ≠ "cannot serve " ++ text) ∧ verdict ≠ "trino available" := by
  rcases h with ⟨_, rfl⟩ | ⟨_, missing, _, _, rfl⟩
  · exact ⟨fun text => ne_of_initial (by simp), by decide⟩
  · exact ⟨fun text => ne_of_initial (by simp), ne_of_initial (by simp)⟩

/-- A database is excused exactly where it serves the table, by the other tables that it does not
serve.
-/
theorem Setting.Plannable.excused_iff (h : s.Plannable) (member : t ∈ s.tables) {text : String}
    : (obstacle s t database).getD (otherObstacle s t database) = "cannot serve " ++ text
      ↔ s.catalog.holdsFresh s.tolerance database t = true
        ∧ text
          = ", ".intercalate
              ((lackingIn s.catalog s.tolerance s.tables t.apiName database).map (·.apiName)) := by
  have others
      : (s.tables.filter fun other =>
            other.apiName != t.apiName && (obstacle s other database).isSome)
        = lackingIn s.catalog s.tolerance s.tables t.apiName database :=
    List.filter_congr fun other member => by rw [isSome_obstacle (h.declared other member)]
  have free := isSome_obstacle (h.declared t member) database
  cases hindered : obstacle s t database with
  | some why =>
      rw [hindered] at free
      have served : s.catalog.holdsFresh s.tolerance database t = false := by simpa using free
      have worded : why ≠ "cannot serve " ++ text := fun same => obstacle_ne text (same ▸ hindered)
      simp [served, worded]
  | none =>
      rw [hindered] at free
      have served : s.catalog.holdsFresh s.tolerance database t = true := by simpa using free
      rw [Option.getD_none, otherObstacle, others, String.append_right_inj, eq_comm]
      exact (and_iff_right served).symm

/-- Tables of a setting that have the same name are the same. -/
theorem Setting.Plannable.eq_of_apiName (h : s.Plannable) {other : Table} (member : t ∈ s.tables)
    (member' : other ∈ s.tables) (same : other.apiName = t.apiName)
    : other = t :=
  List.inj_on_of_nodup_map s.catalog.wellFormed.tableNames (h.declared other member')
    (h.declared t member) same

/-- Where no database serves all tables, a database that serves one of them lacks others. -/
theorem Setting.Plannable.lackingIn_ne_nil (h : s.Plannable)
    (unserved : ¬ ∃ database, s.catalog.Serves s.tolerance s.tables database)
    (member : t ∈ s.tables) (fresh : s.catalog.holdsFresh s.tolerance database t = true)
    : lackingIn s.catalog s.tolerance s.tables t.apiName database ≠ [] := by
  intro none
  refine unserved ⟨database, serves_iff.mpr fun other member' => ?_⟩
  by_cases same : other.apiName = t.apiName
  · rw [h.eq_of_apiName member member' same]
    exact fresh
  · have kept := List.filter_eq_nil_iff.mp none other member'
    simpa [same] using kept

/-- The report on a table of blocked tables is accurate. -/
theorem Setting.Plannable.accurate_of_report (h : s.Plannable)
    (blocked : Blocked s.catalog s.facilities s.tolerance s.tables) (member : t ∈ s.tables)
    {anchor : String} {r : Unreachable} (reported : report s anchor t = some r)
    : Accurate s.catalog s.facilities s.tolerance s.tables r := by
  obtain ⟨problem, _, rfl⟩ := Option.map_eq_some_iff.mp reported
  obtain ⟨reason, obstructed⟩ := exists_federationObstacle.mpr blocked.unfederated
  have verdict := isVerdict_of_obstacle obstructed
  simp only [obstructed, Option.getD_some]
  constructor
  case excuses =>
    intro database text excuse
    rcases Entries.mem_of_mem_put excuse with last | listed
    · exact absurd (congrArg Prod.snd last).symm (verdict.ne.1 text)
    · obtain ⟨other, _, same⟩ := List.mem_map.mp listed
      obtain ⟨rfl, worded⟩ := Prod.mk.inj same
      obtain ⟨fresh, names⟩ := (h.excused_iff member).mp worded
      exact ⟨h.lackingIn_ne_nil blocked.unserved member fresh, names⟩
  case excused =>
    intro other member' same database apart fresh
    obtain rfl := h.eq_of_apiName member member' same
    obtain ⟨copy, there, is, _⟩ := holdsFresh_iff.mp fresh
    have listed : database ∈ s.catalog.databasesOf s.tables :=
      Catalog.mem_databasesOf.mpr ⟨other, member', copy, there, is⟩
    rw [Entries.lookup_put, beq_false_of_ne apart, if_neg Bool.false_ne_true,
      Entries.lookup_map_self _ listed, (h.excused_iff member').mpr ⟨fresh, rfl⟩]
    exact ⟨_, rfl⟩
  case verdict =>
    refine ⟨_, reason, rfl, ?_, verdict, verdict.ne.2⟩
    rw [Entries.lookup_put, beq_self_eq_true, if_pos rfl]

/-- Reports are made on those tables that the anchor does not serve, by induction on the tables. -/
theorem map_table_reports {anchor : String} {tables : List Table}
    (declared : ∀ t ∈ tables, t ∈ s.catalog.tables)
    : (tables.filterMap (report s anchor)).map (·.table)
      = (tables.filter fun t => !s.catalog.holdsFresh s.tolerance anchor t).map (·.apiName) := by
  induction tables with
  | nil => rfl
  | cons t rest ih =>
      have behind := ih fun other member => declared other (List.mem_cons_of_mem _ member)
      have free := isSome_obstacle (declared t (List.mem_cons_self ..)) anchor
      rw [List.filter_cons, ← free, List.filterMap_cons]
      cases hindered : obstacle s t anchor <;> simp [report, hindered, behind]

theorem reports_of_cons {first : Table} {rest : List Table} (tables : s.tables = first :: rest)
    : reports s = rest.filterMap (report s first.database) := by
  rw [reports, tables]

/-- The reports are on those tables that the home of the first one does not serve. -/
theorem Setting.Plannable.names_reports (h : s.Plannable) {first : Table} {rest : List Table}
    (tables : s.tables = first :: rest)
    : (reports s).map (·.table)
      = (rest.filter fun t => !s.catalog.holdsFresh s.tolerance first.database t).map
          (·.apiName) := by
  rw [reports_of_cons tables]
  refine map_table_reports fun t member => h.declared t ?_
  rw [tables]
  exact List.mem_cons_of_mem _ member

/-- There are reports on blocked tables: the home of the first one serves that one only. -/
theorem Setting.Plannable.reports_ne_nil (h : s.Plannable)
    (unserved : ¬ ∃ database, s.catalog.Serves s.tolerance s.tables database)
    : reports s ≠ [] := by
  obtain ⟨first, rest, tables⟩ := List.exists_cons_of_ne_nil h.touched
  intro none
  have names := h.names_reports tables
  rw [none, eq_comm, List.map_nil, List.map_eq_nil_iff, List.filter_eq_nil_iff] at names
  refine unserved ⟨first.database, serves_iff.mpr fun t member => ?_⟩
  rw [tables] at member
  rcases List.mem_cons.mp member with rfl | later
  · exact holdsFresh_iff.mpr ⟨.home t, s.catalog.home_mem_copies t, rfl, rfl⟩
  · simpa using names t later

/-- Every report on blocked tables is accurate. -/
theorem Setting.Plannable.accurate_of_mem (h : s.Plannable)
    (blocked : Blocked s.catalog s.facilities s.tolerance s.tables) {r : Unreachable}
    (member : r ∈ reports s)
    : Accurate s.catalog s.facilities s.tolerance s.tables r := by
  obtain ⟨first, rest, tables⟩ := List.exists_cons_of_ne_nil h.touched
  rw [reports_of_cons tables] at member
  obtain ⟨t, later, reported⟩ := List.mem_filterMap.mp member
  refine h.accurate_of_report blocked ?_ reported
  rw [tables]
  exact List.mem_cons_of_mem _ later

-----------------------------------------------------------------------------------------
-- Planning granted queries
-----------------------------------------------------------------------------------------

/-- An accurate account of why the tables of a query cannot be reached together. It is on those of
the tables behind the first one, in order, that the home of the first one does not serve, of which
there are some.
-/
structure Explains (c : Catalog) (facilities : Facilities) (tolerance : Freshness) (q : Query)
    (reports : List Unreachable)
    : Prop where
  some : reports ≠ []
  listed
    : ∃ first rest,
        c.touched q = first :: rest
        ∧ (c.touched q).map (·.apiName) = q.tableNames
        ∧ reports.map (·.table)
          = (rest.filter fun t => !c.holdsFresh tolerance first.database t).map (·.apiName)
  source : q.source ∉ reports.map (·.table)
  accurate : ∀ r ∈ reports, Accurate c facilities tolerance (c.touched q) r

variable {c : Catalog} {q : Query} {context : Context} {granted : ScopedQuery}
  {facilities : Facilities} {tolerance : Freshness}

/-- The tables of a query behind the first one are not the one that it starts from. -/
theorem touched_cons (rights : Access.Granted c q context granted)
    : ∃ first rest, c.touched q = first :: rest ∧ q.source ∉ rest.map (·.apiName) := by
  have names := rights.touched_names
  rw [Query.tableNames, List.eraseDups_cons] at names
  obtain ⟨first, rest, tables, _, others⟩ := List.map_eq_cons_iff.mp names
  refine ⟨first, rest, tables, ?_⟩
  rw [others, List.mem_eraseDups, List.mem_filter]
  simp

/-- Planning a granted query without a cache fails exactly where its tables are blocked, with the
reports on them.
-/
theorem plan_eq_error (rights : Access.Granted c q context granted)
    (uncached : facilities.cache = none) {failure : Failure}
    : (plan c facilities granted context tolerance).result = .error failure
      ↔ Blocked c facilities tolerance (c.touched q)
        ∧ failure
          = .refused
              (.unreachable
                (reports ⟨c, facilities, granted, c.touched q, context, tolerance⟩)) := by
  have plannable := rights.plannable facilities tolerance
  rw [← plannable.chooseRoute_eq_error uncached]
  unfold plan
  rw [rights.tablesOf_tableNames]
  simp only [Traced.result_bind, Traced.result_note, Outcome.ok_bind]
  cases chosen
      : (chooseRoute ⟨c, facilities, granted, c.touched q, context, tolerance⟩).result with
  | error other => simp [bind, Except.bind]
  | ok route =>
      obtain ⟨p, made⟩ := plannable.exists_planFor (plannable.preferred_of_chooseRoute chosen)
      simp [made]

/-- The reports on the tables of a query that are blocked explain why. -/
theorem explains_of_blocked (rights : Access.Granted c q context granted)
    (blocked : Blocked c facilities tolerance (c.touched q))
    : Explains c facilities tolerance q
        (reports ⟨c, facilities, granted, c.touched q, context, tolerance⟩) := by
  have plannable := rights.plannable facilities tolerance
  obtain ⟨first, rest, tables, others⟩ := touched_cons rights
  have names := plannable.names_reports tables
  constructor
  case some => exact plannable.reports_ne_nil blocked.unserved
  case listed => exact ⟨first, rest, tables, rights.touched_names, names⟩
  case source =>
    rw [names]
    intro member
    obtain ⟨t, kept, same⟩ := List.mem_map.mp member
    exact others (List.mem_map.mpr ⟨t, List.mem_of_mem_filter kept, same⟩)
  case accurate => exact fun r member => plannable.accurate_of_mem blocked member

/-- Without a cache, tables are found to be unreachable exactly where they are blocked, and what is
reported then explains why.
-/
theorem unreachable_iff_blocked (allowed : (Access.apply c q context).result = .ok granted)
    (uncached : facilities.cache = none)
    : ((∃ reports,
          (plan c facilities granted context tolerance).result
            = .error (.refused (.unreachable reports)))
        ↔ Blocked c facilities tolerance (c.touched q))
      ∧ ∀ reports,
          (plan c facilities granted context tolerance).result
            = .error (.refused (.unreachable reports))
          → Explains c facilities tolerance q reports := by
  have rights := Access.granted_of_apply allowed
  simp only [plan_eq_error rights uncached]
  constructor
  · constructor
    · rintro ⟨_, blocked, _⟩
      exact blocked
    · exact fun blocked => ⟨_, blocked, rfl⟩
  · rintro reports ⟨blocked, same⟩
    cases same
    exact explains_of_blocked rights blocked

end Planning

namespace Sample

/-- Orders and their users cannot be read together in real time: the copy of the orders where the
users are lags behind, and federation is disabled.
-/
theorem lake_orders_unreachable
    : ∃ s reports,
        (Access.apply lakeCatalog query context).result = .ok s
        ∧ facilities.cache = none
        ∧ (Planning.plan lakeCatalog facilities s context .realtime).result
          = .error (.refused (.unreachable reports))
        ∧ Planning.Blocked lakeCatalog facilities .realtime (lakeCatalog.touched query)
        ∧ Planning.Explains lakeCatalog facilities .realtime query reports := by
  have taken
      : (fun s =>
            Outcome.failure? (Planning.plan lakeCatalog facilities s context .realtime).result)
          <$> (Access.apply lakeCatalog query context).result
        = .ok
            (some
              (.refused
                (.unreachable
                  [⟨"users", "no original/replica co-location, trino disabled",
                    [("lake", "no original/replica present"), ("main", "cannot serve orders"),
                      ("trino", "trino disabled")]⟩]))) := by
    cbv
  obtain ⟨s, allowed, failed⟩ := Outcome.map_eq_ok.mp taken
  rw [Outcome.failure?_eq_some] at failed
  have uncached : facilities.cache = none := rfl
  exact ⟨s, _, allowed, uncached, failed,
    (Planning.unreachable_iff_blocked allowed uncached).1.mp ⟨_, failed⟩,
    (Planning.unreachable_iff_blocked allowed uncached).2 _ failed⟩

end Sample

end Polystore
