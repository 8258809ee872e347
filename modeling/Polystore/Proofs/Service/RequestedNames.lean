import Polystore.Proofs.Service.CachedAccess
import Polystore.Proofs.Statement.Labels

/-! The names under which rows come back. They are the labels of the query, whether the rows are
fetched by its statement or found in the cache. A column that a query names in two ways is selected
once, by the name that comes first, and a query that aggregates calls its columns as it groups by
them; where it spells them otherwise, rows lack a name that was asked for.
-/

namespace Polystore

-----------------------------------------------------------------------------------------
-- Spellings
-----------------------------------------------------------------------------------------

/-- A query that spells every column in one way: those it names alike wherever it names them, and,
where it aggregates, each as it groups by it or as an aggregate is called.
-/
structure Query.SpelledAlike (q : Query) : Prop where
  named
    : q.isAggregate = false
      → ∀ left ∈ q.namedColumns,
          ∀ right ∈ q.namedColumns, left.path = right.path → left.label = right.label
  grouped
    : q.isAggregate = true
      → ∀ reference ∈ q.columns, reference ∈ q.groupSpellings ∨ reference ∈ q.aggregateLabels

namespace Access

variable {c : Catalog} {q : Query} {context : Context} {s : ScopedQuery}

/-- Every name of a column is that of a selected one exactly if names of one column are alike. -/
theorem labels_of_distinctColumns_iff
    : (∀ ref ∈ q.namedColumns, ref.label ∈ (distinctColumns q.namedColumns).map (·.label))
      ↔ ∀ left ∈ q.namedColumns,
          ∀ right ∈ q.namedColumns, left.path = right.path → left.label = right.label := by
  constructor
  · intro selected left hl right hr same
    obtain ⟨first, hfirst, labelled⟩ := List.mem_map.mp (selected left hl)
    obtain ⟨other, hother, labelled'⟩ := List.mem_map.mp (selected right hr)
    have path := Query.path_eq_of_label_eq (mem_of_distinctColumns hfirst) hl labelled
    have path' := Query.path_eq_of_label_eq (mem_of_distinctColumns hother) hr labelled'
    have one : first = other :=
      List.inj_on_of_nodup_map (paths_nodup q.namedColumns) hfirst hother
        (path.trans (same.trans path'.symm))
    rw [← labelled, ← labelled', one]
  · intro alike ref named
    obtain ⟨first, selected, same⟩ := exists_path_of_mem named
    have label := alike first (mem_of_distinctColumns selected) ref named same
    exact List.mem_map.mpr ⟨first, selected, label⟩

/-- The labels of a query hold every name that it asks for exactly if it spells columns alike. -/
theorem requested_mem_labelsOf_iff (valid : Validation.issues c q = [])
    (granted : Granted c q context s)
    : (∀ name ∈ q.requested, name ∈ q.labelsOf s.selection) ↔ q.SpelledAlike := by
  unfold Query.labelsOf
  cases aggregate : q.isAggregate with
  | true =>
      have joined : (q.joins.flatMap fun j => j.columns.map (j.table ++ "." ++ ·)) = [] := by
        rw [List.flatMap_eq_nil_iff]
        intro j member
        rw [Validation.columns_eq_nil_of_aggregate valid aggregate member, List.map_nil]
      rw [if_pos rfl, Query.requested, joined, List.append_nil]
      constructor
      · intro covered
        refine ⟨by simp [aggregate], fun _ reference member => ?_⟩
        exact List.mem_append.mp (covered reference member)
      · intro alike reference member
        exact List.mem_append.mpr (alike.grouped aggregate reference member)
  | false =>
      have selected : (∀ name ∈ q.requested, name ∈ s.selection.map (·.label))
          ↔ ∀ ref ∈ q.namedColumns,
              ref.label ∈ (distinctColumns q.namedColumns).map (·.label) := by
        rw [← Query.labels_namedColumns, List.forall_mem_map, granted.selection, Access.selection,
          if_neg (by simp [aggregate])]
        cases empty : q.namedColumns.isEmpty with
        | true => simp [List.isEmpty_iff.mp empty]
        | false => rfl
      rw [if_neg Bool.false_ne_true, selected, labels_of_distinctColumns_iff]
      constructor
      · exact fun alike => ⟨fun _ => alike, by simp [aggregate]⟩
      · exact fun alike => alike.named aggregate

end Access

-----------------------------------------------------------------------------------------
-- The names of rows
-----------------------------------------------------------------------------------------

namespace Service

variable {s : Service} {q : Query} {context : Context} {prepared : Prepared} {granted : ScopedQuery}

/-- A query that a hit is taken for does not aggregate, and selects columns with labels of their
own.
-/
theorem Prepares.plain_of_hit (h : s.Prepares q context prepared) {hit : CacheHit}
    (taken : prepared.plan.route.hit? = some hit)
    : q.isAggregate = false ∧ (prepared.plan.granted.selection.map (·.label)).Nodup := by
  have rights := Access.granted_of_apply h.granted
  obtain ⟨_, _, _, _, _, _, reads, _, joins, _⟩ := h.reads_of_hit taken
  have plain := (Planning.answerable_of_lookup reads.looked).plain.1
  exact ⟨rights.query ▸ plain,
    rights.labels_nodup (Validation.accepted_of_issues h.valid) joins⟩

/-- The names in a row are the labels of its query, wherever the row is from. -/
theorem Prepares.mem_keys_iff (h : s.Prepares q context prepared) (asked : q.mode = .rows)
    {rows : List Row} (ran : (s.rows prepared).result = .ok rows) {row : Row} (member : row ∈ rows)
    {name : String}
    : name ∈ Entries.keys row ↔ name ∈ q.labelsOf prepared.plan.granted.selection := by
  cases taken : prepared.plan.route.hit? with
  | some hit =>
      rw [Service.rows, taken] at ran
      obtain ⟨plain, distinct⟩ := h.plain_of_hit taken
      obtain ⟨key, fetched, rfl, _⟩ := completeHit_eq_ok ran
      rw [Cache.keys_of_mem_merge distinct member, Query.labelsOf, if_neg (by simp [plain])]
  | none =>
      cases written : prepared.statement with
      | none => simp [Service.rows, taken, written] at ran
      | some both =>
          obtain ⟨statement, compiled⟩ := both
          obtain ⟨engine, _, rfl, _⟩ :=
            eq_named_of_written h.resolvable (h.written.trans (congrArg _ written))
          rw [Service.rows, taken, written] at ran
          obtain ⟨answered, _, labelled⟩ :=
            Outcome.bind_eq_ok.mp ((Traced.result_bind _ _).symm.trans ran)
          cases answered with
          | error o => cases labelled
          | ok found =>
              cases labelled
              obtain ⟨given, _, rfl⟩ := List.mem_map.mp member
              have query := h.resolvable.query_eq
              rw [Statement.keys_restore, List.mem_eraseDups,
                Statement.labels_named (by rwa [query]), query]

/-- The statement of a query has every name that it asks for among its labels, and each row that it
comes to has every such name, exactly if the query spells columns alike.
-/
theorem requested_names_iff (valid : Validation.issues s.catalog q = [])
    (allowed : (Access.apply s.catalog q context).result = .ok granted) (asked : q.mode = .rows)
    : (∀ facilities tolerance p statement,
        (Planning.plan s.catalog facilities granted context tolerance).result = .ok p
        → (Statement.resolve p).result = .ok statement
        → ((∀ name ∈ q.requested, name ∈ statement.labels) ↔ q.SpelledAlike))
      ∧ ∀ cancellation past answer rows,
          (s.execute q context cancellation past).result = .ok answer
          → answer.rows = some rows
          → ∀ row ∈ rows,
              (∀ name ∈ q.requested, name ∈ Entries.keys row) ↔ q.SpelledAlike := by
  constructor
  · intro facilities tolerance p statement planned resolved
    have h := Statement.resolvable_of_plan valid allowed planned
    rw [h.labels_eq asked resolved]
    exact Access.requested_mem_labelsOf_iff valid h.granted
  · intro cancellation past answer rows executed shown row member
    obtain ⟨prepares, found, ran, answered⟩ := prepares_of_execute executed
    obtain rfl : found = rows := Option.some.inj (answered.symm.trans shown)
    rw [← Access.requested_mem_labelsOf_iff valid (Access.granted_of_apply prepares.granted)]
    exact forall₂_congr fun _ _ => prepares.mem_keys_iff asked ran member

end Service

namespace Sample

/-- The statement that the service makes of a query. -/
def resolvedFor (q : Query) : Except Failure (Statement String) :=
  (Access.apply catalog q context).result >>= fun granted =>
    (Planning.plan catalog service.facilities granted context .hours).result >>= fun p =>
      (Statement.resolve p).result

/-- The lookup of users by a bare and a qualified name of their ids. -/
def twiceNamed : Query := { lookup with columns := ["id", "users.id"] }

/-- The ids are selected once, by their bare name, so that neither the labels of the statement nor
the rows of the users, one of them cached and one fetched, have the qualified name.
-/
theorem qualified_id_missing
    : ∃ granted p statement answer,
        Validation.issues catalog twiceNamed = []
        ∧ (Access.apply catalog twiceNamed context).result = .ok granted
        ∧ (Planning.plan catalog service.facilities granted context .hours).result = .ok p
        ∧ (Statement.resolve p).result = .ok statement
        ∧ statement.labels = ["id"]
        ∧ ¬ (∀ name ∈ twiceNamed.requested, name ∈ statement.labels)
        ∧ (service.execute twiceNamed context .never []).result = .ok answer
        ∧ answer.rows = some [[("id", .int 1)], [("id", .int 3)]] := by
  have made : (resolvedFor twiceNamed).map (·.labels) = .ok ["id"] := by cbv
  have answered
      : (service.execute twiceNamed context .never []).result.map (·.rows)
        = .ok (some [[("id", .int 1)], [("id", .int 3)]]) := by
    cbv
  obtain ⟨statement, made, labels⟩ := Outcome.map_eq_ok.mp made
  obtain ⟨granted, allowed, made⟩ := Outcome.bind_eq_ok.mp made
  obtain ⟨p, planned, resolved⟩ := Outcome.bind_eq_ok.mp made
  obtain ⟨answer, executed, rows⟩ := Outcome.map_eq_ok.mp answered
  refine ⟨granted, p, statement, answer, rfl, allowed, planned, resolved, labels, ?_, executed,
    rows⟩
  rw [labels]
  decide

/-- Where each column is named once, the statement and every row have every name. -/
theorem lookup_rows_as_requested
    : ∃ granted p statement answer rows,
        Validation.issues catalog lookup = []
        ∧ (Access.apply catalog lookup context).result = .ok granted
        ∧ (Planning.plan catalog service.facilities granted context .hours).result = .ok p
        ∧ (Statement.resolve p).result = .ok statement
        ∧ lookup.SpelledAlike
        ∧ (∀ name ∈ ["id", "name"], name ∈ statement.labels)
        ∧ (service.execute lookup context .never []).result = .ok answer
        ∧ answer.rows = some rows
        ∧ rows.length = 2
        ∧ ∀ row ∈ rows, ∀ name ∈ ["id", "name"], name ∈ Entries.keys row := by
  have made : (resolvedFor lookup).map (fun _ => ()) = .ok () := by cbv
  have answered
      : (service.execute lookup context .never []).result.map (·.rows.map (·.length))
        = .ok (some 2) := by
    cbv
  obtain ⟨statement, made, _⟩ := Outcome.map_eq_ok.mp made
  obtain ⟨granted, allowed, made⟩ := Outcome.bind_eq_ok.mp made
  obtain ⟨p, planned, resolved⟩ := Outcome.bind_eq_ok.mp made
  obtain ⟨answer, executed, found⟩ := Outcome.map_eq_ok.mp answered
  obtain ⟨rows, shown, two⟩ := Option.map_eq_some_iff.mp found
  have alike : lookup.SpelledAlike := ⟨fun _ => by decide, fun aggregate => by cases aggregate⟩
  obtain ⟨labelled, named⟩ := Service.requested_names_iff (s := service) rfl allowed rfl
  exact ⟨granted, p, statement, answer, rows, rfl, allowed, planned, resolved, alike,
    (labelled _ _ p statement planned resolved).mpr alike, executed, shown, two,
    fun row member => (named _ _ answer rows executed shown row member).mpr alike⟩

end Sample

end Polystore
