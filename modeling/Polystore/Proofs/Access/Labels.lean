import Mathlib.Data.List.TakeWhile
import Polystore.Proofs.Access.Granting
import Polystore.Proofs.Metadata.Integrity
import Polystore.Proofs.Validation.Acceptance

/-! The labels of the columns that a query selects. A column that it names is labelled as the query
writes it, and of two references to one column the first is selected, so that no two columns share
a label. Columns that are selected by default can share one only if a name of a column or of a table
has a point in it.
-/

namespace Polystore

-----------------------------------------------------------------------------------------
-- Labels of references
-----------------------------------------------------------------------------------------

namespace ColumnRef

/-- A reference is split at its first point, if it has one. -/
theorem parse_cases (source reference : String)
    : (parse source reference = ⟨source, reference, false⟩ ∧ '.' ∉ reference.toList)
      ∨ ∃ table column,
          parse source reference = ⟨table, column, true⟩
          ∧ reference = table ++ "." ++ column := by
  have whole := List.takeWhile_append_dropWhile (p := (· ≠ '.')) (l := reference.toList)
  have behind : reference.toList.drop (reference.toList.takeWhile (· ≠ '.')).length
      = reference.toList.dropWhile (· ≠ '.') := by
    calc
      _ = (reference.toList.takeWhile (· ≠ '.')
            ++ reference.toList.dropWhile (· ≠ '.')).drop
          (reference.toList.takeWhile (· ≠ '.')).length := by rw [whole]
      _ = _ := List.drop_left
  simp only [parse, behind]
  cases rest : reference.toList.dropWhile (· ≠ '.') with
  | nil =>
      refine .inl ⟨rfl, fun member => ?_⟩
      simpa using List.dropWhile_eq_nil_iff.mp rest '.' member
  | cons point column =>
      have is : point = '.' := by
        have left : reference.toList.dropWhile (· ≠ '.') ≠ [] := by rw [rest]; exact nofun
        have stops := List.head_dropWhile_not _ left
        simp only [rest, List.head_cons] at stops
        simpa using stops
      refine .inr ⟨_, _, rfl, ?_⟩
      rw [rest, is] at whole
      apply String.toList_injective
      simpa using whole.symm

/-- The label of a reference is the reference as it is written. -/
theorem label_parse (source reference : String) : (parse source reference).label = reference := by
  rcases parse_cases source reference with ⟨is, _⟩ | ⟨table, column, is, rfl⟩
  · rw [is]
    rfl
  · rw [is]
    rfl

/-- A qualified label has a point. -/
theorem point_mem_of_label {ref : ColumnRef} (qualified : ref.qualified = true)
    : '.' ∈ ref.label.toList := by
  simp [label, qualified, path]

end ColumnRef

namespace Query

variable {q : Query}

/-- The columns that a query names, by the names it has for them. -/
def requested (q : Query) : List String :=
  q.columns ++ q.joins.flatMap fun j => j.columns.map (j.table ++ "." ++ ·)

/-- The columns that a query names are labelled as it names them. -/
theorem labels_namedColumns (q : Query) : q.namedColumns.map (·.label) = q.requested := by
  have own : (fun reference => (q.ref reference).label) = id :=
    funext (ColumnRef.label_parse q.source)
  simp only [namedColumns, requested, List.map_append, List.map_map, List.map_flatMap,
    Function.comp_def, own, List.map_id]
  rfl

/-- A column that is named without its table is of the source, by a name that has no point. -/
theorem eq_of_unqualified {ref : ColumnRef} (named : ref ∈ q.namedColumns)
    (bare : ref.qualified = false)
    : ref = ⟨q.source, ref.label, false⟩ ∧ '.' ∉ ref.label.toList := by
  rcases List.mem_append.mp named with own | joined
  · obtain ⟨reference, _, rfl⟩ := List.mem_map.mp own
    rcases ColumnRef.parse_cases q.source reference with ⟨is, none⟩ | ⟨table, column, is, _⟩
    · rw [Query.ref, is]
      exact ⟨rfl, none⟩
    · rw [Query.ref, is] at bare
      cases bare
  · obtain ⟨j, _, inJoin⟩ := List.mem_flatMap.mp joined
    obtain ⟨column, _, rfl⟩ := List.mem_map.mp inJoin
    cases bare

/-- Columns that are named with one label are the same column. -/
theorem path_eq_of_label_eq {left right : ColumnRef} (hl : left ∈ q.namedColumns)
    (hr : right ∈ q.namedColumns) (same : left.label = right.label)
    : left.path = right.path := by
  cases ql : left.qualified with
  | true =>
      cases qr : right.qualified with
      | true => simpa [ColumnRef.label, ql, qr] using same
      | false =>
          have point := ColumnRef.point_mem_of_label ql
          rw [same] at point
          exact absurd point (eq_of_unqualified hr qr).2
  | false =>
      cases qr : right.qualified with
      | true =>
          have point := ColumnRef.point_mem_of_label qr
          rw [← same] at point
          exact absurd point (eq_of_unqualified hl ql).2
      | false => rw [(eq_of_unqualified hl ql).1, (eq_of_unqualified hr qr).1, same]

end Query

-----------------------------------------------------------------------------------------
-- Labels of named selections
-----------------------------------------------------------------------------------------

namespace Access

variable {c : Catalog} {q : Query} {context : Context}

/-- No reference that is left is to the column of an earlier one. -/
theorem paths_nodup (refs : List ColumnRef) : ((distinctColumns refs).map (·.path)).Nodup := by
  have apart : (distinctColumns refs).Pairwise fun kept ref => (kept.path == ref.path) = false :=
    pairwise_firsts refs .nil
  rw [List.Nodup, List.pairwise_map]
  exact apart.imp fun different => by simpa using different

/-- Every reference is to the column of one that is left. -/
theorem exists_path_of_mem {refs : List ColumnRef} {ref : ColumnRef} (member : ref ∈ refs)
    : ∃ first ∈ distinctColumns refs, first.path = ref.path := by
  obtain ⟨first, left, same⟩
      : ∃ first ∈ distinctColumns refs, (first.path == ref.path) = true :=
    like_of_mem refs (beq_self_eq_true ref.path) member
  exact ⟨first, left, by simpa using same⟩

/-- No two columns that are selected by name share a label. -/
theorem labels_nodup_of_named : ((distinctColumns q.namedColumns).map (·.label)).Nodup := by
  have paths := paths_nodup q.namedColumns
  rw [List.Nodup, List.pairwise_map] at paths ⊢
  refine paths.imp_of_mem fun ha hb different same => different ?_
  exact Query.path_eq_of_label_eq (mem_of_distinctColumns ha) (mem_of_distinctColumns hb) same

-----------------------------------------------------------------------------------------
-- Labels of default selections
-----------------------------------------------------------------------------------------

/-- The columns of a table that a role may read, in the order of the table. -/
def readable (c : Catalog) (role name : String) : List String :=
  match c.table? name with
  | none => []
  | some t =>
      match c.rule? role t with
      | none => []
      | some rule => allowedColumns t rule

/-- No two columns that a role may read have one name. -/
theorem readable_nodup (role name : String) : (readable c role name).Nodup := by
  unfold readable
  split
  · exact .nil
  next t found =>
    split
    · exact .nil
    next rule _ =>
      have columns := Catalog.columnNames_nodup (Catalog.table?_eq_some found).2
      unfold allowedColumns
      split
      · exact columns
      · exact columns.filter _

theorem Scopes.allowed_eq {name : String} {rule : TableRule} {scope : Scope}
    (h : Scopes c context name rule scope)
    : scope.allowed = readable c context.role name := by
  simp only [readable, h.table, h.ruled, h.allowed]

/-- The labels of the columns that a joined table gives by default. -/
def joinedLabels (c : Catalog) (role : String) (j : Join) : List String :=
  (readable c role j.table).map fun name => (ColumnRef.joined j.table name).path

/-- Labels that the tables of a query do not share where all that a role may read is selected. -/
structure DefaultsApart (c : Catalog) (q : Query) (role : String) : Prop where
  source : ∀ j ∈ q.joins, ∀ label ∈ joinedLabels c role j, label ∉ readable c role q.source
  joins
    : ∀ j ∈ q.joins, ∀ k ∈ q.joins, ∀ label ∈ joinedLabels c role j,
        label ∈ joinedLabels c role k → j.table = k.table

theorem joinedLabels_nodup (role : String) (j : Join) : (joinedLabels c role j).Nodup := by
  refine (readable_nodup role j.table).map fun left right same => ?_
  simpa [ColumnRef.joined, ColumnRef.path] using same

namespace Granted

variable {s : ScopedQuery}

/-- What is allowed on a touched table is what the role may read of it. -/
theorem lookup_allowed (h : Granted c q context s) {name : String} (member : name ∈ q.tableNames)
    : (s.scopes.map fun e => (e.1, e.2.allowed)).lookup name
      = some (readable c context.role name) := by
  obtain ⟨scope, found, _, rights⟩ := h.scope_of_mem member
  rw [Entries.lookup_map, found, Option.map_some, rights.allowed_eq]

/-- A query that names no columns selects all that the role may read, labelled table by table. -/
theorem labels_of_default (h : Granted c q context s)
    : (defaultSelection q (s.scopes.map fun e => (e.1, e.2.allowed))).map (·.label)
      = readable c context.role q.source ++ q.joins.flatMap (joinedLabels c context.role) := by
  have touched {name : String} (member : name ∈ q.source :: q.joins.map (·.table))
      : name ∈ q.tableNames :=
    List.mem_eraseDups.mpr member
  have joined : ∀ j ∈ q.joins,
      (s.scopes.map fun e => (e.1, e.2.allowed)).lookup j.table
        = some (readable c context.role j.table) :=
    fun j member => h.lookup_allowed (touched (by simp [List.mem_map_of_mem member]))
  rw [defaultSelection, h.lookup_allowed (touched (List.mem_cons_self ..)), Option.getD_some,
    List.map_append, List.map_map, List.map_flatMap]
  congr 1
  · exact List.map_id _
  · refine List.flatMap_congr fun j member => ?_
    rw [joined j member, Option.getD_some, List.map_map]
    rfl

/-- Columns that are selected by default have labels of their own exactly if tables share none. -/
theorem labels_of_default_nodup_iff (h : Granted c q context s) (accepted : Validation.Accepted c q)
    : ((defaultSelection q (s.scopes.map fun e => (e.1, e.2.allowed))).map (·.label)).Nodup
      ↔ DefaultsApart c q context.role := by
  have tables : (q.joins.map (·.table)).Nodup := by
    have all := accepted.tableNames_nodup
    rw [accepted.tableNames_eq] at all
    exact (List.nodup_cons.mp all).2
  rw [h.labels_of_default, List.nodup_append, List.nodup_flatMap]
  constructor
  · rintro ⟨_, ⟨_, between⟩, apart⟩
    constructor
    case source =>
      intro j hj label own source
      exact apart label source label (List.mem_flatMap.mpr ⟨j, hj, own⟩) rfl
    case joins =>
      intro j hj k hk label ofJ ofK
      by_contra different
      have symmetric : Std.Symm (Function.onFun List.Disjoint (joinedLabels c context.role)) :=
        ⟨fun _ _ => List.disjoint_symm⟩
      exact between.forall hj hk (fun same => different (congrArg _ same)) ofJ ofK
  · intro apart
    refine ⟨readable_nodup .., ⟨fun j _ => joinedLabels_nodup _ j, ?_⟩, ?_⟩
    · refine (List.pairwise_map.mp tables).imp_of_mem fun hj hk different => ?_
      exact fun label ofJ ofK => different (apart.joins _ hj _ hk label ofJ ofK)
    · rintro label source _ joined rfl
      obtain ⟨j, hj, own⟩ := List.mem_flatMap.mp joined
      exact apart.source j hj label own source

/-- Selected columns have labels of their own, unless tables share one where all that the role may
read is selected.
-/
theorem labels_nodup_iff (h : Granted c q context s) (accepted : Validation.Accepted c q)
    : (s.selection.map (·.label)).Nodup
      ↔ (q.isAggregate = false → q.namedColumns = [] → DefaultsApart c q context.role) := by
  rw [h.selection]
  unfold Access.selection
  cases q.isAggregate with
  | true => simp
  | false =>
      cases empty : q.namedColumns.isEmpty with
      | true =>
          have none := List.isEmpty_iff.mp empty
          simp [none, h.labels_of_default_nodup_iff accepted]
      | false =>
          have some : q.namedColumns ≠ [] := List.isEmpty_eq_false_iff.mp empty
          simp [some, labels_nodup_of_named]

end Granted

end Access

end Polystore
