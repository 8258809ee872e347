import Polystore.Proofs.Sql.Clauses
import Polystore.Proofs.Sql.Paging

/-! Why a statement may have no SQL. A statement of known words has SQL exactly unless it selects
nothing, aggregates no column with a function that needs one, has a table without a catalog where
the dialect wants one, or has pages of a number with too many digits; and it is one of these that is
given as the reason.
-/

namespace Polystore

open Outcome

namespace Statement

/-- The tables of a statement, the one that it starts from first. -/
def tables (s : Statement String) : List (TableName String) := s.table :: s.joins.map (·.table)

/-- Whether a table has a catalog, which is not empty. -/
def TableName.HasCatalog (t : TableName String) : Prop :=
  ∃ catalog, t.catalog = some catalog ∧ catalog ≠ ""

/-- The aggregates that are written: those of the select list, unless the statement counts rows, and
those that predicates are on.
-/
def writtenAggregates (s : Statement String) : List (Aggregate String) :=
  (if s.mode = .count then [] else s.aggregates) ++ s.having.map (·.aggregate)

/-- What a statement lacks for being written in a dialect. -/
inductive Lacks (d : Dialect) (s : Statement String) : Inexpressible → Prop where
  | noColumns
    : s.mode ≠ .count → s.groupBy = [] → s.aggregates = [] → s.columns = []
      → Lacks d s .noColumns
  | aggregateWithoutColumn {a : Aggregate String}
    : a ∈ s.writtenAggregates → a.column = none → a.fn ≠ .known .count
      → Lacks d s (.aggregateWithoutColumn a.fn.value)
  | noCatalog {t : TableName String}
    : d.qualified = true → t ∈ s.tables → ¬ t.HasCatalog → Lacks d s (.noCatalog t.apiName)

/-- Whether a statement has no pages, or pages of numbers that can be written. -/
def PagesFit (s : Statement String) : Prop :=
  s.mode = .count ∨ s.limit.isWritable = true ∧ s.offset.isWritable = true

/-- Whether a failure is that of a statement which lacks something, or which lacks nothing and whose
pages are of a number with too many digits.
-/
inductive ReasonFor (d : Dialect) (s : Statement String) : Failure → Prop where
  | lacks {what : Inexpressible}
    : Lacks d s what → ReasonFor d s (.refused (.inexpressible what))
  | pages
    : (∀ what, ¬ Lacks d s what) → ¬ s.PagesFit
      → ReasonFor d s (.fault (.unwritable .tooManyDigits))

end Statement

namespace Sql

open Statement

variable {d : Dialect} {s : Statement String}

-----------------------------------------------------------------------------------------
-- Words that are always written
-----------------------------------------------------------------------------------------

/-- A column truncated to a known granularity is written. -/
theorem exists_truncated (c : ColumnName String) {granularity : Option (Named Granularity)}
    (worded : ∃ word, granularity = Option.map Named.known word)
    : ∃ sql, truncated d c granularity = .ok sql := by
  obtain ⟨word, rfl⟩ := worded
  cases word with
  | none => exact ⟨_, rfl⟩
  | some word =>
      change ∃ sql, d.truncation (Named.known word).value _ = .ok sql
      unfold Dialect.truncation
      cases d.truncating with
      | none => exact ⟨_, rfl⟩
      | some function => cases word <;> exact ⟨_, rfl⟩

/-- A comparison is written where its operator has a sign. -/
theorem exists_compare (left : Sql) {op : Operator} (signed : ∃ word, Signed (.known op) word)
    (value : Value)
    : ∃ sql, compare d left (.known op) value = .ok sql := by
  obtain ⟨word, signed⟩ := signed
  exact ⟨_, compare_eq_ok.mpr ⟨word, signed, rfl⟩⟩

/-- A condition of known words is written. -/
theorem exists_condition {f : Condition (ColumnName String)} (spoken : f.Spoken)
    : ∃ sql, condition d f = .ok sql := by
  obtain ⟨op, known⟩ := spoken.known
  refine Outcome.exists_bind_eq_ok.mpr ⟨_, rfl, ?_⟩
  rw [known]
  cases op with
  | isNull | isNotNull => exact ⟨_, rfl⟩
  | among =>
      obtain ⟨items, listed⟩ := spoken.listed known
      rw [listed]
      cases items <;> exact ⟨_, rfl⟩
  | _ =>
      refine exists_compare _ ?_ f.value
      exact ⟨_, by constructor⟩

/-- An order by a label or a column, in known words, is written. -/
theorem exists_orderItem {o : Order String} (worded : o.Worded) (key : o.key ≠ .nothing)
    : ∃ sql, orderItem d o = .ok sql := by
  obtain ⟨direction, name⟩ := o
  obtain ⟨⟨word, rfl⟩, granularity⟩ := worded
  cases name with
  | label name => exact ⟨_, rfl⟩
  | column c unit =>
      obtain ⟨sql, written⟩ := exists_truncated (d := d) c (granularity c unit rfl)
      exact ⟨_, by simp only [orderItem, written, Outcome.ok_bind]; rfl⟩
  | nothing => exact absurd rfl key

-----------------------------------------------------------------------------------------
-- What may be lacking
-----------------------------------------------------------------------------------------

theorem failsOnly_lacks {α : Type} {what : Inexpressible} (lacks : Lacks d s what)
    : FailsOnly (ReasonFor d s) (.error (.refused (.inexpressible what)) : Except Failure α) :=
  failsOnly_error (.lacks lacks)

/-- An aggregate with a known function is written, unless it lacks a column. -/
theorem failsOnly_aggregate {a : Aggregate String} (member : a ∈ s.writtenAggregates)
    (known : ∃ fn, a.fn = .known fn)
    : FailsOnly (ReasonFor d s) (aggregate a) := by
  unfold aggregate
  split
  · exact failsOnly_ok _
  next none other =>
    have lacks : Lacks d s (.aggregateWithoutColumn a.fn.value) :=
      .aggregateWithoutColumn member none other
    obtain ⟨fn, known⟩ := known
    rw [known] at lacks ⊢
    exact failsOnly_lacks lacks
  next some =>
    obtain ⟨fn, known⟩ := known
    rw [known]
    exact failsOnly_ok _

/-- The items of the select list are written, unless an aggregate lacks a column. -/
theorem failsOnly_selectItems (spoken : s.Spoken)
    : FailsOnly (ReasonFor d s) (selectItems d s) := by
  unfold selectItems
  split
  · exact failsOnly_ok _
  next rows =>
    split
    · refine FailsOnly.bind (failsOnly_of_exists ?_) fun groups _ => ?_
      · refine exists_mapM_eq_ok fun g member => ?_
        obtain ⟨sql, written⟩ := exists_truncated (d := d) g.column (spoken.groups g member)
        exact exists_bind_eq_ok.mpr ⟨sql, written, _, rfl⟩
      · refine FailsOnly.bind (FailsOnly.mapM fun a member => ?_) fun _ _ => failsOnly_ok _
        have written : a ∈ s.writtenAggregates :=
          List.mem_append_left _ (by rw [if_neg rows]; exact member)
        have aggregate := failsOnly_aggregate (d := d) written (spoken.aggregates a member)
        exact aggregate.bind fun _ _ => failsOnly_ok _
    · exact failsOnly_of_exists (exists_mapM_eq_ok fun c _ => ⟨_, rfl⟩)

/-- The select list has no items only where there is nothing to select. -/
theorem lacks_of_selectItems (h : selectItems d s = .ok []) : Lacks d s .noColumns := by
  unfold selectItems at h
  split at h
  · cases h
  next counts =>
    split at h
    next grouped =>
      obtain ⟨groups, hgroups, h⟩ := bind_eq_ok.mp h
      obtain ⟨aggregates, haggregates, h⟩ := bind_eq_ok.mp h
      obtain ⟨rfl, rfl⟩ := List.append_eq_nil_iff.mp (Except.ok.inj h)
      simp [eq_nil_of_mapM hgroups, eq_nil_of_mapM haggregates] at grouped
    next plain =>
      obtain ⟨groups, aggregates⟩ : s.groupBy = [] ∧ s.aggregates = [] := by simpa using plain
      exact .noColumns counts groups aggregates (eq_nil_of_mapM h)

theorem failsOnly_select (spoken : s.Spoken) : FailsOnly (ReasonFor d s) (select d s) := by
  refine (failsOnly_selectItems spoken).bind fun items written => ?_
  cases items with
  | nil => exact failsOnly_lacks (lacks_of_selectItems written)
  | cons first rest => exact failsOnly_ok _

/-- A table is written, unless it lacks a catalog. -/
theorem failsOnly_source {t : TableName String} (member : t ∈ s.tables)
    : FailsOnly (ReasonFor d s) (source d t) := by
  refine FailsOnly.bind ?_ fun table _ => failsOnly_ok _
  unfold Dialect.table
  split
  next qualified =>
    split
    next none =>
      refine failsOnly_lacks (.noCatalog qualified member ?_)
      rintro ⟨catalog, named, some⟩
      simp [named, Nominal.isPresent, Nominal.value, Value.isPresent, some] at none
    · exact failsOnly_ok _
  · exact failsOnly_ok _

/-- A join is written where its conditions and its table are. -/
theorem failsOnly_joinClause {j : Statement.Join String} (member : j ∈ s.joins)
    (spoken : ∀ f ∈ j.conditions, f.Spoken)
    : FailsOnly (ReasonFor d s) (joinClause d j) := by
  unfold joinClause
  have conditions := exists_mapM_eq_ok fun f hf => exists_condition (d := d) (spoken f hf)
  have table : j.table ∈ s.tables := List.mem_cons_of_mem _ (List.mem_map.mpr ⟨j, member, rfl⟩)
  refine FailsOnly.bind (failsOnly_ok _) fun _ _ => ?_
  refine FailsOnly.bind (failsOnly_ok _) fun _ _ => ?_
  refine FailsOnly.bind (failsOnly_of_exists conditions) fun _ _ => ?_
  exact (failsOnly_source table).bind fun _ _ => failsOnly_ok _

-----------------------------------------------------------------------------------------
-- What is written lacks nothing
-----------------------------------------------------------------------------------------

variable {sql : Sql} {what : Inexpressible}

theorem ne_nil_of_select (h : select d s = .ok sql) : selectItems d s ≠ .ok [] := by
  intro none
  unfold select at h
  rw [none] at h
  cases h

/-- An aggregate that is written without a column counts rows. -/
theorem count_of_aggregate {a : Aggregate String} (h : aggregate a = .ok sql)
    (none : a.column = none)
    : a.fn = .known .count := by
  unfold aggregate at h
  split at h
  next counts => exact counts
  · cases h
  next some => cases none.symm.trans some

/-- A table that is written where the dialect wants catalogs has one. -/
theorem hasCatalog_of_source {t : TableName String} (qualified : d.qualified = true)
    (h : source d t = .ok sql)
    : t.HasCatalog := by
  obtain ⟨table, h, _⟩ := bind_eq_ok.mp h
  rw [Dialect.table, if_pos qualified] at h
  split at h
  · cases h
  next catalog named =>
    obtain ⟨named, present⟩ := Option.filter_eq_some_iff.mp named
    refine ⟨catalog, named, ?_⟩
    simpa [Nominal.isPresent, Nominal.value, Value.isPresent] using present

/-- The select list of a statement that does not count is written with all the aggregates. -/
theorem exists_aggregate_of_select (h : select d s = .ok sql) (rows : s.mode ≠ .count)
    {a : Aggregate String} (member : a ∈ s.aggregates)
    : ∃ written, aggregate a = .ok written := by
  obtain ⟨items, h, _⟩ := bind_eq_ok.mp h
  have grouped : (!s.groupBy.isEmpty || !s.aggregates.isEmpty) = true := by
    simp [List.ne_nil_of_mem member]
  rw [selectItems, if_neg rows, if_pos grouped] at h
  obtain ⟨groups, _, h⟩ := bind_eq_ok.mp h
  obtain ⟨aggregates, each, _⟩ := bind_eq_ok.mp h
  obtain ⟨_, _, h⟩ := exists_of_mapM each member
  obtain ⟨written, h, _⟩ := bind_eq_ok.mp h
  exact ⟨written, h⟩

/-- A statement lacks nothing where its select list, its tables and its predicates on aggregates are
written.
-/
theorem not_lacks {table : Sql} {joins having : List Sql} (selected : select d s = .ok sql)
    (sourced : source d s.table = .ok table) (joined : s.joins.mapM (joinClause d) = .ok joins)
    (filtered : s.having.mapM (havingItem d) = .ok having)
    : ¬ Lacks d s what := by
  intro lacks
  cases lacks with
  | noColumns rows groups aggregates columns =>
      apply ne_nil_of_select selected
      rw [selectItems, if_neg rows, groups, aggregates, columns]
      rfl
  | @aggregateWithoutColumn a member none other =>
      obtain ⟨written, h⟩ : ∃ written, aggregate a = .ok written := by
        rcases List.mem_append.mp member with own | own
        · split at own
          · cases own
          next rows => exact exists_aggregate_of_select selected rows own
        · obtain ⟨predicate, listed, rfl⟩ := List.mem_map.mp own
          obtain ⟨_, _, h⟩ := exists_of_mapM filtered listed
          obtain ⟨written, h, _⟩ := bind_eq_ok.mp h
          exact ⟨written, h⟩
      exact other (count_of_aggregate h none)
  | @noCatalog t qualified member none =>
      obtain ⟨written, h⟩ : ∃ written, source d t = .ok written := by
        rcases List.mem_cons.mp member with rfl | later
        · exact ⟨_, sourced⟩
        · obtain ⟨j, listed, rfl⟩ := List.mem_map.mp later
          obtain ⟨_, _, h⟩ := exists_of_mapM joined listed
          obtain ⟨_, _, h⟩ := bind_eq_ok.mp h
          obtain ⟨_, _, h⟩ := bind_eq_ok.mp h
          obtain ⟨_, _, h⟩ := bind_eq_ok.mp h
          obtain ⟨written, h, _⟩ := bind_eq_ok.mp h
          exact ⟨written, h⟩
      exact none (hasCatalog_of_source qualified h)

-----------------------------------------------------------------------------------------
-- What keeps a statement from being written
-----------------------------------------------------------------------------------------

/-- A statement of known words has its clauses, unless it lacks something, or else its pages are of
a number with too many digits.
-/
theorem failsOnly_clauses (spoken : s.Spoken) : FailsOnly (ReasonFor d s) (clauses d s) := by
  have conditions := exists_mapM_eq_ok fun f member =>
    exists_condition (d := d) (spoken.conditions f member)
  have groups := exists_mapM_eq_ok fun (g : Statement.Group String) member =>
    exists_truncated (d := d) g.column (spoken.groups g member)
  have order := exists_mapM_eq_ok fun o member =>
    exists_orderItem (d := d) (spoken.orders o member) (spoken.keys o member)
  refine (failsOnly_select spoken).bind fun _ selected => ?_
  refine (failsOnly_source (List.mem_cons_self ..)).bind fun _ sourced => ?_
  refine (FailsOnly.mapM fun j member => failsOnly_joinClause member (spoken.joins j member)).bind
    fun _ joined => ?_
  refine (failsOnly_of_exists conditions).bind fun _ _ => ?_
  refine (failsOnly_of_exists groups).bind fun _ _ => ?_
  refine FailsOnly.bind (FailsOnly.mapM fun h member => ?_) fun _ filtered => ?_
  · obtain ⟨own, comparison, known⟩ := spoken.having h member
    have written : h.aggregate ∈ s.writtenAggregates :=
      List.mem_append_right _ (List.mem_map.mpr ⟨h, member, rfl⟩)
    refine (failsOnly_aggregate written (spoken.aggregates _ own)).bind fun _ _ => ?_
    rw [known]
    apply failsOnly_of_exists
    refine exists_compare _ ?_ h.value
    cases comparison <;> exact ⟨_, by constructor⟩
  by_cases counts : s.mode = .count
  · simp only [if_pos counts]
    exact failsOnly_ok _
  · simp only [if_neg counts]
    refine (failsOnly_of_exists order).bind fun _ _ => ?_
    refine FailsOnly.bind ?_ fun _ _ => failsOnly_ok _
    refine (Dialect.failsOnly_paging spoken.limit spoken.offset).mapError ?_
    rintro _ ⟨rfl, unfit⟩
    exact .pages (fun _ => not_lacks selected sourced joined filtered) fun fit =>
      unfit (fit.resolve_left counts)

/-- The pages of a statement that is written are of numbers that can be. -/
theorem pagesFit_of_isWritten (spoken : s.Spoken) {p : Parts} (h : IsWritten d s p)
    : s.PagesFit := by
  by_cases counts : s.mode = .count
  · exact .inl counts
  · have paging := h.paging
    rw [if_neg counts] at paging
    cases paged : d.paging s.limit s.offset with
    | error fault =>
        rw [paged] at paging
        cases paging
    | ok lines => exact .inr (Dialect.isWritable_of_paging spoken.limit spoken.offset paged)

/-- A statement of known words is written exactly where it lacks nothing and its pages fit. -/
theorem exists_clauses_iff (spoken : s.Spoken)
    : (∃ lines, clauses d s = .ok lines) ↔ (∀ what, ¬ Lacks d s what) ∧ s.PagesFit := by
  constructor
  · rintro ⟨lines, h⟩
    obtain ⟨parts, written, _⟩ := exists_parts h
    exact ⟨fun what => not_lacks written.select written.table written.joins written.having,
      pagesFit_of_isWritten spoken written⟩
  · rintro ⟨none, fit⟩
    refine (failsOnly_clauses spoken).exists_ok ?_
    rintro _ (lacks | ⟨_, unfit⟩)
    · exact none _ lacks
    · exact unfit fit

end Sql

-----------------------------------------------------------------------------------------
-- Statements of valid queries
-----------------------------------------------------------------------------------------

/-- Whether a query has no pages, or pages of numbers that are not too long to be written. -/
def Query.PagesFit (q : Query) : Prop :=
  q.mode = .count
  ∨ (∀ n ∈ q.limit, n.natAbs < 10 ^ Json.digitLimit)
    ∧ ∀ n ∈ q.offset, n.natAbs < 10 ^ Json.digitLimit

namespace Statement

variable {c : Catalog} {q : Query} {context : Context} {p : Plan} {d : Dialect} {engine : String}
  {what : Inexpressible}

/-- The tables of the statement that a plan describes are those that its query touches. -/
theorem Resolvable.tables_named (h : Resolvable c q context p)
    : (named c p engine).tables = q.tableNames.map (tableNamed p) := by
  rw [h.accepted.tableNames_eq, tables, named, h.query_eq, List.map_cons, List.map_map,
    List.map_map]
  rfl

/-- An aggregate that is written of a plan's statement is one of the query. -/
theorem Resolvable.mem_of_writtenAggregates (h : Resolvable c q context p) {a : Aggregate String}
    (member : a ∈ (named c p engine).writtenAggregates)
    : a ∈ q.aggregations.map (aggregateNamed c p) := by
  rcases List.mem_append.mp member with selected | filtered
  · split at selected
    · cases selected
    · rw [← h.query_eq]
      exact selected
  · obtain ⟨_, own, rfl⟩ := List.mem_map.mp filtered
    obtain ⟨predicate, listed, rfl⟩ := List.mem_map.mp own
    rw [h.query_eq] at listed
    exact h.havingNamed_mem listed

/-- What a query lacks for the statement of a plan of it: columns to select, where it neither counts
nor aggregates and nothing is selected; a column of an aggregate, where its reference is the empty
one; or the catalog of a touched table.
-/
inductive LacksFor (d : Dialect) (q : Query) (p : Plan) : Inexpressible → Prop where
  | noColumns
    : q.mode ≠ .count → q.isAggregate = false → p.granted.selection = []
      → LacksFor d q p .noColumns
  | aggregateWithoutColumn {a : Aggregation}
    : a ∈ q.aggregations → a.column = some "" → a.fn ≠ .count
      → LacksFor d q p (.aggregateWithoutColumn (Named.known a.fn).value)
  | noCatalog {name : String}
    : d.qualified = true → name ∈ q.tableNames → ¬ (tableNamed p name).HasCatalog
      → LacksFor d q p (.noCatalog name)

/-- The pages of the statement that a plan describes fit where those of its query do. -/
theorem Resolvable.pagesFit_named (h : Resolvable c q context p)
    : (named c p engine).PagesFit ↔ q.PagesFit := by
  rw [← h.query_eq]
  exact or_congr_right (and_congr Value.isWritable_ofOption Value.isWritable_ofOption)

/-- Whatever the statement of a valid query lacks, the query lacks for it. -/
theorem Resolvable.lacksFor_of_lacks (h : Resolvable c q context p)
    (valid : Validation.issues c q = []) (lacks : Lacks d (named c p engine) what)
    : LacksFor d q p what := by
  cases lacks with
  | noColumns rows groups aggregates columns =>
      have groups : p.query.groupBy = [] := List.map_eq_nil_iff.mp groups
      have aggregates : p.query.aggregations = [] := List.map_eq_nil_iff.mp aggregates
      have plain : p.query.isAggregate = false := by simp [Query.isAggregate, groups, aggregates]
      have rows : p.query.mode ≠ .count := rows
      rw [h.query_eq] at rows plain
      exact .noColumns rows plain (List.map_eq_nil_iff.mp columns)
  | aggregateWithoutColumn member rows other =>
      obtain ⟨a, listed, rfl⟩ := List.mem_map.mp (h.mem_of_writtenAggregates member)
      have other : a.fn ≠ .count := fun counts => other (by simp [aggregateNamed, counts])
      refine .aggregateWithoutColumn listed ?_ other
      cases named : a.column with
      | none => exact absurd (Validation.count_of_no_column valid listed named) other
      | some reference =>
          by_cases empty : reference.isEmpty = true
          · rw [String.isEmpty_iff.mp empty]
          · simp [aggregateNamed, named, empty] at rows
  | noCatalog qualified member none =>
      rw [h.tables_named] at member
      obtain ⟨name, touched, rfl⟩ := List.mem_map.mp member
      rw [tableNamed_apiName]
      exact .noCatalog qualified touched none

/-- Whatever a valid query lacks for its statement, the statement lacks. -/
theorem Resolvable.lacks_of_lacksFor (h : Resolvable c q context p)
    (valid : Validation.issues c q = []) (lacks : LacksFor d q p what)
    : Lacks d (named c p engine) what := by
  cases lacks with
  | noColumns rows plain selected =>
      rw [← h.query_eq] at rows plain
      obtain ⟨aggregates, groups⟩ : p.query.aggregations = [] ∧ p.query.groupBy = [] := by
        simpa [Query.isAggregate] using plain
      exact .noColumns rows (List.map_eq_nil_iff.mpr groups) (List.map_eq_nil_iff.mpr aggregates)
        (List.map_eq_nil_iff.mpr selected)
  | @aggregateWithoutColumn a listed empty other =>
      have rows : q.mode ≠ .count := by
        intro counts
        have plain := Validation.not_aggregate_of_count valid counts
        simp [Query.isAggregate, List.ne_nil_of_mem listed] at plain
      have written : aggregateNamed c p a ∈ (named c p engine).writtenAggregates := by
        refine List.mem_append_left _ ?_
        rw [← h.query_eq] at rows listed
        rw [if_neg (show (named c p engine).mode ≠ .count from rows)]
        exact List.mem_map.mpr ⟨a, listed, rfl⟩
      refine .aggregateWithoutColumn written ?_ ?_
      · simp [aggregateNamed, empty]
      · simpa [aggregateNamed] using other
  | @noCatalog name qualified touched none =>
      have listed : tableNamed p name ∈ (named c p engine).tables := by
        rw [h.tables_named]
        exact List.mem_map.mpr ⟨name, touched, rfl⟩
      rw [← tableNamed_apiName (p := p) name]
      exact .noCatalog qualified listed none

end Statement

end Polystore
