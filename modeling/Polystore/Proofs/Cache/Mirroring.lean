import Polystore.Cache.CachedRow
import Polystore.Cache.Merge
import Polystore.Cache.Store
import Polystore.Proofs.Cache.Keys
import Polystore.Proofs.Entries.Exclusive
import Polystore.Proofs.Semantics.Lookups
import Polystore.Runtime

/-! Cached rows that stand for stored ones. A cached row meets the row rules exactly when the
stored row is visible, and cut to the selection both come to rows that agree.
-/

namespace Polystore

open Semantics

-----------------------------------------------------------------------------------------
-- Rows that agree
-----------------------------------------------------------------------------------------

/-- Rows of the same labels whose values are one and the same or compare as equal. -/
def Row.Agrees (a b : Row) : Prop :=
  List.Forall₂ (fun x y => x.1 = y.1 ∧ (x.2 = y.2 ∨ x.2.Equal y.2)) a b

theorem Row.agrees_self (row : Row) : row.Agrees row :=
  List.forall₂_same.mpr fun _ _ => ⟨rfl, .inl rfl⟩

/-- Rows that agree one by one with others in some order. -/
def SameRows (found expected : List Row) : Prop :=
  ∃ ordered, ordered.Perm expected ∧ List.Forall₂ Row.Agrees found ordered

theorem SameRows.of_perm {found expected : List Row} (h : found.Perm expected)
    : SameRows found expected :=
  ⟨found, h, List.forall₂_same.mpr fun row _ => row.agrees_self⟩

/-- The order of what is expected does not matter. -/
theorem SameRows.trans_perm {found expected others : List Row} (h : SameRows found expected)
    (same : expected.Perm others)
    : SameRows found others := by
  obtain ⟨ordered, permuted, agree⟩ := h
  exact ⟨ordered, permuted.trans same, agree⟩

/-- Rows whose values of a column are present and pairwise different. -/
structure Keyed (column : String) (rows : List Row) : Prop where
  present : ∀ row ∈ rows, (row.cell column).isNull = false
  apart : rows.Pairwise fun a b => (a.cell column).equals (b.cell column) = false

-----------------------------------------------------------------------------------------
-- Caches that mirror stored rows
-----------------------------------------------------------------------------------------

namespace Cache

/-- A cached row that stands for a stored one: every column of the table that it has is equal. -/
def StandsFor (t : Table) (row stored : Row) : Prop :=
  ∀ column ∈ t.columns,
    row.has column.apiName = true
    → (row.cell column.apiName).Equal (stored.cell column.physicalName)

/-- A cached row that stands for the stored row whose key is equal to an id, and has all of some
columns, unless it lacks one of the row rules.
-/
structure Mirrors (c : Catalog) (context : Context) (t : Table) (columns : List String)
    (rows : List Row) (id : Value) (row : Row)
    : Prop where
  whole
    : row.covers (c.rowConditions context t.apiName) = true
      → ∀ name ∈ columns, row.has name = true
  stored
    : ∃ stored ∈ rows,
        id.equals (stored.cell (c.keyName t.apiName)) = true ∧ StandsFor t row stored

/-- A cache whose every value under the key of an id can be read, and whose rows found there
stand for the stored row of the id.
-/
def Faithful (cache : Cache) (runtime : Runtime) (c : Catalog) (context : Context) (t : Table)
    (entry : CachedTable) (rows : List Row) (ids : List Value)
    : Prop :=
  ∀ keys values,
    Cache.keys runtime.objects entry.keyPattern context.values (Value.distinct ids) = .ok keys
    → cache.read (keys.map Prod.snd) = .ok values
    → ∀ e ∈ keys,
        ∀ value, values.lookup e.2 = some value
        → ∃ held,
            row? runtime.nesting value = .ok held
            ∧ ∀ row ∈ held, Mirrors c context t (entry.columns.getD t.columnNames) rows e.1 row

end Cache

-----------------------------------------------------------------------------------------
-- Row rules on cached rows
-----------------------------------------------------------------------------------------

variable {v : Conventions} {c : Catalog} {context : Context}

/-- The condition of a row rule is met by a value of the cache exactly when it is by a stored
value that is equal to it.
-/
theorem test_conditionOn (byValue : v.ByValue) {rule : RowRule} (valued : rule.Valued context)
    (name : String) {actual stored : Value} (equal : actual.Equal stored)
    : Operator.test (rule.conditionOn context name).op actual (rule.conditionOn context name).value
      = .ok
          (v.meets (rule.conditionOn context name).op stored
            (rule.conditionOn context name).value) := by
  have null := equal.isNull_eq
  unfold RowRule.Valued at valued
  unfold RowRule.conditionOn
  dsimp only
  cases op : rule.operator with
  | equal =>
      have value : (rule.operand context).isNull = false := valued (by rw [op]; rfl)
      simp [RowOperator.toOperator, Operator.test, Conventions.meets, byValue.equal, value, null,
        equal.equals_eq]
  | differ =>
      have value : (rule.operand context).isNull = false := valued (by rw [op]; rfl)
      simp [RowOperator.toOperator, Operator.test, Conventions.meets, byValue.differ, value, null,
        equal.equals_eq]
  | isNull => simp [RowOperator.toOperator, Operator.test, Conventions.meets, null]
  | isNotNull => simp [RowOperator.toOperator, Operator.test, Conventions.meets, null]
  | among =>
      obtain ⟨items, operand⟩ : ∃ items, rule.operand context = .list items := by
        simp [RowRule.operand, op, RowOperator.toOperator, Operator.isNullCheck]
      cases present : stored.isNull with
      | true =>
          simp [RowOperator.toOperator, Operator.test, Conventions.meets, null, present]
      | false =>
          have each (item : Value) : item.same actual = (!item.isNull && item.equals stored) := by
            rw [← equal.eq_equals, Value.equals, Bool.eq_iff_iff]
            constructor
            · intro same
              have defined := (Value.equals_iff.mp equal.forth).1
              simp [same, Value.isNull_of_same same, null, present,
                Value.isUndefined_of_same same, defined]
            · intro met
              simp only [Bool.and_eq_true] at met
              exact met.2.2
          simp only [RowOperator.toOperator, Operator.test, Conventions.meets, operand, null,
            present, Value.elements?, byValue.equal, Value.isAmong, each, Bool.false_eq_true,
            if_false, Bool.not_false, Bool.true_and, Option.getD_some]

/-- A row with equal values meets conditions of row rules exactly when the stored row does, by
induction on the rules.
-/
theorem meets_of_equal (byValue : v.ByValue) {name : String} {rules : List RowRule}
    (valued : ∀ rule ∈ rules, rule.Valued context) {row stored : Row}
    (equal
      : ∀ rule ∈ rules,
          (row.cell rule.column).Equal
            (stored.cell (c.columnName (.joined name rule.column)).physicalName))
    : row.meets (rules.map (RowRule.conditionOn context name))
      = .ok
          ((rules.map (RowRule.conditionOn context name)).all fun f =>
            v.meets f.op (stored.cell (c.columnName f.column).physicalName) f.value) := by
  induction rules with
  | nil => rfl
  | cons rule rest ih =>
      let condition := rule.conditionOn context name
      let stored := stored.cell (c.columnName condition.column).physicalName
      have here : Operator.test condition.op (row.cell condition.column.column) condition.value
          = .ok (v.meets condition.op stored condition.value) :=
        test_conditionOn byValue (valued rule (List.mem_cons_self ..)) name
          (equal rule (List.mem_cons_self ..))
      have behind := ih (fun r member => valued r (List.mem_cons_of_mem _ member))
        fun r member => equal r (List.mem_cons_of_mem _ member)
      rw [List.map_cons, Row.meets, here, List.all_cons]
      cases met : v.meets condition.op stored condition.value with
      | false => rfl
      | true => simpa [met] using behind

-----------------------------------------------------------------------------------------
-- Cached rows that stand for stored ones
-----------------------------------------------------------------------------------------

namespace Cache

variable {t : Table} {row stored : Row}

/-- A column that a cached row has is equal to what a statement makes of the reference to it. -/
theorem StandsFor.equal_of_ref (h : StandsFor t row stored) (ref : ColumnRef)
    (of : c.table? ref.table = some t) (declared : ∃ column, c.refColumn? ref = some column)
    (held : row.has ref.column = true)
    : (row.cell ref.column).Equal (stored.cell (c.columnName ref).physicalName) := by
  obtain ⟨column, found⟩ := declared
  have listed : t.column? ref.column = some column := by
    simpa only [Catalog.refColumn?, of, Option.bind_some] using found
  have name : column.apiName = ref.column := by simpa using List.find?_some listed
  have equal := h column (List.mem_of_find?_eq_some listed) (by rw [name, held])
  rw [name] at equal
  simpa only [Catalog.columnName, found, Option.getD_some] using equal

/-- A cached row that has the columns of the row rules meets them exactly when the row that it
stands for is visible.
-/
theorem StandsFor.meets_eq (byValue : v.ByValue) {name : String} {rule : TableRule}
    {scope : Scope} (rights : Access.Scopes c context name rule scope)
    (h : StandsFor scope.table row stored)
    (covers : row.covers (c.rowConditions context name) = true)
    : row.meets (c.rowConditions context name) = .ok (visible v c context name stored) := by
  have rows : c.rowConditions context name
      = rule.rows.map (RowRule.conditionOn context name) := by
    rw [← Statement.rows_of_scopes rights, rights.rows]
  unfold visible
  rw [rows] at covers ⊢
  refine meets_of_equal byValue rights.valued fun r member => ?_
  refine h.equal_of_ref (.joined name r.column) rights.table ?_ ?_
  · simp only [Catalog.refColumn?, ColumnRef.joined, rights.table, Option.bind_some]
    exact Catalog.rowRule_declared (Catalog.table?_eq_some rights.table).2 rights.ruled member
  · exact List.all_eq_true.mp covers _ (List.mem_map_of_mem member)

/-- Values by label stand in the order of the selection, where no two columns share a label. -/
theorem ofList_labelled {selection : List ColumnRef}
    (distinct : (selection.map (·.label)).Nodup) (value : ColumnRef → Value)
    : Entries.ofList (selection.map fun ref => (ref.label, value ref))
      = selection.map fun ref => (ref.label, value ref) := by
  refine Entries.ofList_eq_self ?_
  rwa [Entries.keys, List.map_map]

/-- What the cache makes of a row, where no two selected columns share a label. -/
theorem projectCached_eq {selection : List ColumnRef}
    (distinct : (selection.map (·.label)).Nodup) (row : Row)
    : projectCached selection row = selection.map fun ref => (ref.label, row.cell ref.column) :=
  ofList_labelled distinct _

/-- Cut to the selection, a cached row that has the selected columns agrees with the row that it
stands for.
-/
theorem StandsFor.agrees (h : StandsFor t row stored) {selection : List ColumnRef}
    (distinct : (selection.map (·.label)).Nodup)
    (of : ∀ ref ∈ selection, c.table? ref.table = some t)
    (declared : ∀ ref ∈ selection, ∃ column, c.refColumn? ref = some column)
    (held : ∀ ref ∈ selection, row.has ref.column = true)
    : Row.Agrees (projectCached selection row) (c.projected selection stored) := by
  rw [projectCached_eq distinct, Catalog.projected, Row.Agrees, List.forall₂_map_left_iff,
    List.forall₂_map_right_iff, List.forall₂_same]
  intro ref member
  exact ⟨rfl, .inr (h.equal_of_ref ref (of ref member) (declared ref member) (held ref member))⟩

end Cache

end Polystore
