import Polystore.Proofs.Trace.Outcomes
import Polystore.Sql.Generation

/-! Written statements taken apart. A statement is written exactly when each of its parts is, and
for each part there are only a few forms that its text can have.
-/

namespace Polystore

/-- The truth value that a value is, if it is one. -/
def Value.truth? : Value → Option Bool
  | .bool b => some b
  | _ => none

namespace Sql

open Statement

variable {ν : Type} [Nominal ν] {d : Dialect} {sql : Sql}

-----------------------------------------------------------------------------------------
-- Columns and aggregates
-----------------------------------------------------------------------------------------

/-- A column that can be truncated stands in the brackets of a function, as any other would. -/
theorem exists_truncation {granularity : Value} {column : Sql}
    (h : d.truncation granularity column = .ok sql)
    : ∃ function, ∀ other,
        d.truncation granularity other = .ok (.text function :: other ++ [.text ")"]) := by
  unfold Dialect.truncation at h ⊢
  split at h
  · exact ⟨_, fun other => rfl⟩
  · cases h
  next function _ =>
    split at h
    · cases h
    next single =>
      split at h
      next word found =>
        exact ⟨s!"{function word}(", fun other => by simp only [if_neg single]⟩
      · cases h
      · cases h

/-- The forms of an aggregate: the number of rows, or a function of a column. -/
inductive AggregateForm (a : Aggregate ν) : Sql → Prop where
  | rows : a.column = none → AggregateForm a [.text "COUNT(*)"]
  | ofColumn {c : ColumnName ν} {fn : AggregateFn} {text : Sql}
    : a.column = some c → a.fn = .known fn → column c = .ok text
      → AggregateForm a (.text (aggregateFunction fn) :: text ++ [.text ")"])

theorem aggregateForm_of_aggregate {a : Aggregate ν} (h : aggregate a = .ok sql)
    : AggregateForm a sql := by
  unfold aggregate at h
  split at h
  next none _ =>
    cases h
    exact .rows none
  · cases h
  next some =>
    obtain ⟨text, named, h⟩ := Outcome.bind_eq_ok.mp h
    split at h
    next known =>
      cases h
      exact .ofColumn some known named
    · cases h

-----------------------------------------------------------------------------------------
-- Predicates
-----------------------------------------------------------------------------------------

/-- The operators with a sign, which are those that compare with a value, and their signs. -/
inductive Signed : Named Operator → String → Prop where
  | equal : Signed (.known .equal) "="
  | differ : Signed (.known .differ) "<>"
  | greater : Signed (.known .greater) ">"
  | less : Signed (.known .less) "<"
  | atLeast : Signed (.known .atLeast) ">="
  | atMost : Signed (.known .atMost) "<="
  | like : Signed (.known .like) "LIKE"

theorem sign_eq_ok {op : Named Operator} {word : String} : sign op = .ok word ↔ Signed op word := by
  constructor
  case mp =>
    intro h
    unfold sign at h
    split at h
    all_goals first
      | (cases h; constructor)
      | (unfold unknownWord at h; cases h)
  case mpr =>
    intro signed
    cases signed <;> rfl

/-- Operators with signs are no others. -/
theorem Signed.compares {op : Named Operator} {word : String} (h : Signed op word)
    : op ≠ .known .isNull ∧ op ≠ .known .isNotNull ∧ op ≠ .known .among := by
  cases h <;> simp

/-- What stands for a value in a comparison: a word for a truth value, and else a parameter. -/
def operand (d : Dialect) (value : Value) : Piece :=
  value.truth?.elim (.slot value) fun b => .text (d.truth b)

/-- A comparison is written with the sign of its operator between its sides. -/
theorem compare_eq_ok {left : Sql} {op : Named Operator} {value : Value}
    : compare d left op value = .ok sql
      ↔ ∃ word, Signed op word ∧ left ++ [.text s!" {word} ", operand d value] = sql := by
  unfold compare
  simp only [← sign_eq_ok]
  cases sign op with
  | error failure => simp
  | ok word => cases value <;> simp [operand, Value.truth?]

/-- The forms of a condition on a column that has been written: a null check, a membership, or a
comparison with the sign of the operator. Membership in nothing does without the column.
-/
inductive ConditionForm (d : Dialect) (c : Condition (ColumnName ν)) (column : Sql)
    : Sql → Prop where
  | isNull : c.op = .known .isNull → ConditionForm d c column (column ++ [.text " IS NULL"])
  | isNotNull
    : c.op = .known .isNotNull → ConditionForm d c column (column ++ [.text " IS NOT NULL"])
  | ofNothing
    : c.op = .known .among → c.value.isPresent = false
      → ConditionForm d c column [.text "1 = 0"]
  | among {items : List Value}
    : c.op = .known .among → c.value.isPresent = true → c.value.elements? = some items
      → ConditionForm d c column (d.membership column [.slot (.list items)])
  | compared {word : String}
    : Signed c.op word
      → ConditionForm d c column (column ++ [.text s!" {word} ", operand d c.value])

theorem conditionForm_of_condition {c : Condition (ColumnName ν)} (h : condition d c = .ok sql)
    : ∃ text, column c.column = .ok text ∧ ConditionForm d c text sql := by
  obtain ⟨text, named, h⟩ := Outcome.bind_eq_ok.mp h
  refine ⟨text, named, ?_⟩
  split at h
  next isNull =>
    cases h
    exact .isNull isNull
  next isNotNull =>
    cases h
    exact .isNotNull isNotNull
  next among =>
    unfold member at h
    split at h
    next absent =>
      cases h
      exact .ofNothing among (by simpa using absent)
    next present =>
      split at h <;> cases h
      next listed => exact .among among (by simpa using present) listed
  next =>
    obtain ⟨word, signed, rfl⟩ := compare_eq_ok.mp h
    exact .compared signed

/-- A predicate on an aggregate. -/
def havingItem (d : Dialect) (h : Statement.Having ν) : Written := do
  compare d (← aggregate h.aggregate) h.op h.value

-----------------------------------------------------------------------------------------
-- Clauses
-----------------------------------------------------------------------------------------

/-- What rows are ordered by. -/
def orderKey (d : Dialect) (o : Order ν) : Written :=
  match o.key with
  | .label label => path [label]
  | .column c granularity => truncated d c granularity
  | .nothing => .error (.fault .absent)

theorem orderItem_eq (d : Dialect) (o : Order ν)
    : orderItem d o
      = do return (← orderKey d o) ++ [.text (" " ++ (← directionWord o.direction))] := by
  obtain ⟨direction, key⟩ := o
  cases key <;> rfl

/-- What the parts of a statement are written as. -/
structure Parts where
  select : Sql
  table : Sql
  joins : List Sql
  conditions : List Sql
  groups : List Sql
  having : List Sql
  order : List Sql
  paging : List String

/-- The clauses, each of which stands on a line of its own. -/
def Parts.lines (p : Parts) : List Sql :=
  p.select :: (.text "FROM " :: p.table) :: p.joins ++ clause "WHERE " " AND " p.conditions
    ++ clause "GROUP BY " ", " p.groups ++ clause "HAVING " " AND " p.having
    ++ clause "ORDER BY " ", " p.order ++ p.paging.map fun line => [.text line]

/-- The parts of a statement in a dialect. A statement that counts has no order and no pages. -/
structure IsWritten (d : Dialect) (s : Statement ν) (p : Parts) : Prop where
  select : Sql.select d s = .ok p.select
  table : source d s.table = .ok p.table
  joins : s.joins.mapM (joinClause d) = .ok p.joins
  conditions : s.conditions.mapM (condition d) = .ok p.conditions
  groups : s.groupBy.mapM (fun g => truncated d g.column g.granularity) = .ok p.groups
  having : s.having.mapM (havingItem d) = .ok p.having
  order : (if s.mode = .count then .ok [] else s.orderBy.mapM (orderItem d)) = .ok p.order
  paging
    : (if s.mode = .count then .ok [] else (d.paging s.limit s.offset).mapError Failure.fault)
      = .ok p.paging

/-- The clauses of a statement that is written are those of its parts. -/
theorem exists_parts {s : Statement ν} {lines : List Sql} (h : clauses d s = .ok lines)
    : ∃ p, IsWritten d s p ∧ lines = p.lines := by
  obtain ⟨select, hselect, h⟩ := Outcome.bind_eq_ok.mp h
  obtain ⟨table, htable, h⟩ := Outcome.bind_eq_ok.mp h
  obtain ⟨joins, hjoins, h⟩ := Outcome.bind_eq_ok.mp h
  obtain ⟨conditions, hconditions, h⟩ := Outcome.bind_eq_ok.mp h
  obtain ⟨groups, hgroups, h⟩ := Outcome.bind_eq_ok.mp h
  obtain ⟨having, hhaving, h⟩ := Outcome.bind_eq_ok.mp h
  by_cases counts : s.mode = .count
  · simp only [if_pos counts] at h
    cases h
    exact ⟨⟨select, table, joins, conditions, groups, having, [], []⟩,
      ⟨hselect, htable, hjoins, hconditions, hgroups, hhaving, if_pos counts, if_pos counts⟩, rfl⟩
  · simp only [if_neg counts] at h
    obtain ⟨order, horder, h⟩ := Outcome.bind_eq_ok.mp h
    obtain ⟨paging, hpaging, h⟩ := Outcome.bind_eq_ok.mp h
    cases h
    exact ⟨⟨select, table, joins, conditions, groups, having, order, paging⟩,
      ⟨hselect, htable, hjoins, hconditions, hgroups, hhaving, (if_neg counts).trans horder,
        (if_neg counts).trans hpaging⟩, rfl⟩

end Sql

end Polystore
