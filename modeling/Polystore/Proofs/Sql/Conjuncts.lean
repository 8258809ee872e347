import Mathlib.Algebra.Ring.Int.Defs
import Polystore.Proofs.Sql.Predicates

/-! Conditions in written statements. Each condition is written without a conjunction of its
own and with its brackets closed, so that the conjuncts of a clause that stand outside all
brackets are its conditions, one by one and in order.
-/

namespace Polystore

-----------------------------------------------------------------------------------------
-- Conjuncts of a text
-----------------------------------------------------------------------------------------

namespace Piece

/-- How many more brackets a piece opens than it closes. -/
def opening : Piece → Int
  | .text s => (s.toList.count '(' : Int) - s.toList.count ')'
  | _ => 0

/-- Whether a piece joins two conditions. -/
def isAnd : Piece → Bool
  | .text s => s == " AND "
  | _ => false

end Piece

namespace Sql

open Statement

/-- How many more brackets a text opens than it closes. -/
def opening (sql : Sql) : Int := (sql.map Piece.opening).sum

/-- The parts of a text between the conjunctions that stand outside all brackets, given how
many brackets are open in front of it.
-/
def conjuncts (depth : Int) : Sql → List Sql
  | [] => [[]]
  | piece :: rest =>
      if piece.isAnd ∧ depth = 0 then [] :: conjuncts 0 rest
      else
        match conjuncts (depth + piece.opening) rest with
        | [] => [[piece]]
        | first :: others => (piece :: first) :: others

/-- A text without a conjunction of its own, all of whose brackets are closed. -/
structure Conjunct (sql : Sql) : Prop where
  single : ∀ piece ∈ sql, piece.isAnd = false
  closed : opening sql = 0

/-- Texts without conjunctions have a single part, by induction on the pieces. -/
theorem conjuncts_of_single {sql : Sql} (single : ∀ piece ∈ sql, piece.isAnd = false)
    (depth : Int)
    : conjuncts depth sql = [sql] := by
  induction sql generalizing depth with
  | nil => rfl
  | cons piece rest ih =>
      have here := single piece (by simp)
      have later := ih (fun other member => single other (List.mem_cons_of_mem _ member))
      simp only [conjuncts, here, Bool.false_eq_true, false_and, if_false, later]

/-- A conjunction outside all brackets ends the first part, by induction on the pieces before
it.
-/
theorem conjuncts_append {sql : Sql} (single : ∀ piece ∈ sql, piece.isAnd = false) (depth : Int)
    (closed : depth + opening sql = 0) (rest : Sql)
    : conjuncts depth (sql ++ .text " AND " :: rest) = sql :: conjuncts 0 rest := by
  induction sql generalizing depth with
  | nil =>
      have top : depth = 0 := by simpa [opening] using closed
      simp [conjuncts, Piece.isAnd, top]
  | cons piece others ih =>
      have here := single piece (by simp)
      have later := ih (fun other member => single other (List.mem_cons_of_mem _ member))
        (depth + piece.opening) (by simp only [opening, List.map_cons, List.sum_cons] at *; omega)
      simp only [List.cons_append, conjuncts, here, Bool.false_eq_true, false_and, if_false, later]

/-- The conjuncts of joined texts are those texts, by induction on them. -/
theorem conjuncts_join {texts : List Sql} (each : ∀ sql ∈ texts, Conjunct sql)
    (some : texts ≠ [])
    : conjuncts 0 (join " AND " texts) = texts := by
  induction texts with
  | nil => exact absurd rfl some
  | cons first rest ih =>
      have here := each first (by simp)
      cases rest with
      | nil => exact conjuncts_of_single here.single 0
      | cons second others =>
          change conjuncts 0 (first ++ .text " AND " :: join " AND " (second :: others)) = _
          rw [conjuncts_append here.single 0 (by simp [here.closed]),
            ih (fun sql member => each sql (List.mem_cons_of_mem _ member)) (by simp)]

/-- Conjuncts are put together from texts that are such themselves. -/
theorem Conjunct.append {a b : Sql} (ha : Conjunct a) (hb : Conjunct b) : Conjunct (a ++ b) := by
  constructor
  case single =>
    intro piece member
    rcases List.mem_append.mp member with member | member
    · exact ha.single piece member
    · exact hb.single piece member
  case closed =>
    have closedA := ha.closed
    have closedB := hb.closed
    simp only [opening, List.map_append, List.sum_append] at *
    omega

-----------------------------------------------------------------------------------------
-- Conditions as conjuncts
-----------------------------------------------------------------------------------------

variable {d : Dialect}

theorem conjunct_column (c : ColumnName String)
    : Conjunct [.name c.table, .text ".", .name c.physicalName] := by
  constructor
  · simp [Piece.isAnd]
  · rfl

/-- A column that two columns are compared by the equality of, as joins write it. -/
theorem conjunct_link (left right : ColumnName String)
    : Conjunct
        ([.name left.table, .text ".", .name left.physicalName]
          ++ .text " = " :: [.name right.table, .text ".", .name right.physicalName]) := by
  constructor
  · simp [Piece.isAnd]
  · rfl

/-- Membership is written as one conjunct in every dialect. -/
theorem conjunct_membership (shippedDialect : d ∈ shipped) (c : ColumnName String)
    (values : List Value)
    : Conjunct
        (d.membership [.name c.table, .text ".", .name c.physicalName] [.slot (.list values)]) := by
  simp only [shipped, List.mem_cons, List.not_mem_nil, or_false] at shippedDialect
  rcases shippedDialect with rfl | rfl | rfl | rfl
  case inl => exact ⟨by simp [Dialect.postgres, Piece.isAnd], rfl⟩
  case inr.inl => exact ⟨by simp [Dialect.clickhouse, Piece.isAnd], rfl⟩
  case inr.inr.inl => exact ⟨by simp [Dialect.trino, Piece.isAnd], rfl⟩
  case inr.inr.inr => exact ⟨by simp [Dialect.duckdb, Dialect.postgres, Piece.isAnd], rfl⟩

/-- A truth value is written as one conjunct in every dialect. -/
theorem conjunct_truth (shippedDialect : d ∈ shipped) (b : Bool)
    : Conjunct [.text (d.truth b)] := by
  simp only [shipped, List.mem_cons, List.not_mem_nil, or_false] at shippedDialect
  rcases shippedDialect with rfl | rfl | rfl | rfl <;> cases b
  all_goals exact ⟨by simp [Piece.isAnd, Dialect.postgres, Dialect.clickhouse, Dialect.trino,
    Dialect.duckdb], rfl⟩

/-- The sign of an operator is one conjunct, with blanks around it. -/
theorem Signed.conjunct {op : Named Operator} {word : String} (h : Signed op word)
    : Conjunct [.text s!" {word} "] := by
  cases h <;> exact ⟨by decide +revert, rfl⟩

/-- What stands for a value in a comparison is one conjunct. -/
theorem conjunct_operand (shippedDialect : d ∈ shipped) (value : Value)
    : Conjunct [operand d value] := by
  unfold operand
  cases value.truth? with
  | none => exact ⟨by simp [Piece.isAnd], rfl⟩
  | some b => exact conjunct_truth shippedDialect b

/-- The text of a condition is one conjunct. -/
theorem IsFilter.conjunct (shippedDialect : d ∈ shipped) {c : Condition (ColumnName String)}
    {sql : Sql} (h : IsFilter d c sql)
    : Conjunct sql := by
  have own := conjunct_column c.column
  cases h.form with
  | isNull _ => exact own.append ⟨by simp [Piece.isAnd], rfl⟩
  | isNotNull _ => exact own.append ⟨by simp [Piece.isAnd], rfl⟩
  | ofNothing _ _ => exact ⟨by simp [Piece.isAnd], rfl⟩
  | among _ _ _ => exact conjunct_membership shippedDialect c.column _
  | compared signed => exact own.append (signed.conjunct.append (conjunct_operand shippedDialect _))

/-- The texts of conditions are conjuncts, by induction on them. -/
theorem conjunct_of_filters (shippedDialect : d ∈ shipped)
    {conditions : List (Condition (ColumnName String))} {texts : List Sql}
    (h : List.Forall₂ (IsFilter d) conditions texts)
    : ∀ sql ∈ texts, Conjunct sql := by
  induction h with
  | nil => simp
  | cons head _ ih => exact List.forall_mem_cons.mpr ⟨head.conjunct shippedDialect, ih⟩

-----------------------------------------------------------------------------------------
-- Clauses with conditions
-----------------------------------------------------------------------------------------

/-- The clause of a join, whose conjuncts are the link of its columns and its conditions, each in a
text of its own.
-/
def IsJoinClause (d : Dialect) (j : Statement.Join String) (clause : Sql) : Prop :=
  ∃ front on conditions,
    clause = front ++ .text " ON " :: on
    ∧ List.Forall₂ (IsFilter d) j.conditions conditions
    ∧ conjuncts 0 on
      = ([.name j.left.table, .text ".", .name j.left.physicalName]
          ++ .text " = " :: [.name j.right.table, .text ".", .name j.right.physicalName])
        :: conditions

/-- The clause of conditions, whose conjuncts they are, each in a text of its own. Without
conditions there is none.
-/
def IsWhereClause (d : Dialect) (conditions : List (Condition (ColumnName String)))
    (clauses : List Sql)
    : Prop :=
  ∃ texts,
    List.Forall₂ (IsFilter d) conditions texts
    ∧ if conditions = [] then clauses = []
      else ∃ body, clauses = [.text "WHERE " :: body] ∧ conjuncts 0 body = texts

/-- A text with the clauses of a statement on lines of their own: those of its joins in order,
and then that of its conditions.
-/
def SetsOut (d : Dialect) (s : Statement String) (sql : Sql) : Prop :=
  ∃ select table joins conditions rest,
    sql = join "\n" (select :: (.text "FROM " :: table) :: joins ++ conditions ++ rest)
    ∧ List.Forall₂ (IsJoinClause d) s.joins joins
    ∧ IsWhereClause d s.conditions conditions

theorem isJoinClause_of_joinClause (shippedDialect : d ∈ shipped) {j : Statement.Join String}
    {clause : Sql} (h : joinClause d j = .ok clause)
    : IsJoinClause d j clause := by
  simp only [joinClause, column_eq, Outcome.ok_bind] at h
  obtain ⟨conditions, written, h⟩ := Outcome.bind_eq_ok.mp h
  obtain ⟨table, _, h⟩ := Outcome.bind_eq_ok.mp h
  cases h
  have filters := isFilter_of_conditions shippedDialect written
  refine ⟨_, _, conditions, rfl, filters, conjuncts_join ?_ (by simp)⟩
  intro sql member
  rcases List.mem_cons.mp member with rfl | later
  · exact conjunct_link j.left j.right
  · exact conjunct_of_filters shippedDialect filters sql later

theorem isWhereClause_of_clause (shippedDialect : d ∈ shipped)
    {conditions : List (Condition (ColumnName String))} {texts : List Sql}
    (h : conditions.mapM (condition d) = .ok texts)
    : IsWhereClause d conditions (clause "WHERE " " AND " texts) := by
  have filters := isFilter_of_conditions shippedDialect h
  refine ⟨texts, filters, ?_⟩
  have sameLength := filters.length_eq
  cases conditions with
  | nil =>
      have none : texts = [] := List.length_eq_zero_iff.mp sameLength.symm
      simp [none, clause]
  | cons first rest =>
      have some : texts ≠ [] := by
        intro none
        simp [none] at sameLength
      rw [if_neg (by simp)]
      have each := conjunct_of_filters shippedDialect filters
      refine ⟨join " AND " texts, ?_, conjuncts_join each some⟩
      simp [clause, some]

/-- A statement is written with its conditions as the conjuncts of its clauses. -/
theorem setsOut_of_ofStatement (shippedDialect : d ∈ shipped) {s : Statement String} {sql : Sql}
    (h : ofStatement d s = .ok sql)
    : SetsOut d s sql := by
  obtain ⟨lines, written, rfl⟩ := Outcome.map_eq_ok.mp h
  obtain ⟨p, parts, rfl⟩ := exists_parts written
  exact ⟨p.select, p.table, p.joins, clause "WHERE " " AND " p.conditions, _,
    by simp only [Parts.lines, List.append_assoc, List.cons_append]; rfl,
    (Outcome.mapM_eq_ok.mp parts.joins).imp fun _ _ => isJoinClause_of_joinClause shippedDialect,
    isWhereClause_of_clause shippedDialect parts.conditions⟩

end Sql

end Polystore
