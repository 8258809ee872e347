import Polystore.Proofs.Sql.Clauses

/-! Predicates in written statements. A predicate is a condition on a column or one on an
aggregate. Its text has one of a few forms, and at most one parameter.
-/

namespace Polystore

-----------------------------------------------------------------------------------------
-- Predicates and their parameters
-----------------------------------------------------------------------------------------

/-- The parameter for the value of a comparison; truth values are written out. -/
def Value.comparand? : Value → Option Value
  | .bool _ => none
  | value => some value

/-- The parameter of a condition, if it has one. Null checks have none, nor has membership in
nothing; the items of a list are one parameter.
-/
def Condition.parameter? {κ : Type} (c : Condition κ) : Option Value :=
  match c.op with
  | .known .isNull => none
  | .known .isNotNull => none
  | .known .among => if c.value.isPresent then c.value.elements?.map .list else none
  | _ => c.value.comparand?

namespace Statement

/-- What a statement compares with values: a condition on a column, or one on an aggregate. -/
inductive Predicate where
  | condition (c : Condition (ColumnName String))
  | having (h : Having String)

namespace Predicate

def parameter? : Predicate → Option Value
  | condition c => c.parameter?
  | having h => h.value.comparand?

/-- A predicate in a dialect. -/
def write (d : Dialect) : Predicate → Sql.Written
  | condition c => Sql.condition d c
  | having h => Sql.havingItem d h

end Predicate

end Statement

namespace Sql

open Statement

/-- The dialects that statements are written in. -/
def shipped : List Dialect := [.postgres, .clickhouse, .trino, .duckdb]

variable {d : Dialect}

/-- A column is written as its table and its name with a point between them. -/
theorem column_eq (c : ColumnName String)
    : column c = .ok [.name c.table, .text ".", .name c.physicalName] :=
  rfl

-----------------------------------------------------------------------------------------
-- Parameters of texts
-----------------------------------------------------------------------------------------

@[simp]
theorem params_append (a b : Sql) : params (a ++ b) = params a ++ params b :=
  List.filterMap_append ..

@[simp]
theorem params_text (s : String) (sql : Sql) : params (.text s :: sql) = params sql := rfl

@[simp]
theorem params_name (s : String) (sql : Sql) : params (.name s :: sql) = params sql := rfl

@[simp]
theorem params_slot (v : Value) (sql : Sql) : params (.slot v :: sql) = v :: params sql := rfl

@[simp]
theorem params_nil : params [] = [] := rfl

theorem params_column {c : ColumnName String} {sql : Sql} (h : column c = .ok sql)
    : params sql = [] := by
  cases h
  rfl

theorem params_aggregate {a : Aggregate String} {sql : Sql} (h : aggregate a = .ok sql)
    : params sql = [] := by
  cases aggregateForm_of_aggregate h with
  | rows _ => rfl
  | ofColumn _ _ named => simp [params_column named]

theorem params_operand (value : Value) : params [operand d value] = value.comparand?.toList := by
  cases value <;> rfl

/-- The list stands behind the column or in front of it, with words around both. -/
theorem membership_layout (shippedDialect : d ∈ shipped)
    : (∃ before behind, ∀ column list,
        d.membership column list = column ++ .text before :: list ++ [.text behind])
      ∨ ∃ before mid behind, ∀ column list,
          d.membership column list
          = .text before :: list ++ .text mid :: column ++ [.text behind] := by
  simp only [shipped, List.mem_cons, List.not_mem_nil, or_false] at shippedDialect
  rcases shippedDialect with rfl | rfl | rfl | rfl
  case inl => exact .inl ⟨_, _, fun _ _ => rfl⟩
  case inr.inl => exact .inr ⟨_, _, _, fun _ _ => rfl⟩
  case inr.inr.inl => exact .inr ⟨_, _, _, fun _ _ => rfl⟩
  case inr.inr.inr => exact .inl ⟨_, _, fun _ _ => rfl⟩

/-- Membership among items has them as one parameter, in every dialect. -/
theorem params_membership (shippedDialect : d ∈ shipped) {column : Sql} (plain : params column = [])
    (items : Value)
    : params (d.membership column [.slot items]) = [items] := by
  rcases membership_layout shippedDialect with ⟨_, _, layout⟩ | ⟨_, _, _, layout⟩
  all_goals simp [layout, plain]

-----------------------------------------------------------------------------------------
-- Texts of predicates
-----------------------------------------------------------------------------------------

/-- The text of a predicate, whose parameter is the only one of the text. -/
structure IsPredicate (d : Dialect) (p : Predicate) (text : Sql) : Prop where
  written : p.write d = .ok text
  params : params text = p.parameter?.toList

/-- The text of a condition: that of its predicate, in one of the forms that there are for its
column.
-/
structure IsFilter (d : Dialect) (c : Condition (ColumnName String)) (text : Sql) : Prop where
  predicate : IsPredicate d (.condition c) text
  form : ConditionForm d c [.name c.column.table, .text ".", .name c.column.physicalName] text

/-- A condition in one of its forms has its own parameter alone. -/
theorem ConditionForm.params_eq (shippedDialect : d ∈ shipped) {c : Condition (ColumnName String)}
    {column sql : Sql} (plain : params column = []) (form : ConditionForm d c column sql)
    : params sql = c.parameter?.toList := by
  unfold Condition.parameter?
  cases form with
  | isNull isNull => simp [plain, isNull]
  | isNotNull isNotNull => simp [plain, isNotNull]
  | ofNothing among absent => simp [among, absent]
  | among among present listed =>
      simp [among, present, listed, params_membership shippedDialect plain]
  | compared signed =>
      obtain ⟨isNull, isNotNull, among⟩ := signed.compares
      rw [params_append, plain, params_text, params_operand, List.nil_append]
      split
      next is => exact (isNull is).elim
      next is => exact (isNotNull is).elim
      next is => exact (among is).elim
      · rfl

theorem isFilter_of_condition (shippedDialect : d ∈ shipped) {c : Condition (ColumnName String)}
    {text : Sql} (h : condition d c = .ok text)
    : IsFilter d c text := by
  obtain ⟨column, named, form⟩ := conditionForm_of_condition h
  cases named
  exact ⟨⟨h, form.params_eq shippedDialect rfl⟩, form⟩

/-- Conditions are written one by one. -/
theorem isFilter_of_conditions (shippedDialect : d ∈ shipped)
    {conditions : List (Condition (ColumnName String))} {texts : List Sql}
    (h : conditions.mapM (condition d) = .ok texts)
    : List.Forall₂ (IsFilter d) conditions texts :=
  (Outcome.mapM_eq_ok.mp h).imp fun _ _ => isFilter_of_condition shippedDialect

theorem isPredicate_of_having {predicate : Statement.Having String} {text : Sql}
    (h : havingItem d predicate = .ok text)
    : IsPredicate d (.having predicate) text := by
  refine ⟨h, ?_⟩
  obtain ⟨left, written, h⟩ := Outcome.bind_eq_ok.mp h
  obtain ⟨word, _, rfl⟩ := compare_eq_ok.mp h
  rw [params_append, params_aggregate written, params_text, params_operand, List.nil_append]
  rfl

end Sql

end Polystore
