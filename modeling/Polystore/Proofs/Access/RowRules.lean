import Polystore.Proofs.Access.Granting

/-! What row rules ask of a row at hand. Whether a row meets them can always be decided there,
and the decision is what the rules ask for, rule by rule, with the values of the context.
-/

namespace Polystore

/-- Whether a value meets a row rule in a context. Null meets nothing but the check for it, and
membership is in the items of a list, or in the one value that is no list.
-/
def RowRule.Holds (context : Context) (rule : RowRule) (actual : Value) : Prop :=
  let wanted := context.values.cell (rule.contextKey.getD "")
  match rule.operator with
  | .isNull => actual.isNull = true
  | .isNotNull => actual.isNull = false
  | .equal => actual.isNull = false ∧ actual.equals wanted = true
  | .differ => actual.isNull = false ∧ actual.equals wanted = false
  | .among =>
      actual.isNull = false
      ∧ match wanted with
        | .list items => ∃ item ∈ items, item.same actual = true
        | item => item.same actual = true

/-- A row that has a value, perhaps null, for the column of every row rule, and meets them all. -/
def Row.Complies (context : Context) (rules : List RowRule) (row : Row) : Prop :=
  ∀ rule ∈ rules, row.has rule.column = true ∧ rule.Holds context (row.cell rule.column)

variable (context : Context)

/-- Whether a value meets the condition of a row rule is always decided, as the rule asks. -/
theorem RowRule.exists_test (rule : RowRule) (table : String) (actual : Value)
    : ∃ met,
        Operator.test (rule.conditionOn context table).op actual
            (rule.conditionOn context table).value
          = .ok met
        ∧ (met = true ↔ rule.Holds context actual) := by
  obtain ⟨column, operator, key⟩ := rule
  unfold RowRule.conditionOn RowRule.operand RowRule.Holds
  cases operator with
  | isNull => exact ⟨_, rfl, .rfl⟩
  | isNotNull => exact ⟨_, rfl, by simp⟩
  | equal => exact ⟨_, rfl, by simp [RowOperator.toOperator, Operator.isNullCheck]⟩
  | differ => exact ⟨_, rfl, by simp [RowOperator.toOperator, Operator.isNullCheck]⟩
  | among =>
      simp only [RowOperator.toOperator, Operator.isNullCheck, Bool.false_eq_true, if_false]
      cases absent : actual.isNull with
      | true => exact ⟨false, by simp [Operator.test, absent], by simp⟩
      | false =>
          simp only [Operator.test, absent, Bool.false_eq_true, if_false, Value.elements?]
          refine ⟨_, rfl, ?_⟩
          cases context.values.cell (key.getD "") <;> simp [Value.isAmong]

/-- Whether a row meets the conditions of row rules is always decided, as the rules ask, by
induction on the rules.
-/
theorem Row.exists_meets (row : Row) (table : String) (rules : List RowRule)
    : ∃ met,
        row.meets (rules.map (RowRule.conditionOn context table)) = .ok met
        ∧ (met = true ↔ ∀ rule ∈ rules, rule.Holds context (row.cell rule.column)) := by
  induction rules with
  | nil => exact ⟨true, rfl, by simp⟩
  | cons rule rest ih =>
      obtain ⟨later, decided, behind⟩ := ih
      obtain ⟨met, tested, here⟩ := rule.exists_test context table
        (row.cell rule.column)
      have tested' : Operator.test (rule.conditionOn context table).op
          (row.cell (rule.conditionOn context table).column.column)
          (rule.conditionOn context table).value = .ok met :=
        tested
      rw [List.map_cons, Row.meets, tested', List.forall_mem_cons]
      cases met with
      | false => exact ⟨false, rfl, by simp [← here]⟩
      | true => exact ⟨later, decided, by simp [← here, behind]⟩

variable {context}

/-- A row that has the columns of row rules and meets their conditions complies with them. -/
theorem Row.complies_of_meets {row : Row} {table : String} {rules : List RowRule}
    (covers : row.covers (rules.map (RowRule.conditionOn context table)) = true)
    (meets : row.meets (rules.map (RowRule.conditionOn context table)) = .ok true)
    : row.Complies context rules := by
  obtain ⟨met, decided, holds⟩ := row.exists_meets context table rules
  rw [meets, Except.ok.injEq] at decided
  intro rule member
  constructor
  · exact List.all_eq_true.mp covers _ (List.mem_map_of_mem member)
  · exact holds.mp decided.symm rule member

end Polystore
