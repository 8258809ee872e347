import Polystore.Proofs.Sql.Parameters
import Polystore.Proofs.Statement.Labels
import Polystore.Proofs.Statement.Placement
import Polystore.Proofs.Statement.Words

/-! What values written statements compare with. Membership is in lists that have items, and the
filters of the caller compare with single values; predicates on aggregates and row rules compare
with whatever the query and the context have, which is null or a collection where these hold one.
-/

namespace Polystore

open Outcome

-----------------------------------------------------------------------------------------
-- Comparisons and what they are with
-----------------------------------------------------------------------------------------

/-- A value that is neither null nor a list or an object. -/
def Value.IsScalar (v : Value) : Prop := v.isNull = false ∧ v.isCollection = false

/-- The value that a condition compares its column with. Null checks compare with none, and
membership with the items of one.
-/
def Condition.compared? {κ : Type} (c : Condition κ) : Option Value :=
  match c.op with
  | .known .isNull => none
  | .known .isNotNull => none
  | .known .among => none
  | _ => some c.value

def Statement.Predicate.compared? : Statement.Predicate → Option Value
  | condition c => c.compared?
  | having h => some h.value

/-- A query whose predicates on aggregates compare with scalars, asked in a context that has no
collections for the row rules that compare with its values.
-/
structure Query.ScalarOperands (c : Catalog) (q : Query) (context : Context) : Prop where
  having : ∀ h ∈ q.having, h.value.IsScalar
  rows
    : ∀ name ∈ q.tableNames, ∀ t rule,
        c.table? name = some t
        → c.rule? context.role t = some rule
        → ∀ row ∈ rule.rows,
            row.operator = .equal ∨ row.operator = .differ
            → (context.values.cell (row.contextKey.getD "")).isCollection = false

namespace Sql

open Statement

/-- The signs of comparisons. -/
def signs : List String := ["=", "<>", ">", "<", ">=", "<=", "LIKE"]

/-- Whether a text compares what is in front with a value. -/
def Compares (d : Dialect) (text : Sql) (value : Value) : Prop :=
  ∃ left word, word ∈ signs ∧ text = left ++ [.text s!" {word} ", operand d value]

/-- Whether a text looks for something among the elements of a value. -/
def LooksAmong (d : Dialect) (text : Sql) (value : Value) : Prop :=
  ∃ column, text = d.membership column [.slot value]

variable {d : Dialect}

-----------------------------------------------------------------------------------------
-- Reading comparisons off their texts
-----------------------------------------------------------------------------------------

theorem Signed.mem_signs {op : Named Operator} {word : String} (h : Signed op word)
    : word ∈ signs := by
  cases h <;> simp [signs]

/-- The texts that the predicates end with which compare with no value. -/
def endings : List String := [" IS NULL", " IS NOT NULL", "1 = 0", ")"]

/-- Truth values are told apart by the words for them, with which no other predicate ends. -/
theorem truth_words (shippedDialect : d ∈ shipped)
    : (∀ b other, d.truth b = d.truth other → b = other) ∧ ∀ b, d.truth b ∉ endings := by
  simp only [shipped, List.mem_cons, List.not_mem_nil, or_false] at shippedDialect
  rcases shippedDialect with rfl | rfl | rfl | rfl
  all_goals exact ⟨by decide, by decide⟩

/-- What stands for a value in a comparison is of that value alone. -/
theorem operand_inj (shippedDialect : d ∈ shipped) {v w : Value}
    (same : operand d v = operand d w)
    : v = w := by
  have truths := (truth_words shippedDialect).1
  cases v with
  | bool b =>
      cases w with
      | bool other => exact congrArg _ (truths b other (Piece.text.inj same))
      | _ => cases same
  | _ =>
      cases w with
      | bool _ => cases same
      | _ => exact Piece.slot.inj same

/-- What stands for a value in a comparison ends no other predicate. -/
theorem operand_ne_ending (shippedDialect : d ∈ shipped) {s : String} (ending : s ∈ endings)
    (v : Value)
    : operand d v ≠ .text s := by
  have others := (truth_words shippedDialect).2
  cases v with
  | bool b =>
      intro same
      obtain rfl : d.truth b = s := by simpa [operand, Value.truth?] using same
      exact others b ending
  | _ =>
      intro same
      cases same

/-- A text with another ending compares with nothing. -/
theorem not_compares_of_ending (shippedDialect : d ∈ shipped) {s : String} (ending : s ∈ endings)
    (front : Sql) (value : Value)
    : ¬ Compares d (front ++ [.text s]) value := by
  rintro ⟨left, word, _, same⟩
  rw [List.append_cons left] at same
  have last := (List.append_inj' same rfl).2
  exact operand_ne_ending shippedDialect ending value (List.singleton_inj.mp last).symm

/-- A comparison compares with its value alone. -/
theorem Signed.compares_iff {op : Named Operator} {word : String} (signed : Signed op word)
    (shippedDialect : d ∈ shipped) (left : Sql) (value other : Value)
    : Compares d (left ++ [.text s!" {word} ", operand d value]) other ↔ value = other := by
  constructor
  · rintro ⟨_, _, _, same⟩
    have last := (List.cons.inj (List.append_inj' same rfl).2).2
    exact operand_inj shippedDialect (List.singleton_inj.mp last)
  · rintro rfl
    exact ⟨left, word, signed.mem_signs, rfl⟩

/-- Membership ends with a bracket in every dialect, and tells what it is among. -/
theorem membership_forms (shippedDialect : d ∈ shipped)
    : (∀ column list, ∃ front, d.membership column list = front ++ [.text ")"])
      ∧ ∀ column other v w,
          d.membership column [.slot v] = d.membership other [.slot w] → v = w := by
  have behind (column other : Sql) (v w : Value)
      (same
        : column ++ .text " = ANY(" :: [.slot v] ++ [.text ")"]
          = other ++ .text " = ANY(" :: [.slot w] ++ [.text ")"])
      : v = w := by
    have inner := (List.append_inj' same rfl).1
    have slots := (List.cons.inj (List.append_inj' inner rfl).2).2
    exact Piece.slot.inj (List.singleton_inj.mp slots)
  simp only [shipped, List.mem_cons, List.not_mem_nil, or_false] at shippedDialect
  rcases shippedDialect with rfl | rfl | rfl | rfl
  case inl => exact ⟨fun column list => ⟨_, rfl⟩, behind⟩
  case inr.inl =>
    refine ⟨fun column list => ⟨_, rfl⟩, fun column other v w same => ?_⟩
    exact Piece.slot.inj (List.cons.inj (List.cons.inj same).2).1
  case inr.inr.inl =>
    refine ⟨fun column list => ⟨_, rfl⟩, fun column other v w same => ?_⟩
    exact Piece.slot.inj (List.cons.inj (List.cons.inj same).2).1
  case inr.inr.inr => exact ⟨fun column list => ⟨_, rfl⟩, behind⟩

/-- A text that does not end with a bracket looks among nothing. -/
theorem not_looksAmong (shippedDialect : d ∈ shipped) {front : Sql} {piece : Piece}
    (other : piece ≠ .text ")") (value : Value)
    : ¬ LooksAmong d (front ++ [piece]) value := by
  rintro ⟨column, same⟩
  obtain ⟨left, form⟩ := (membership_forms shippedDialect).1 column [.slot value]
  rw [form] at same
  exact other (List.singleton_inj.mp (List.append_inj' same rfl).2)

/-- A comparison looks among nothing. -/
theorem not_looksAmong_comparison (shippedDialect : d ∈ shipped) (left : Sql) (sign : String)
    (value other : Value)
    : ¬ LooksAmong d (left ++ [.text sign, operand d value]) other := by
  rw [List.append_cons left]
  exact not_looksAmong shippedDialect (operand_ne_ending shippedDialect (by simp [endings]) value)
    other

-----------------------------------------------------------------------------------------
-- What predicates compare with
-----------------------------------------------------------------------------------------

variable {text : Sql} {value : Value}

theorem compares_iff_of_condition (shippedDialect : d ∈ shipped)
    {c : Condition (ColumnName String)} (h : condition d c = .ok text)
    : Compares d text value ↔ c.compared? = some value := by
  obtain ⟨column, _, form⟩ := conditionForm_of_condition h
  have ending {front : Sql} {s : String} (ending : s ∈ endings)
      : Compares d (front ++ [.text s]) value ↔ none = some value :=
    ⟨fun compares => (not_compares_of_ending shippedDialect ending front value compares).elim,
      nofun⟩
  unfold Condition.compared?
  cases form with
  | isNull isNull =>
      rw [isNull]
      exact ending (by simp [endings])
  | isNotNull isNotNull =>
      rw [isNotNull]
      exact ending (by simp [endings])
  | ofNothing among _ =>
      rw [among, ← List.nil_append [Piece.text "1 = 0"]]
      exact ending (by simp [endings])
  | among among _ _ =>
      obtain ⟨front, bracket⟩ := (membership_forms shippedDialect).1 column _
      rw [among, bracket]
      exact ending (by simp [endings])
  | compared signed =>
      obtain ⟨isNull, isNotNull, among⟩ := signed.compares
      rw [signed.compares_iff shippedDialect]
      split
      next is => exact (isNull is).elim
      next is => exact (isNotNull is).elim
      next is => exact (among is).elim
      · simp

/-- The text of a predicate compares with what the predicate compares with, and nothing else. -/
theorem IsPredicate.compares_iff {p : Predicate} (h : IsPredicate d p text)
    (shippedDialect : d ∈ shipped)
    : Compares d text value ↔ p.compared? = some value := by
  cases p with
  | condition c => exact compares_iff_of_condition shippedDialect h.written
  | having predicate =>
      obtain ⟨left, _, written⟩ := bind_eq_ok.mp h.written
      obtain ⟨word, signed, rfl⟩ := compare_eq_ok.mp written
      rw [signed.compares_iff shippedDialect]
      exact Option.some_inj.symm

/-- A condition of known words looks among the items of a list, of which there are some. -/
theorem items_of_looksAmong (shippedDialect : d ∈ shipped) {c : Condition (ColumnName String)}
    (spoken : c.Spoken) (h : condition d c = .ok text) (among : LooksAmong d text value)
    : ∃ items, value = .list items ∧ items ≠ [] := by
  obtain ⟨column, _, form⟩ := conditionForm_of_condition h
  have notAmong {front : Sql} {s : String} (other : s ≠ ")")
      : ¬ LooksAmong d (front ++ [.text s]) value :=
    not_looksAmong shippedDialect (by simpa using other) value
  cases form with
  | isNull _ => exact (notAmong (by decide) among).elim
  | isNotNull _ => exact (notAmong (by decide) among).elim
  | ofNothing _ _ =>
      rw [← List.nil_append [Piece.text "1 = 0"]] at among
      exact (notAmong (by decide) among).elim
  | @among items is present elements =>
      obtain ⟨other, same⟩ := among
      obtain rfl := (membership_forms shippedDialect).2 _ _ _ _ same
      obtain ⟨listed, value⟩ := spoken.listed is
      rw [value] at present elements
      obtain rfl : listed = items := Option.some.inj elements
      exact ⟨listed, rfl, by rintro rfl; cases present⟩
  | compared _ => exact (not_looksAmong_comparison shippedDialect _ _ _ value among).elim

/-- Whatever a statement of known words looks among is a list with items. -/
theorem IsPredicate.items_of_looksAmong {s : Statement String} (spoken : s.Spoken) {p : Predicate}
    (member : p ∈ s.predicates) (h : IsPredicate d p text) (shippedDialect : d ∈ shipped)
    (among : LooksAmong d text value)
    : ∃ items, value = .list items ∧ items ≠ [] := by
  simp only [predicates, List.mem_append, List.mem_map, List.mem_flatMap] at member
  rcases member with (⟨c, ⟨j, hj, inJoin⟩, rfl⟩ | ⟨c, listed, rfl⟩) | ⟨predicate, _, rfl⟩
  · exact Sql.items_of_looksAmong shippedDialect (spoken.joins j hj c inJoin) h.written among
  · exact Sql.items_of_looksAmong shippedDialect (spoken.conditions c listed) h.written among
  · obtain ⟨left, _, written⟩ := bind_eq_ok.mp h.written
    obtain ⟨word, _, rfl⟩ := compare_eq_ok.mp written
    exact (not_looksAmong_comparison shippedDialect _ _ _ value among).elim

-----------------------------------------------------------------------------------------
-- What the predicates of queries compare with
-----------------------------------------------------------------------------------------

variable {c : Catalog} {q : Query} {context : Context} {p : Plan}

/-- The filters of a query are conditions of its statement, in a join or behind the joins. -/
theorem mem_predicates_of_filter (engine : String) {f : Condition ColumnRef}
    (member : f ∈ p.granted.filters)
    : .condition (c.conditionNamed f) ∈ (named c p engine).predicates := by
  simp only [predicates, List.mem_append, List.mem_map, List.mem_flatMap]
  refine .inl ?_
  cases stays : staysInJoin p.query f with
  | false =>
      refine .inr ⟨_, List.mem_append_right _ ?_, rfl⟩
      exact List.mem_map.mpr ⟨f, List.mem_filter.mpr ⟨member, by simp [stays]⟩, rfl⟩
  | true =>
      have left : f.column.table ∈ leftJoined p.query := by
        simpa using (Bool.and_eq_true_iff.mp stays).2
      obtain ⟨j, hj, same⟩ := List.mem_map.mp left
      refine .inl ⟨_, ⟨joinNamed c p j, ?_, ?_⟩, rfl⟩
      · exact List.mem_map.mpr ⟨j, (List.mem_filter.mp hj).1, rfl⟩
      · exact List.mem_map.mpr
          ⟨f, List.mem_filter.mpr ⟨member, by simp [stays, same]⟩, rfl⟩

/-- The predicates of the described statement compare with scalars exactly if the filters of the
query do, the row rules among them, and its predicates on aggregates.
-/
theorem scalar_predicates_iff (h : Resolvable c q context p) (engine : String)
    : (∀ predicate ∈ (named c p engine).predicates,
          ∀ value, predicate.compared? = some value → value.IsScalar)
      ↔ (∀ f ∈ p.granted.filters, ∀ value, f.compared? = some value → value.IsScalar)
        ∧ ∀ predicate ∈ q.having, predicate.value.IsScalar := by
  constructor
  · intro each
    refine ⟨fun f member => each _ (mem_predicates_of_filter engine member), ?_⟩
    intro predicate member
    refine each (.having (havingNamed c p predicate)) ?_ predicate.value rfl
    refine List.mem_append_right _ (List.mem_map.mpr ⟨_, ?_, rfl⟩)
    rw [named, h.query_eq]
    exact List.mem_map.mpr ⟨predicate, member, rfl⟩
  · rintro ⟨filters, having⟩ predicate member
    simp only [predicates, List.mem_append, List.mem_map, List.mem_flatMap] at member
    rcases member with (⟨_, ⟨join, hjoin, inJoin⟩, rfl⟩ | ⟨f, listed, rfl⟩) | ⟨_, listed, rfl⟩
    · obtain ⟨j, _, rfl⟩ := List.mem_map.mp hjoin
      obtain ⟨f, hf, rfl⟩ := List.mem_map.mp inJoin
      exact filters f (List.mem_filter.mp hf).1
    · rcases List.mem_append.mp listed with restriction | filter
      · unfold idsNamed at restriction
        split at restriction
        · cases restriction
        · obtain ⟨_, _, rfl⟩ := List.mem_map.mp restriction
          intro value compared
          cases compared
      · obtain ⟨f, hf, rfl⟩ := List.mem_map.mp filter
        exact filters f (List.mem_filter.mp hf).1
    · rw [named, h.query_eq] at listed
      obtain ⟨predicate, member, rfl⟩ := List.mem_map.mp listed
      rintro value same
      cases same
      exact having predicate member

/-- The caller's filters compare with scalars. -/
theorem scalar_of_callerFilters (valid : Validation.issues c q = []) {f : Condition ColumnRef}
    (member : f ∈ Access.callerFilters q) {value : Value} (compares : f.compared? = some value)
    : value.IsScalar := by
  obtain ⟨filter, hfilter, rfl⟩ := List.mem_map.mp member
  obtain ⟨column, op, operand⟩ := filter
  unfold Condition.compared? at compares
  cases op
  case among | isNull | isNotNull => cases compares
  all_goals
    cases compares
    exact Validation.scalar_of_comparison valid hfilter rfl (by simp)

/-- The condition of a row rule compares with a scalar exactly if it has no collection to compare
with; null is none of the values that row rules have.
-/
theorem scalar_conditionOn_iff {rule : RowRule} (valued : rule.Valued context) (table : String)
    : (∀ value, (rule.conditionOn context table).compared? = some value → value.IsScalar)
      ↔ (rule.operator = .equal ∨ rule.operator = .differ
          → (context.values.cell (rule.contextKey.getD "")).isCollection = false) := by
  obtain ⟨column, operator, key⟩ := rule
  cases operator with
  | isNull | isNotNull | among => exact ⟨fun _ compares => by simp at compares, fun _ => nofun⟩
  | equal | differ =>
      have present : (context.values.cell (key.getD "")).isNull = false := valued rfl
      refine ⟨fun each _ => (each _ rfl).2, fun single value same => ?_⟩
      cases same
      exact ⟨present, single (by simp)⟩

/-- The filters of a granted query compare with scalars exactly if its row rules do. -/
theorem scalar_filters_iff (h : Resolvable c q context p) (valid : Validation.issues c q = [])
    : (∀ f ∈ p.granted.filters, ∀ value, f.compared? = some value → value.IsScalar)
      ↔ ∀ name ∈ q.tableNames, ∀ t rule,
          c.table? name = some t
          → c.rule? context.role t = some rule
          → ∀ row ∈ rule.rows,
              row.operator = .equal ∨ row.operator = .differ
              → (context.values.cell (row.contextKey.getD "")).isCollection = false := by
  constructor
  · intro each name touched t rule found ruled row member
    obtain ⟨scope, _, other, rights⟩ := h.granted.scope_of_mem touched
    obtain rfl := Option.some.inj (found.symm.trans rights.table)
    obtain rfl := Option.some.inj (ruled.symm.trans rights.ruled)
    refine (scalar_conditionOn_iff (rights.valued row member) name).mp (each _ ?_)
    rw [filters_eq h.granted]
    refine List.mem_append_right _ (List.mem_flatMap.mpr ⟨name, touched, ?_⟩)
    simp only [Catalog.rowConditions, found, ruled]
    exact List.mem_map_of_mem member
  · intro rows f member
    rw [h.granted.filters] at member
    rcases List.mem_append.mp member with own | listed
    · exact fun value => scalar_of_callerFilters valid own
    · obtain ⟨name, scope, rule, row, touched, rights, hrow, rfl⟩ := h.granted.row_of_mem listed
      refine (scalar_conditionOn_iff (rights.valued row hrow) name).mpr ?_
      exact rows name touched _ rule rights.table rights.ruled row hrow

/-- In the SQL of a query membership is always in a list with items, and comparisons are with
scalars exactly if the predicates on aggregates are, which are not checked, and the context has no
collections for the row rules that compare.
-/
theorem scalar_comparisons_iff {s : ScopedQuery} {facilities : Facilities} {tolerance : Freshness}
    (valid : Validation.issues c q = [])
    (granted : (Access.apply c q context).result = .ok s)
    (planned : (Planning.plan c facilities s context tolerance).result = .ok p)
    (needed : p.needsSql = true)
    : ∃ statement,
        (resolve p).result = .ok statement
        ∧ ∀ d ∈ shipped,
            ∀ sql,
              ofStatement d statement = .ok sql
              → ∃ texts,
                  List.Forall₂ (IsPredicate d) statement.predicates texts
                  ∧ Woven texts sql
                  ∧ (∀ text ∈ texts,
                      ∀ value, LooksAmong d text value → ∃ items, value = .list items ∧ items ≠ [])
                  ∧ ((∀ text ∈ texts, ∀ value, Compares d text value → value.IsScalar)
                      ↔ q.ScalarOperands c context) := by
  have h := resolvable_of_plan valid granted planned
  obtain ⟨engine, hengine⟩ := Option.isSome_iff_exists.mp needed
  have spoken := h.spoken_named valid hengine
  refine ⟨named c p engine, h.resolve_eq hengine, fun d shippedDialect sql written => ?_⟩
  obtain ⟨texts, predicates, woven⟩ := exists_woven shippedDialect written
  refine ⟨texts, predicates, woven, ?_, ?_⟩
  · intro text member value among
    obtain ⟨predicate, listed, is⟩ := exists_of_mem_found predicates member
    exact is.items_of_looksAmong spoken listed shippedDialect among
  · have texted
        : (∀ text ∈ texts, ∀ value, Compares d text value → value.IsScalar)
          ↔ ∀ predicate ∈ (named c p engine).predicates,
              ∀ value, predicate.compared? = some value → value.IsScalar := by
      constructor
      · intro each predicate member value compared
        obtain ⟨text, listed, is⟩ := exists_of_mem_found predicates.flip member
        exact each text listed value ((is.compares_iff shippedDialect).mpr compared)
      · intro each text member value compares
        obtain ⟨predicate, listed, is⟩ := exists_of_mem_found predicates member
        exact each predicate listed value ((is.compares_iff shippedDialect).mp compares)
    rw [texted, scalar_predicates_iff h, scalar_filters_iff h valid]
    exact ⟨fun ⟨rows, having⟩ => ⟨having, rows⟩, fun operands => ⟨operands.rows, operands.having⟩⟩

end Sql

namespace Sample

/-- The users with a number of orders that compares with a value as it is asked for. -/
def usersByNumber (op : Comparison) (value : Value) : Query :=
  { countedOrders "n" with having := [⟨"n", op, value⟩] }

/-- A number that is compared with null is written as such: the query has no issues, and no user
has such a number.
-/
theorem number_compared_with_null
    : ∃ s p statement sql texts text,
        Validation.issues catalog (usersByNumber .equal .null) = []
        ∧ (Access.apply catalog (usersByNumber .equal .null) context).result = .ok s
        ∧ (Planning.plan catalog facilities s context .hours).result = .ok p
        ∧ (Statement.resolve p).result = .ok statement
        ∧ Sql.ofStatement .postgres statement = .ok sql
        ∧ List.Forall₂ (Sql.IsPredicate .postgres) statement.predicates texts
        ∧ Sql.Woven texts sql
        ∧ text ∈ texts
        ∧ Sql.Compares .postgres text .null
        ∧ ¬ Value.null.IsScalar := by
  obtain ⟨s, p, statement, sql, granted, planned, resolved, written, member⟩
      : ∃ s p statement sql,
          (Access.apply catalog (usersByNumber .equal .null) context).result = .ok s
          ∧ (Planning.plan catalog facilities s context .hours).result = .ok p
          ∧ (Statement.resolve p).result = .ok statement
          ∧ Sql.ofStatement .postgres statement = .ok sql
          ∧ .having ⟨⟨.known .count, none, "n"⟩, .known .equal, .null⟩ ∈ statement.predicates :=
    ⟨_, _, _, _, rfl, rfl, rfl, rfl, List.mem_append_right _ (List.mem_singleton.mpr rfl)⟩
  have postgres : Dialect.postgres ∈ Sql.shipped := by simp [Sql.shipped]
  obtain ⟨texts, predicates, woven⟩ := Sql.exists_woven postgres written
  obtain ⟨text, listed, is⟩ := Outcome.exists_of_mem_found predicates.flip member
  exact ⟨s, p, statement, sql, texts, text, rfl, granted, planned, resolved, written, predicates,
    woven, listed, (is.compares_iff postgres).mpr rfl, fun scalar => absurd scalar.1 (by decide)⟩

/-- A number that is compared with another one, in the context of a single tenant. -/
theorem number_compared_with_scalar
    : ∃ s p statement sql texts,
        (Access.apply catalog (usersByNumber .atLeast (.int 2)) context).result = .ok s
        ∧ (Planning.plan catalog facilities s context .hours).result = .ok p
        ∧ (Statement.resolve p).result = .ok statement
        ∧ Sql.ofStatement .postgres statement = .ok sql
        ∧ Sql.Woven texts sql
        ∧ ∀ text ∈ texts, ∀ value, Sql.Compares .postgres text value → value.IsScalar := by
  obtain ⟨s, p, granted, planned, needed, sql, made⟩
      : ∃ s p,
          (Access.apply catalog (usersByNumber .atLeast (.int 2)) context).result = .ok s
          ∧ (Planning.plan catalog facilities s context .hours).result = .ok p
          ∧ p.needsSql = true
          ∧ ∃ sql, ((Statement.resolve p).result >>= Sql.ofStatement .postgres) = .ok sql :=
    ⟨_, _, rfl, rfl, rfl, _, rfl⟩
  have scalar : (usersByNumber .atLeast (.int 2)).ScalarOperands catalog context := by
    constructor
    case having =>
      intro predicate member
      obtain rfl := List.mem_singleton.mp member
      exact ⟨rfl, rfl⟩
    case rows =>
      intro name touched t rule found ruled
      obtain rfl : name = "orders" := List.mem_singleton.mp touched
      obtain rfl : orders = t := Option.some.inj found
      obtain rfl := Option.some.inj ruled
      decide
  obtain ⟨statement, resolved, each⟩ :=
    Sql.scalar_comparisons_iff (by rfl) granted planned needed
  rw [resolved, Outcome.ok_bind] at made
  obtain ⟨texts, _, woven, _, exactly⟩ := each .postgres (by simp [Sql.shipped]) sql made
  exact ⟨s, p, statement, sql, texts, granted, planned, resolved, made, woven,
    exactly.mpr scalar⟩

end Sample

end Polystore
