import Polystore.Proofs.Statement.CopyNames
import Polystore.Proofs.Statement.Naming

/-! The words of statements. Whatever a plan is resolved to has directions and granularities that
the language knows; and the statement of a valid query has nothing but known operators and
functions as well, tests membership in lists only, and counts its pages in whole numbers.
-/

namespace Polystore

namespace Statement

-----------------------------------------------------------------------------------------
-- Directions and granularities
-----------------------------------------------------------------------------------------

/-- An order whose direction and granularity are words of the language. -/
structure Order.Worded (o : Order String) : Prop where
  direction : ∃ word, o.direction = .known word
  granularity
    : ∀ c granularity,
        o.key = .column c granularity → ∃ word, granularity = Option.map Named.known word

/-- A statement whose directions and granularities are words of the language. -/
structure Worded (s : Statement String) : Prop where
  groups : ∀ g ∈ s.groupBy, ∃ word, g.granularity = Option.map Named.known word
  orders : ∀ o ∈ s.orderBy, o.Worded

variable {s : Statement String} {p : Plan}

theorem worded_of_resolveOrder {aggregates : Entries String (Aggregate String)} {item : OrderItem}
    {o : Order String} (h : resolveOrder p aggregates item = .ok o)
    : o.Worded := by
  unfold resolveOrder at h
  split at h
  · cases h
    exact ⟨⟨_, rfl⟩, nofun⟩
  · obtain ⟨column, _, h⟩ := Outcome.bind_eq_ok.mp h
    cases h
    refine ⟨⟨_, rfl⟩, fun c granularity key => ?_⟩
    cases key
    exact ⟨_, rfl⟩

/-- Statements of plans have nothing but words there. -/
theorem worded_of_resolve (h : (resolve p).result = .ok s) : s.Worded := by
  have clauses := resolvesTo_of_resolve h
  constructor
  case groups =>
    intro g member
    obtain ⟨item, _, resolved⟩ := Outcome.exists_of_mem_mapM clauses.groups member
    obtain ⟨column, _, resolved⟩ := Outcome.bind_eq_ok.mp resolved
    cases resolved
    exact ⟨item.granularity, rfl⟩
  case orders =>
    intro o member
    obtain ⟨_, _, _, ordered, _⟩ := clauses.aggregates
    obtain ⟨item, _, resolved⟩ := Outcome.exists_of_mem_mapM ordered member
    exact worded_of_resolveOrder resolved

end Statement

-----------------------------------------------------------------------------------------
-- Operators, functions and pages
-----------------------------------------------------------------------------------------

/-- A condition with an operator that the language knows, whose value is a list where that is
membership.
-/
structure Condition.Spoken {κ : Type} (f : Condition κ) : Prop where
  known : ∃ op, f.op = .known op
  listed : f.op = .known .among → ∃ items, f.value = .list items

/-- An optional whole number as a value. -/
def Value.Counts (v : Value) : Prop := ∃ n : Option Int, v = .ofOption .int n

namespace Statement

/-- A statement of words that the language knows. A predicate on an aggregate is on one of the
statement's own, and an order is by something.
-/
structure Spoken (s : Statement String) : Prop extends s.Worded where
  conditions : ∀ f ∈ s.conditions, f.Spoken
  joins : ∀ j ∈ s.joins, ∀ f ∈ j.conditions, f.Spoken
  aggregates : ∀ a ∈ s.aggregates, ∃ fn, a.fn = .known fn
  having
    : ∀ h ∈ s.having, h.aggregate ∈ s.aggregates ∧ ∃ op : Comparison, h.op = .known op.toOperator
  keys : ∀ o ∈ s.orderBy, o.key ≠ .nothing
  limit : s.limit.Counts
  offset : s.offset.Counts

section Named

variable {c : Catalog} {q : Query} {context : Context} {p : Plan}

theorem spoken_conditionNamed {f : Condition ColumnRef} (spoken : f.Spoken)
    : (c.conditionNamed f).Spoken :=
  ⟨spoken.known, spoken.listed⟩

/-- The condition of a row rule has a known operator, and is membership in lists only. -/
theorem spoken_conditionOn (rule : RowRule) (context : Context) (table : String)
    : (rule.conditionOn context table).Spoken := by
  refine ⟨⟨_, rfl⟩, fun among => ?_⟩
  have among : rule.operator.toOperator = .among := by simpa [RowRule.conditionOn] using among
  cases operator : rule.operator with
  | among => exact ⟨_, by simp only [RowRule.conditionOn, RowRule.operand, operator]; rfl⟩
  | _ => simp [operator, RowOperator.toOperator] at among

/-- The filters of a valid query are spoken, those of the caller and those of the row rules. -/
theorem Resolvable.spoken_filters (h : Resolvable c q context p)
    (valid : Validation.issues c q = []) {f : Condition ColumnRef} (member : f ∈ p.granted.filters)
    : f.Spoken := by
  rw [h.granted.filters] at member
  rcases List.mem_append.mp member with own | ruled
  · obtain ⟨filter, hfilter, rfl⟩ := List.mem_map.mp own
    refine ⟨⟨_, rfl⟩, fun among => ?_⟩
    exact Validation.list_of_among valid hfilter (by simpa using among)
  · obtain ⟨name, _, _, row, _, _, _, rfl⟩ := h.granted.row_of_mem ruled
    exact spoken_conditionOn row context name

/-- The restriction to ids is membership in a list. -/
theorem spoken_idsNamed {f : Condition (ColumnName String)} (member : f ∈ idsNamed c p)
    : f.Spoken := by
  unfold idsNamed at member
  split at member
  · cases member
  next ids _ =>
    obtain ⟨_, _, rfl⟩ := List.mem_map.mp member
    exact ⟨⟨_, rfl⟩, fun _ => ⟨ids, rfl⟩⟩

/-- A predicate is on the aggregate of its label, of which the query has one. -/
theorem Resolvable.havingNamed_mem (h : Resolvable c q context p) {predicate : Polystore.Having}
    (member : predicate ∈ q.having)
    : (havingNamed c p predicate).aggregate ∈ q.aggregations.map (aggregateNamed c p) := by
  obtain ⟨a, found⟩ := h.find_aggregate member
  simp only [havingNamed, h.query_eq, found, Option.elim_some]
  exact List.mem_map.mpr ⟨a, List.mem_of_find?_eq_some found, rfl⟩

/-- The statement that the plan of a valid query describes has nothing but known words. -/
theorem Resolvable.spoken_named (h : Resolvable c q context p)
    (valid : Validation.issues c q = []) {engine : String} (needed : p.engine = some engine)
    : (named c p engine).Spoken := by
  constructor
  case toWorded => exact worded_of_resolve (h.resolve_eq needed)
  case conditions =>
    intro f member
    rcases List.mem_append.mp member with restriction | filter
    · exact spoken_idsNamed restriction
    · obtain ⟨own, listed, rfl⟩ := List.mem_map.mp filter
      exact spoken_conditionNamed (h.spoken_filters valid (List.mem_filter.mp listed).1)
  case joins =>
    intro j member f inJoin
    obtain ⟨join, _, rfl⟩ := List.mem_map.mp member
    obtain ⟨own, listed, rfl⟩ := List.mem_map.mp inJoin
    exact spoken_conditionNamed (h.spoken_filters valid (List.mem_filter.mp listed).1)
  case aggregates =>
    intro a member
    obtain ⟨aggregation, _, rfl⟩ := List.mem_map.mp member
    exact ⟨aggregation.fn, rfl⟩
  case having =>
    intro having member
    obtain ⟨predicate, listed, rfl⟩ := List.mem_map.mp member
    rw [h.query_eq] at listed
    refine ⟨?_, predicate.op, rfl⟩
    change _ ∈ p.query.aggregations.map (aggregateNamed c p)
    rw [h.query_eq]
    exact h.havingNamed_mem listed
  case keys =>
    intro o member
    obtain ⟨item, _, rfl⟩ := List.mem_map.mp member
    unfold orderNamed
    split <;> exact nofun
  case limit => exact ⟨_, rfl⟩
  case offset => exact ⟨_, rfl⟩

end Named

end Statement

end Polystore
