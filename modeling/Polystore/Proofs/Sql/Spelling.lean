import Polystore.Proofs.Sql.Conjuncts
import Polystore.Proofs.Sql.Lexing
import Polystore.Proofs.Sql.Paging

/-! Names in written statements. Every part of a statement is written with the names that it has,
one behind the other, and between them with nothing but words of the language: what stands for a
name or a value never becomes part of these words.
-/

namespace Polystore

-----------------------------------------------------------------------------------------
-- Names of statements
-----------------------------------------------------------------------------------------

namespace Statement

def ColumnName.names (c : ColumnName String) : List String := [c.table, c.physicalName]

/-- The names by which a table is found and then known. Where catalog and schema are among them,
a schema that is left out has the name `default`.
-/
def TableName.names (d : Dialect) (t : TableName String) : List String :=
  let place :=
    if d.qualified then [t.catalog.getD "", (t.schema.filter (!·.isEmpty)).getD "default"] else []
  place ++ [t.physicalName, t.apiName]

/-- The names in a condition. Membership in nothing is written without its column. -/
def conditionNames (c : Condition (ColumnName String)) : List String :=
  match c.op with
  | .known .among => if c.value.isPresent then c.column.names else []
  | _ => c.column.names

def Join.names (d : Dialect) (j : Join String) : List String :=
  j.table.names d ++ (j.left.names ++ j.right.names ++ j.conditions.flatMap conditionNames)

def Aggregate.names (a : Aggregate String) : List String := a.column.elim [] ColumnName.names

def Order.names (o : Order String) : List String :=
  match o.key with
  | .label name => [name]
  | .column c _ => c.names
  | .nothing => []

variable (s : Statement String)

/-- The names in the select list, each item in front of its label. -/
def selectedNames : List String :=
  if s.mode = .count then ["count"]
  else if !s.groupBy.isEmpty || !s.aggregates.isEmpty then
    s.groupBy.flatMap (fun g => g.column.names ++ [g.column.label])
      ++ s.aggregates.flatMap fun a => a.names ++ [a.label]
  else s.columns.flatMap fun c => c.names ++ [c.label]

/-- The names in a written statement from left to right, clause by clause. -/
def writtenNames (d : Dialect) : List String :=
  s.selectedNames ++ s.table.names d ++ s.joins.flatMap (·.names d)
    ++ s.conditions.flatMap conditionNames ++ s.groupBy.flatMap (·.column.names)
    ++ s.having.flatMap (·.aggregate.names)
    ++ if s.mode = .count then [] else s.orderBy.flatMap Order.names

end Statement

namespace Sql

open Statement

-----------------------------------------------------------------------------------------
-- Texts that spell names
-----------------------------------------------------------------------------------------

/-- A text with some names in order, which the lexer finds again. -/
structure Spells (names : List String) (sql : Sql) : Prop where
  readable : Readable sql
  named : Sql.names sql = names

theorem spells_nil : Spells [] [] := ⟨⟨by simp, .nil⟩, rfl⟩

theorem spells_name (s : String) : Spells [s] [.name s] := ⟨⟨by simp, .singleton _⟩, rfl⟩

theorem spells_slot (v : Value) : Spells [] [.slot v] := ⟨⟨by simp, .singleton _⟩, rfl⟩

variable {first second : List String} {a b : Sql} {s : String}

/-- Two texts with a plain one between them spell the names of both. -/
theorem Spells.beside (ha : Spells first a) (plain : Plain s) (hb : Spells second b)
    : Spells (first ++ second) (a ++ .text s :: b) := by
  have text (piece : Piece) : Apart piece (.text s) ∧ Apart (.text s) piece := ⟨.inr rfl, .inl rfl⟩
  refine ⟨⟨fun t member => ?_, ?_⟩, ?_⟩
  · simp only [List.mem_append, List.mem_cons, Piece.text.injEq] at member
    rcases member with member | rfl | member
    · exact ha.readable.plain t member
    · exact plain
    · exact hb.readable.plain t member
  · rw [List.isChain_append]
    refine ⟨ha.readable.apart, List.isChain_cons.mpr ⟨?_, hb.readable.apart⟩, ?_⟩
    · exact fun piece _ => (text piece).2
    · intro piece _ next same
      cases same
      exact (text piece).1
  · rw [← ha.named, ← hb.named]
    exact List.filterMap_append ..

theorem Spells.behind (plain : Plain s) (h : Spells first a) : Spells first (.text s :: a) :=
  spells_nil.beside plain h

theorem Spells.before (h : Spells first a) (plain : Plain s) : Spells first (a ++ [.text s]) := by
  simpa using h.beside plain spells_nil

theorem spells_text (plain : Plain s) : Spells [] [.text s] := spells_nil.behind plain

/-- Texts that spell some names one behind the other. -/
inductive SpellAll : List String → List Sql → Prop where
  | nil : SpellAll [] []
  | cons {first rest : List String} {text : Sql} {texts : List Sql}
    : Spells first text → SpellAll rest texts → SpellAll (first ++ rest) (text :: texts)

variable {texts others : List Sql}

theorem SpellAll.append (h : SpellAll first texts) (h' : SpellAll second others)
    : SpellAll (first ++ second) (texts ++ others) := by
  induction h with
  | nil => exact h'
  | cons head _ ih =>
      rw [List.append_assoc]
      exact .cons head ih

/-- Joined texts spell the names of all, by induction on the texts. -/
theorem SpellAll.join (h : SpellAll first texts) (plain : Plain s)
    : Spells first (Sql.join s texts) := by
  induction h with
  | nil => exact spells_nil
  | cons head tail ih =>
      cases tail with
      | nil => simpa [Sql.join] using head
      | cons _ _ => exact head.beside plain ih

/-- A clause spells the names of its items. -/
theorem SpellAll.clause (h : SpellAll first texts) (keyword separator : String)
    (begins : Plain keyword) (plain : Plain separator)
    : SpellAll first (Sql.clause keyword separator texts) := by
  cases h with
  | nil => exact .nil
  | cons head tail =>
      rw [← List.append_nil (_ ++ _)]
      exact .cons (((SpellAll.cons head tail).join plain).behind begins) .nil

/-- Texts that are written item by item spell the names of the items. -/
theorem spellAll_of_mapM {α : Type} {write : α → Written} {namesOf : α → List String}
    {items : List α} (written : items.mapM write = .ok texts)
    (h : ∀ item ∈ items, ∀ text, write item = .ok text → Spells (namesOf item) text)
    : SpellAll (items.flatMap namesOf) texts := by
  have aligned := Outcome.mapM_eq_ok.mp written
  clear written
  induction aligned with
  | nil => exact .nil
  | cons head _ ih =>
      rw [List.flatMap_cons]
      exact .cons (h _ (List.mem_cons_self ..) _ head)
        (ih fun item member => h item (List.mem_cons_of_mem _ member))

-----------------------------------------------------------------------------------------
-- Dialects with double quotes
-----------------------------------------------------------------------------------------

/-- A dialect with names in double quotes, which writes all else in words of the language. -/
structure Quotes (d : Dialect) : Prop where
  quote : d.quote = Dialect.doubleQuoted
  placeholder : ∀ n : Nat, Plain (d.placeholder (toString n))
  truncating : d.truncating = none
  truth : ∀ b, Plain (d.truth b)
  membership
    : ∀ {names column} (items : Value),
        Spells names column → Spells names (d.membership column [.slot items])

theorem quotes_postgres : Quotes .postgres where
  quote := rfl
  placeholder n := Plain.append (s := "$") (by decide) (unquoted_toString_nat n)
  truncating := rfl
  truth b := by cases b <;> decide
  membership items h := by
    simpa [Dialect.postgres] using (h.beside (by decide) (spells_slot items)).before (by decide)

theorem quotes_trino : Quotes .trino where
  quote := rfl
  placeholder _ := (by decide : Plain "?")
  truncating := rfl
  truth b := by cases b <;> decide
  membership items h :=
    (((spells_slot items).behind (by decide)).beside (by decide) h).before (by decide)

-----------------------------------------------------------------------------------------
-- Columns, aggregates and tables
-----------------------------------------------------------------------------------------

variable {d : Dialect} {names : List String} {sql : Sql}

theorem spells_column {c : ColumnName String} (h : column c = .ok sql) : Spells c.names sql := by
  cases h
  exact (spells_name c.table).beside (by decide) (spells_name c.physicalName)

theorem spells_truncated (quotes : Quotes d) {c : ColumnName String}
    {granularity : Option (Named Granularity)}
    (worded : ∃ word, granularity = Option.map Named.known word)
    (h : truncated d c granularity = .ok sql)
    : Spells c.names sql := by
  obtain ⟨written, named, h⟩ := Outcome.bind_eq_ok.mp h
  have column := spells_column named
  obtain ⟨_ | word, rfl⟩ := worded
  case none =>
    cases h
    exact column
  case some =>
    simp only [Option.map_some, Dialect.truncation, quotes.truncating] at h
    cases h
    have plain : Plain s!"date_trunc('{(Value.text (Vocabulary.name word)).display}', " := by
      cases word <;> decide
    exact (column.behind plain).before (by decide)

theorem spells_aggregate {a : Aggregate String} (h : aggregate a = .ok sql)
    : Spells a.names sql := by
  unfold Aggregate.names
  cases aggregateForm_of_aggregate h with
  | rows none =>
      rw [none]
      exact spells_text (by decide)
  | @ofColumn c fn text some _ named =>
      have plain : Plain (aggregateFunction fn) := by cases fn <;> decide
      rw [some]
      exact ((spells_column named).behind plain).before (by decide)

theorem spells_labelled {label : String} {labelledSql : Sql} (h : Spells names sql)
    (written : labelled label sql = .ok labelledSql)
    : Spells (names ++ [label]) labelledSql := by
  cases written
  exact h.beside (by decide) (spells_name label)

theorem spells_source {t : TableName String} (h : source d t = .ok sql)
    : Spells (t.names d) sql := by
  obtain ⟨table, named, h⟩ := Outcome.bind_eq_ok.mp h
  unfold TableName.names
  unfold Dialect.table at named
  split at named
  next qualified =>
    split at named
    · cases named
    next catalog found =>
      cases named
      have catalogued : t.catalog = some catalog := (Option.filter_eq_some_iff.mp found).1
      rw [if_pos qualified, catalogued]
      exact spells_labelled ((spells_name catalog).beside (by decide)
        ((spells_name _).beside (by decide) (spells_name t.physicalName))) h
  next bare =>
    cases named
    rw [if_neg bare]
    exact spells_labelled (spells_name t.physicalName) h

-----------------------------------------------------------------------------------------
-- Predicates
-----------------------------------------------------------------------------------------

theorem Signed.plain {op : Named Operator} {word : String} (h : Signed op word)
    : Plain s!" {word} " := by
  cases h <;> decide

/-- A comparison spells what its left side does, whatever it compares with. -/
theorem Signed.spells {op : Named Operator} {word : String} (signed : Signed op word)
    (quotes : Quotes d) {left : Sql} (hleft : Spells names left) (value : Value)
    : Spells names (left ++ [.text s!" {word} ", operand d value]) := by
  have right : Spells [] [operand d value] := by
    unfold operand
    cases value.truth? with
    | none => exact spells_slot value
    | some b => exact spells_text (quotes.truth b)
  simpa using hleft.beside signed.plain right

theorem spells_condition (quotes : Quotes d) {c : Condition (ColumnName String)}
    (h : condition d c = .ok sql)
    : Spells (conditionNames c) sql := by
  obtain ⟨text, named, form⟩ := conditionForm_of_condition h
  have column := spells_column named
  unfold conditionNames
  cases form with
  | isNull isNull =>
      rw [isNull]
      exact column.before (by decide)
  | isNotNull isNotNull =>
      rw [isNotNull]
      exact column.before (by decide)
  | ofNothing among absent =>
      simpa [among, absent] using spells_text (s := "1 = 0") (by decide)
  | among among present listed =>
      simpa [among, present] using quotes.membership (.list _) column
  | compared signed =>
      split
      next is => exact (signed.compares.2.2 is).elim
      · exact signed.spells quotes column c.value

theorem spells_having (quotes : Quotes d) {predicate : Statement.Having String}
    (h : havingItem d predicate = .ok sql)
    : Spells predicate.aggregate.names sql := by
  obtain ⟨left, written, h⟩ := Outcome.bind_eq_ok.mp h
  obtain ⟨word, signed, rfl⟩ := compare_eq_ok.mp h
  exact signed.spells quotes (spells_aggregate written) predicate.value

-----------------------------------------------------------------------------------------
-- Clauses
-----------------------------------------------------------------------------------------

theorem spells_joinClause (quotes : Quotes d) {j : Statement.Join String}
    (h : joinClause d j = .ok sql)
    : Spells (j.names d) sql := by
  obtain ⟨left, onLeft, h⟩ := Outcome.bind_eq_ok.mp h
  obtain ⟨right, onRight, h⟩ := Outcome.bind_eq_ok.mp h
  obtain ⟨conditions, written, h⟩ := Outcome.bind_eq_ok.mp h
  obtain ⟨table, named, h⟩ := Outcome.bind_eq_ok.mp h
  cases h
  have link := (spells_column onLeft).beside (s := " = ") (by decide) (spells_column onRight)
  have each := spellAll_of_mapM written fun c _ text => spells_condition quotes
  have on := (SpellAll.cons link each).join (s := " AND ") (by decide)
  refine ((spells_source named).behind ?_).beside (by decide) on
  cases j.kind <;> decide

theorem spellAll_selectItems (quotes : Quotes d) {s : Statement String} (worded : s.Worded)
    {items : List Sql} (h : selectItems d s = .ok items)
    : SpellAll s.selectedNames items := by
  unfold selectItems at h
  unfold selectedNames
  split at h
  next counts =>
    cases h
    rw [if_pos counts]
    exact .cons (spells_labelled (spells_text (by decide)) rfl) .nil
  next rows =>
    rw [if_neg rows]
    split at h
    next grouped =>
      rw [if_pos grouped]
      obtain ⟨groups, hgroups, h⟩ := Outcome.bind_eq_ok.mp h
      obtain ⟨aggregates, haggregates, h⟩ := Outcome.bind_eq_ok.mp h
      cases h
      refine SpellAll.append (spellAll_of_mapM hgroups fun g member text written => ?_)
        (spellAll_of_mapM haggregates fun a _ text written => ?_)
      · obtain ⟨column, truncated, written⟩ := Outcome.bind_eq_ok.mp written
        exact spells_labelled (spells_truncated quotes (worded.groups g member) truncated) written
      · obtain ⟨column, aggregated, written⟩ := Outcome.bind_eq_ok.mp written
        exact spells_labelled (spells_aggregate aggregated) written
    next ungrouped =>
      rw [if_neg ungrouped]
      refine spellAll_of_mapM h fun c _ text written => ?_
      obtain ⟨column, named, written⟩ := Outcome.bind_eq_ok.mp written
      exact spells_labelled (spells_column named) written

theorem spells_select (quotes : Quotes d) {s : Statement String} (worded : s.Worded)
    (h : select d s = .ok sql)
    : Spells s.selectedNames sql := by
  obtain ⟨items, listed, h⟩ := Outcome.bind_eq_ok.mp h
  have spelled := spellAll_selectItems quotes worded listed
  cases items with
  | nil => cases h
  | cons first rest =>
      cases h
      exact (spelled.join (by decide)).behind (by decide)

theorem plain_directionWord {direction : Direction} {word : String}
    (h : directionWord (.known direction) = .ok word)
    : Plain (" " ++ word) := by
  cases h
  cases direction <;> decide +kernel

theorem spells_orderItem (quotes : Quotes d) {o : Order String} (worded : o.Worded)
    (h : orderItem d o = .ok sql)
    : Spells o.names sql := by
  rw [orderItem_eq] at h
  obtain ⟨key, written, h⟩ := Outcome.bind_eq_ok.mp h
  obtain ⟨word, direction, h⟩ := Outcome.bind_eq_ok.mp h
  cases h
  obtain ⟨known, same⟩ := worded.direction
  rw [same] at direction
  refine Spells.before ?_ (plain_directionWord direction)
  unfold Order.names
  unfold orderKey at written
  split at written
  next label found =>
    cases written
    rw [found]
    exact spells_name label
  next c granularity found =>
    rw [found]
    exact spells_truncated quotes (worded.granularity c granularity found) written
  · cases written

theorem plain_pagingLine {keyword line : String} {v : Value} (plain : Plain keyword)
    (h : Dialect.pagingLine keyword v = .ok line)
    : Plain line := by
  obtain ⟨i, _, _, rfl⟩ := Dialect.pagingLine_eq_ok.mp h
  exact (plain.append (by decide)).append (unquoted_toString_int i)

theorem plain_paging {limit offset : Value} {lines : List String}
    (h : d.paging limit offset = .ok lines) {line : String} (member : line ∈ lines)
    : Plain line := by
  obtain ⟨⟨keyword, v⟩, among, written⟩ := Outcome.exists_of_mem_mapM h member
  refine plain_pagingLine ?_ written
  have known : keyword = "LIMIT" ∨ keyword = "OFFSET" := by
    grind
  rcases known with rfl | rfl <;> decide

-----------------------------------------------------------------------------------------
-- Statements
-----------------------------------------------------------------------------------------

variable {s : Statement String} {p : Parts}

theorem spellAll_order (quotes : Quotes d) (worded : s.Worded) (h : IsWritten d s p)
    : SpellAll (if s.mode = .count then [] else s.orderBy.flatMap Order.names) p.order := by
  have order := h.order
  split at order
  next counts =>
    rw [Except.ok.injEq] at order
    rw [if_pos counts, ← order]
    exact .nil
  next rows =>
    rw [if_neg rows]
    exact spellAll_of_mapM order fun o member text =>
      spells_orderItem quotes (worded.orders o member)

theorem spellAll_paging (h : IsWritten d s p)
    : SpellAll [] (p.paging.map fun line => [.text line]) := by
  have plain : ∀ line ∈ p.paging, Plain line := by
    have paging := h.paging
    split at paging
    · rw [Except.ok.injEq] at paging
      simp [← paging]
    · cases found : d.paging s.limit s.offset with
      | error fault =>
          rw [found] at paging
          cases paging
      | ok lines =>
          rw [found] at paging
          cases paging
          exact fun line => plain_paging found
  generalize p.paging = lines at plain
  induction lines with
  | nil => exact .nil
  | cons line rest ih =>
      exact .cons (spells_text (plain line (List.mem_cons_self ..)))
        (ih fun other member => plain other (List.mem_cons_of_mem _ member))

/-- A statement is written with its names from left to right, and all else in words of the
language.
-/
theorem spells_ofStatement (quotes : Quotes d) (worded : s.Worded) (h : ofStatement d s = .ok sql)
    : Spells (s.writtenNames d) sql := by
  obtain ⟨lines, written, rfl⟩ := Outcome.map_eq_ok.mp h
  obtain ⟨p, parts, rfl⟩ := exists_parts written
  have select := spells_select quotes worded parts.select
  have table := (spells_source parts.table).behind (s := "FROM ") (by decide)
  have joins := spellAll_of_mapM parts.joins fun j _ text => spells_joinClause quotes
  have conditions := spellAll_of_mapM parts.conditions fun c _ text => spells_condition quotes
  have groups := spellAll_of_mapM parts.groups fun g member text =>
    spells_truncated quotes (worded.groups g member)
  have having := spellAll_of_mapM parts.having fun predicate _ text => spells_having quotes
  have order := spellAll_order quotes worded parts
  have all := (((((SpellAll.cons select (.cons table joins)).append
    (conditions.clause "WHERE " " AND " (by decide) (by decide))).append
    (groups.clause "GROUP BY " ", " (by decide) (by decide))).append
    (having.clause "HAVING " " AND " (by decide) (by decide))).append
    (order.clause "ORDER BY " ", " (by decide) (by decide))).append (spellAll_paging parts)
  have whole := all.join (s := "\n") (by decide)
  simpa only [writtenNames, Parts.lines, List.append_assoc, List.cons_append, List.append_nil]
    using whole

end Sql

end Polystore
