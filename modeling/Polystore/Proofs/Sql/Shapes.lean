import Polystore.Proofs.Sql.Parameters
import Polystore.Proofs.Sql.Spelling

/-! Shapes of statements: what is left of them without their names and the values that they compare
with. Statements of one shape are written in the same words, so that no name and no value can become
a word of the statement that it is part of.
-/

namespace Polystore

-----------------------------------------------------------------------------------------
-- Shapes
-----------------------------------------------------------------------------------------

namespace Statement

/-- What shows of a comparison: its operator, and the truth value that it compares with if it does.
Of membership it shows whether there is anything to be among, as nothing is written without items.
-/
structure TestShape where
  op : Named Operator
  shown : Option Bool

def conditionShape (c : Condition (ColumnName String)) : TestShape where
  op := c.op
  shown :=
    match c.op with
    | .known .isNull => none
    | .known .isNotNull => none
    | .known .among => some c.value.isPresent
    | _ => c.value.truth?

/-- A function, and whether it is of a column. -/
structure AggregateShape where
  fn : Named AggregateFn
  ofColumn : Bool

def Aggregate.shape (a : Aggregate String) : AggregateShape := ⟨a.fn, a.column.isSome⟩

structure HavingShape where
  aggregate : AggregateShape
  test : TestShape

def Having.shape (h : Having String) : HavingShape :=
  ⟨h.aggregate.shape, ⟨h.op, h.value.truth?⟩⟩

structure JoinShape where
  kind : JoinKind
  conditions : List TestShape

def Join.shape (j : Join String) : JoinShape := ⟨j.kind, j.conditions.map conditionShape⟩

/-- A direction, and for an order by a column the granularity of it. -/
structure OrderShape where
  direction : Named Direction
  granularity : Option (Option (Named Granularity))

def Order.shape (o : Order String) : OrderShape where
  direction := o.direction
  granularity :=
    match o.key with
    | .column _ granularity => some granularity
    | _ => none

/-- What a statement is made of, apart from names and values. -/
structure Shape where
  joins : List JoinShape
  columns : Nat
  conditions : List TestShape
  groupBy : List (Option (Named Granularity))
  aggregates : List AggregateShape
  having : List HavingShape
  orderBy : List OrderShape
  limit : Value
  offset : Value
  mode : Mode

def shape (s : Statement String) : Shape where
  joins := s.joins.map Join.shape
  columns := s.columns.length
  conditions := s.conditions.map conditionShape
  groupBy := s.groupBy.map (·.granularity)
  aggregates := s.aggregates.map Aggregate.shape
  having := s.having.map Having.shape
  orderBy := s.orderBy.map Order.shape
  limit := s.limit
  offset := s.offset
  mode := s.mode

end Statement

-----------------------------------------------------------------------------------------
-- Words of texts
-----------------------------------------------------------------------------------------

/-- A piece without its name or value. -/
def Piece.bare : Piece → Piece
  | .text s => .text s
  | .name _ => .name ""
  | .slot _ => .slot .null

namespace Sql

open Statement

/-- The words of a text, with the places of names and values among them. -/
def bare (sql : Sql) : Sql := sql.map Piece.bare

@[simp]
theorem bare_nil : bare [] = [] := rfl

@[simp]
theorem bare_text (s : String) (sql : Sql) : bare (.text s :: sql) = .text s :: bare sql := rfl

@[simp]
theorem bare_name (s : String) (sql : Sql) : bare (.name s :: sql) = .name "" :: bare sql := rfl

@[simp]
theorem bare_slot (v : Value) (sql : Sql) : bare (.slot v :: sql) = .slot .null :: bare sql := rfl

@[simp]
theorem bare_append (a b : Sql) : bare (a ++ b) = bare a ++ bare b := List.map_append

/-- The words of joined texts are their words with the same separator, by induction on them. -/
theorem bare_join (s : String) (texts : List Sql)
    : bare (join s texts) = join s (texts.map bare) := by
  induction texts with
  | nil => rfl
  | cons text rest ih =>
      cases rest with
      | nil => rfl
      | cons _ _ =>
          rw [join, bare_append, bare_text, ih]
          · rfl
          · simp

theorem bare_clause (keyword s : String) (items : List Sql)
    : (clause keyword s items).map bare = clause keyword s (items.map bare) := by
  cases items with
  | nil => rfl
  | cons item rest =>
      exact congrArg (fun text => [.text keyword :: text]) (bare_join s (item :: rest))

/-- Texts have the same characters between their names when their words are the same, by induction
on the pieces.
-/
theorem map_char_tokensFrom (placeholder : String → String) (n : Nat) (sql : Sql)
    : (tokensFrom placeholder n (bare sql)).map Token.char?
      = (tokensFrom placeholder n sql).map Token.char? := by
  induction sql generalizing n with
  | nil => rfl
  | cons piece rest ih => cases piece <;> simp [tokensFrom, ih, Token.char?]

-----------------------------------------------------------------------------------------
-- Words of columns, aggregates and tables
-----------------------------------------------------------------------------------------

/-- A way of writing whose words depend on nothing but the shape of what is written. -/
structure ByShape {α σ : Type} (shape : α → σ) (write : α → Written) : Prop where
  words
    : ∀ {x y : α}, shape x = shape y → ∀ {a b : Sql}, write x = .ok a → write y = .ok b
        → bare a = bare b

/-- Items of one shape are written in the same words, by induction on the first ones. -/
theorem ByShape.mapM {α σ : Type} {shape : α → σ} {write : α → Written}
    (byShape : ByShape shape write) {items others : List α}
    (same : items.map shape = others.map shape) {texts otherTexts : List Sql}
    (h : items.mapM write = .ok texts) (h' : others.mapM write = .ok otherTexts)
    : texts.map bare = otherTexts.map bare := by
  have aligned := Outcome.mapM_eq_ok.mp h
  have aligned' := Outcome.mapM_eq_ok.mp h'
  clear h h'
  induction aligned generalizing others otherTexts with
  | nil =>
      cases aligned' with
      | nil => rfl
      | cons _ _ => simp at same
  | cons head _ ih =>
      cases aligned' with
      | nil => simp at same
      | cons head' tail' =>
          simp only [List.map_cons, List.cons.injEq] at same ⊢
          exact ⟨byShape.words same.1 head head', ih same.2 tail'⟩

variable {d : Dialect}

theorem byShape_column : ByShape (fun _ : ColumnName String => ()) column := by
  refine ⟨fun _ a b h h' => ?_⟩
  cases h
  cases h'
  rfl

theorem byShape_group (d : Dialect)
    : ByShape Statement.Group.granularity fun g : Statement.Group String =>
        truncated d g.column g.granularity := by
  constructor
  intro ⟨c, granularity⟩ ⟨c', granularity'⟩ same a b h h'
  obtain rfl : granularity = granularity' := same
  simp only [truncated, column_eq, Outcome.ok_bind] at h h'
  split at h
  next =>
    cases h
    cases h'
    rfl
  next word =>
    obtain ⟨function, around⟩ := exists_truncation h
    rw [around] at h
    dsimp only at h'
    rw [around] at h'
    cases h
    cases h'
    rfl

theorem byShape_aggregate : ByShape Aggregate.shape aggregate := by
  constructor
  intro ⟨fn, column, label⟩ ⟨fn', column', label'⟩ same a b h h'
  simp only [Aggregate.shape, AggregateShape.mk.injEq] at same
  obtain ⟨rfl, same⟩ := same
  cases column with
  | none =>
      obtain rfl : column' = none := by simpa using same.symm
      obtain rfl : a = b := Except.ok.inj (h.symm.trans h')
      rfl
  | some c =>
      obtain ⟨c', rfl⟩ : ∃ c', column' = some c' :=
        Option.isSome_iff_exists.mp (by simpa using same.symm)
      cases fn with
      | known fn =>
          cases h
          cases h'
          rfl
      | unknown v => cases h

theorem byShape_source (d : Dialect) : ByShape (fun _ : TableName String => ()) (source d) := by
  constructor
  intro t t' _ a b h h'
  obtain ⟨table, named, h⟩ := Outcome.bind_eq_ok.mp h
  obtain ⟨table', named', h'⟩ := Outcome.bind_eq_ok.mp h'
  cases h
  cases h'
  unfold Dialect.table at named named'
  split at named
  next qualified =>
    rw [if_pos qualified] at named'
    split at named <;> cases named
    split at named' <;> cases named'
    rfl
  next bare =>
    rw [if_neg bare] at named'
    cases named
    cases named'
    rfl

-----------------------------------------------------------------------------------------
-- Words of predicates
-----------------------------------------------------------------------------------------

/-- A comparison shows its sign and a truth value, but no other value. -/
theorem bare_compare {left left' sql sql' : Sql} {op : Named Operator} {v w : Value}
    (same : bare left = bare left') (shown : v.truth? = w.truth?)
    (h : compare d left op v = .ok sql) (h' : compare d left' op w = .ok sql')
    : bare sql = bare sql' := by
  obtain ⟨word, signed, rfl⟩ := compare_eq_ok.mp h
  obtain ⟨word', signed', rfl⟩ := compare_eq_ok.mp h'
  obtain rfl : word = word' :=
    Except.ok.inj ((sign_eq_ok.mpr signed).symm.trans (sign_eq_ok.mpr signed'))
  have right : bare [operand d v] = bare [operand d w] := by
    unfold operand
    rw [shown]
    cases w.truth? <;> rfl
  simp [same, right]

theorem bare_membership (shippedDialect : d ∈ shipped) {column column' : Sql}
    (same : bare column = bare column') (items items' : Value)
    : bare (d.membership column [.slot items]) = bare (d.membership column' [.slot items']) := by
  rcases membership_layout shippedDialect with ⟨_, _, layout⟩ | ⟨_, _, _, layout⟩
  all_goals simp [layout, same]

/-- Membership shows whether there is anything to be among. -/
theorem bare_of_member (shippedDialect : d ∈ shipped) {column sql : Sql} {value : Value}
    (h : member d column value = .ok sql)
    : bare sql
      = if value.isPresent then bare (d.membership column [.slot .null]) else [.text "1 = 0"] := by
  unfold member at h
  split at h
  next absent =>
    cases h
    rw [if_neg (by simpa using absent)]
    rfl
  next present =>
    rw [if_pos (by simpa using present)]
    split at h <;> cases h
    exact bare_membership shippedDialect rfl _ _

theorem byShape_condition (shippedDialect : d ∈ shipped)
    : ByShape conditionShape (condition d) := by
  constructor
  intro ⟨c, op, v, source⟩ ⟨c', op', v', source'⟩ same a b h h'
  simp only [conditionShape, TestShape.mk.injEq] at same
  obtain ⟨rfl, shown⟩ := same
  obtain ⟨column, named, h⟩ := Outcome.bind_eq_ok.mp h
  obtain ⟨column', named', h'⟩ := Outcome.bind_eq_ok.mp h'
  have columns : bare column = bare column' := byShape_column.words rfl named named'
  cases op with
  | unknown word => exact bare_compare columns shown h h'
  | known op =>
      cases op with
      | isNull =>
          cases h
          cases h'
          simp [columns]
      | isNotNull =>
          cases h
          cases h'
          simp [columns]
      | among =>
          have present : v.isPresent = v'.isPresent := by simpa using shown
          rw [bare_of_member shippedDialect h, bare_of_member shippedDialect h', present,
            bare_membership shippedDialect columns]
      | _ => exact bare_compare columns shown h h'

theorem byShape_having (d : Dialect) : ByShape Statement.Having.shape (havingItem d) := by
  constructor
  intro ⟨aggregated, op, v⟩ ⟨aggregated', op', v'⟩ same a b h h'
  simp only [Statement.Having.shape, HavingShape.mk.injEq, TestShape.mk.injEq] at same
  obtain ⟨aggregates, rfl, shown⟩ := same
  obtain ⟨left, written, h⟩ := Outcome.bind_eq_ok.mp h
  obtain ⟨left', written', h'⟩ := Outcome.bind_eq_ok.mp h'
  exact bare_compare (byShape_aggregate.words aggregates written written') shown h h'

-----------------------------------------------------------------------------------------
-- Words of clauses
-----------------------------------------------------------------------------------------

/-- What is written under labels has the words of what is written. -/
theorem ByShape.labelled {α σ : Type} {shape : α → σ} {write : α → Written} {label : α → String}
    (byShape : ByShape shape write)
    : ByShape shape fun x => (do Sql.labelled (label x) (← write x)) := by
  constructor
  intro x y same a b h h'
  obtain ⟨sql, written, h⟩ := Outcome.bind_eq_ok.mp h
  obtain ⟨sql', written', h'⟩ := Outcome.bind_eq_ok.mp h'
  cases h
  cases h'
  simp [byShape.words same written written']

theorem byShape_joinClause (shippedDialect : d ∈ shipped)
    : ByShape Statement.Join.shape (joinClause d) := by
  constructor
  intro j j' same a b h h'
  simp only [Statement.Join.shape, JoinShape.mk.injEq] at same
  obtain ⟨kinds, conditions⟩ := same
  obtain ⟨left, onLeft, h⟩ := Outcome.bind_eq_ok.mp h
  obtain ⟨right, onRight, h⟩ := Outcome.bind_eq_ok.mp h
  obtain ⟨texts, written, h⟩ := Outcome.bind_eq_ok.mp h
  obtain ⟨table, named, h⟩ := Outcome.bind_eq_ok.mp h
  obtain ⟨left', onLeft', h'⟩ := Outcome.bind_eq_ok.mp h'
  obtain ⟨right', onRight', h'⟩ := Outcome.bind_eq_ok.mp h'
  obtain ⟨texts', written', h'⟩ := Outcome.bind_eq_ok.mp h'
  obtain ⟨table', named', h'⟩ := Outcome.bind_eq_ok.mp h'
  cases h
  cases h'
  simp [bare_join, kinds, (byShape_source d).words rfl named named',
    byShape_column.words rfl onLeft onLeft', byShape_column.words rfl onRight onRight',
    (byShape_condition shippedDialect).mapM conditions written written']

theorem byShape_orderItem (d : Dialect) : ByShape Order.shape (orderItem d) := by
  constructor
  intro ⟨direction, key⟩ ⟨direction', key'⟩ same a b h h'
  simp only [Order.shape, OrderShape.mk.injEq] at same
  obtain ⟨rfl, granularities⟩ := same
  rw [orderItem_eq] at h h'
  obtain ⟨sql, written, h⟩ := Outcome.bind_eq_ok.mp h
  obtain ⟨word, found, h⟩ := Outcome.bind_eq_ok.mp h
  obtain ⟨sql', written', h'⟩ := Outcome.bind_eq_ok.mp h'
  obtain ⟨word', found', h'⟩ := Outcome.bind_eq_ok.mp h'
  obtain rfl : word = word' := Except.ok.inj (found.symm.trans found')
  cases h
  cases h'
  suffices keys : bare sql = bare sql' by simp [keys]
  cases key with
  | nothing => cases written
  | label name =>
      cases key' with
      | nothing => cases written'
      | column c' granularity => simp at granularities
      | label name' =>
          cases written
          cases written'
          rfl
  | column c granularity =>
      cases key' with
      | nothing => cases written'
      | label name' => simp at granularities
      | column c' granularity' =>
          obtain rfl : granularity = granularity' := by simpa using granularities
          let group (c : ColumnName String) : Statement.Group String := ⟨c, granularity⟩
          have same : (group c).granularity = (group c').granularity := rfl
          exact (byShape_group d).words same written written'

theorem bare_selectItems {s s' : Statement String} (same : s.shape = s'.shape)
    {items items' : List Sql} (h : selectItems d s = .ok items) (h' : selectItems d s' = .ok items')
    : items.map bare = items'.map bare := by
  simp only [Statement.shape, Shape.mk.injEq] at same
  obtain ⟨-, columns, -, groups, aggregates, -, -, -, -, modes⟩ := same
  have grouped : s.groupBy.isEmpty = s'.groupBy.isEmpty := by
    simpa using congrArg List.isEmpty groups
  have aggregated : s.aggregates.isEmpty = s'.aggregates.isEmpty := by
    simpa using congrArg List.isEmpty aggregates
  unfold selectItems at h h'
  rw [modes, grouped, aggregated] at h
  split at h
  next counts =>
    rw [if_pos counts] at h'
    cases h
    cases h'
    rfl
  next rows =>
    rw [if_neg rows] at h'
    split at h
    next some =>
      rw [if_pos some] at h'
      obtain ⟨first, hfirst, h⟩ := Outcome.bind_eq_ok.mp h
      obtain ⟨second, hsecond, h⟩ := Outcome.bind_eq_ok.mp h
      obtain ⟨first', hfirst', h'⟩ := Outcome.bind_eq_ok.mp h'
      obtain ⟨second', hsecond', h'⟩ := Outcome.bind_eq_ok.mp h'
      cases h
      cases h'
      rw [List.map_append, List.map_append, (byShape_group d).labelled.mapM groups hfirst hfirst',
        byShape_aggregate.labelled.mapM aggregates hsecond hsecond']
    next none =>
      rw [if_neg none] at h'
      refine byShape_column.labelled.mapM ?_ h h'
      simpa using columns

-----------------------------------------------------------------------------------------
-- Words of statements
-----------------------------------------------------------------------------------------

theorem byShape_select (d : Dialect) : ByShape Statement.shape (select d) := by
  constructor
  intro s s' same a b h h'
  obtain ⟨items, listed, h⟩ := Outcome.bind_eq_ok.mp h
  obtain ⟨items', listed', h'⟩ := Outcome.bind_eq_ok.mp h'
  have words := bare_selectItems same listed listed'
  cases items with
  | nil => cases h
  | cons first rest =>
      cases items' with
      | nil => cases h'
      | cons first' rest' =>
          cases h
          cases h'
          rw [bare_text, bare_text, bare_join, bare_join, words]

variable {s s' : Statement String} {p p' : Parts}

theorem bare_order (same : s.shape = s'.shape) (h : IsWritten d s p) (h' : IsWritten d s' p')
    : p.order.map bare = p'.order.map bare := by
  simp only [Statement.shape, Shape.mk.injEq] at same
  obtain ⟨-, -, -, -, -, -, orders, -, -, modes⟩ := same
  have order := h.order
  have order' := h'.order
  rw [modes] at order
  split at order
  next counts =>
    rw [if_pos counts] at order'
    rw [Except.ok.injEq] at order order'
    rw [← order, ← order']
  next rows =>
    rw [if_neg rows] at order'
    exact (byShape_orderItem d).mapM orders order order'

theorem paging_eq_of_shape (same : s.shape = s'.shape) (h : IsWritten d s p)
    (h' : IsWritten d s' p')
    : p.paging = p'.paging := by
  simp only [Statement.shape, Shape.mk.injEq] at same
  obtain ⟨-, -, -, -, -, -, -, limits, offsets, modes⟩ := same
  have paging := h.paging
  rw [modes, limits, offsets] at paging
  exact Except.ok.inj (paging.symm.trans h'.paging)

/-- Statements of one shape are written in the same words. -/
theorem byShape_ofStatement (shippedDialect : d ∈ shipped)
    : ByShape Statement.shape (ofStatement d) := by
  constructor
  intro s s' same a b h h'
  obtain ⟨lines, written, rfl⟩ := Outcome.map_eq_ok.mp h
  obtain ⟨p, parts, rfl⟩ := exists_parts written
  obtain ⟨lines', written', rfl⟩ := Outcome.map_eq_ok.mp h'
  obtain ⟨p', parts', rfl⟩ := exists_parts written'
  have select := (byShape_select d).words same parts.select parts'.select
  have table := (byShape_source d).words rfl parts.table parts'.table
  have order := bare_order same parts parts'
  have paging := paging_eq_of_shape same parts parts'
  simp only [Statement.shape, Shape.mk.injEq] at same
  obtain ⟨joins, -, conditions, groups, -, having, -⟩ := same
  have joins := (byShape_joinClause shippedDialect).mapM joins parts.joins parts'.joins
  have conditions := (byShape_condition shippedDialect).mapM conditions parts.conditions
    parts'.conditions
  have groups := (byShape_group d).mapM groups parts.groups parts'.groups
  have having := (byShape_having d).mapM having parts.having parts'.having
  simp only [Parts.lines, bare_join, List.map_append, List.map_cons, bare_clause, bare_text, select,
    table, joins, conditions, groups, having, order, paging]

-----------------------------------------------------------------------------------------
-- Names and words apart
-----------------------------------------------------------------------------------------

/-- Written SQL as the lexer reads it, with the names of its statement from left to right. -/
structure ReadsBack (d : Dialect) (s : Statement String) (sql : String) (tokens : List Token)
    : Prop where
  read : lex sql = some tokens
  named : tokens.filterMap Token.name? = s.writtenNames d

/-- The SQL of a statement of words is read back as its tokens. -/
theorem readsBack_of_ofStatement (quotes : Quotes d) (worded : s.Worded) {sql : Sql}
    (h : ofStatement d s = .ok sql)
    : ReadsBack d s (d.render sql) (tokensFrom d.placeholder 1 sql) := by
  have spells := spells_ofStatement quotes worded h
  constructor
  case read =>
    rw [lex, Dialect.render, quotes.quote]
    exact lexFrom_render quotes.placeholder spells.readable 1
  case named => rw [filterMap_tokensFrom, spells.named]

/-- In a dialect with double quotes every name of a statement is read back as it is, whatever text
it is, and all between the names depends on nothing but the shape of the statement. So no name and
no value can be taken for a word of the language.
-/
theorem names_stay_names (quoting : d = .postgres ∨ d = .trino) {p : Plan}
    (resolved : (Statement.resolve p).result = .ok s) {compiled : Compiled}
    (written : Compiled.ofStatement d s = .ok compiled)
    : ∃ tokens,
        ReadsBack d s compiled.sql tokens
        ∧ ∀ p' s' compiled',
            (Statement.resolve p').result = .ok s'
            → Compiled.ofStatement d s' = .ok compiled'
            → s'.shape = s.shape
            → ∃ tokens',
                ReadsBack d s' compiled'.sql tokens'
                ∧ tokens'.map Token.char? = tokens.map Token.char? := by
  have quotes : Quotes d := by
    rcases quoting with rfl | rfl
    · exact quotes_postgres
    · exact quotes_trino
  have shippedDialect : d ∈ shipped := by
    rcases quoting with rfl | rfl <;> simp [shipped]
  obtain ⟨sql, made, h⟩ := Outcome.bind_eq_ok.mp written
  cases h
  refine ⟨_, readsBack_of_ofStatement quotes (worded_of_resolve resolved) made, ?_⟩
  intro p' s' compiled' resolved' written' same
  obtain ⟨sql', made', h⟩ := Outcome.bind_eq_ok.mp written'
  cases h
  refine ⟨_, readsBack_of_ofStatement quotes (worded_of_resolve resolved') made', ?_⟩
  rw [← map_char_tokensFrom, (byShape_ofStatement shippedDialect).words same made' made,
    map_char_tokensFrom]

end Sql

namespace Sample

/-- The plan for the notes of a table, the greatest first, whose column has a value. -/
def notes (physicalName column value : String) : Plan where
  route := .direct "main"
  engine := some "postgres"
  assignments := [("notes", ⟨.home (table physicalName column), none, none⟩)]
  granted := {
    query := {
      source := "notes"
      columns := ["note"]
      filters := []
      joins := []
      orderBy := [⟨"note", .descending⟩]
      groupBy := []
      aggregations := []
      having := []
      limit := some 5
      offset := none
      byIds := none
      freshness := none
      mode := .rows }
    selection := [⟨"notes", "note", false⟩]
    filters := [⟨⟨"notes", "note", false⟩, .known .equal, .text value, .caller⟩]
    scopes := [("notes", ⟨table physicalName column, ["note"], []⟩)] }
  freshness := .hours
  ids := none
where
  table (physicalName column : String) : Table := {
    id := "n"
    apiName := "notes"
    database := "main"
    physicalName := physicalName
    columns := [⟨"note", column, .string, true, false⟩]
    primaryKey := ["note"]
    relations := [] }

/-- Names that would end the statement stay names, and its words are those of a statement with
harmless names and another value.
-/
theorem notes_names_stay_names
    : ∃ statement statement' compiled compiled' tokens tokens',
        (Statement.resolve (notes "x\"; DROP TABLE users --" "$1\" ?" "' OR 1 = 1")).result
          = .ok statement
        ∧ (Statement.resolve (notes "app_notes" "body" "hello")).result = .ok statement'
        ∧ Compiled.ofStatement .postgres statement = .ok compiled
        ∧ Compiled.ofStatement .postgres statement' = .ok compiled'
        ∧ Sql.lex compiled.sql = some tokens
        ∧ tokens.filterMap Sql.Token.name?
          = ["notes", "$1\" ?", "note", "x\"; DROP TABLE users --", "notes", "notes", "$1\" ?",
            "notes", "$1\" ?"]
        ∧ Sql.lex compiled'.sql = some tokens'
        ∧ tokens'.map Sql.Token.char? = tokens.map Sql.Token.char? := by
  obtain ⟨statement, statement', resolved, resolved', names, same, compiled, written, compiled',
      written'⟩
      : ∃ statement statement',
          (Statement.resolve (notes "x\"; DROP TABLE users --" "$1\" ?" "' OR 1 = 1")).result
            = .ok statement
          ∧ (Statement.resolve (notes "app_notes" "body" "hello")).result = .ok statement'
          ∧ statement.writtenNames .postgres
            = ["notes", "$1\" ?", "note", "x\"; DROP TABLE users --", "notes", "notes", "$1\" ?",
              "notes", "$1\" ?"]
          ∧ statement'.shape = statement.shape
          ∧ ∃ compiled, Compiled.ofStatement .postgres statement = .ok compiled
          ∧ ∃ compiled', Compiled.ofStatement .postgres statement' = .ok compiled' :=
    ⟨_, _, rfl, rfl, rfl, rfl, _, rfl, _, rfl⟩
  obtain ⟨tokens, back, others⟩ := Sql.names_stay_names (.inl rfl) resolved written
  obtain ⟨tokens', back', words⟩ := others _ _ _ resolved' written' same
  exact ⟨statement, statement', compiled, compiled', tokens, tokens', resolved, resolved', written,
    written', back.read, back.named.trans names, back'.read, words⟩

end Sample

end Polystore
