import Polystore.Proofs.Sql.Predicates

/-! Parameters in written statements. A statement has the parameters of its predicates, those of
its joins in front of its own and these in front of those on aggregates; each predicate has its own
mark in the text, and the marks are numbered from left to right.
-/

namespace Polystore

/-- The mark of a parameter, given how many are in front of it: numbered from one in the dialect
of Postgres, and a question mark in all others.
-/
def Dialect.mark (d : Dialect) (before : Nat) : String :=
  if d.name = "postgres" then "$" ++ toString (before + 1) else "?"

namespace Statement

/-- The predicates of a statement: those of its joins, its own, and those on aggregates. -/
def predicates (s : Statement String) : List Predicate :=
  (s.joins.flatMap (·.conditions)).map .condition ++ s.conditions.map .condition
    ++ s.having.map .having

end Statement

namespace Sql

open Statement

variable {d : Dialect}

-----------------------------------------------------------------------------------------
-- Texts within texts
-----------------------------------------------------------------------------------------

/-- A text in which other texts stand in order, with no parameters but theirs. -/
inductive Woven : List Sql → Sql → Prop where
  | last {gap : Sql} : params gap = [] → Woven [] gap
  | next {gap text : Sql} {texts : List Sql} {rest : Sql}
    : params gap = [] → Woven texts rest → Woven (text :: texts) (gap ++ (text ++ rest))

/-- Woven texts bring their parameters with them, in order. -/
theorem Woven.params_eq {texts : List Sql} {sql : Sql} (h : Woven texts sql)
    : params sql = texts.flatMap params := by
  induction h with
  | last plain => exact plain
  | next plain _ ih => simp [plain, ih]

theorem Woven.behind {texts : List Sql} {gap sql : Sql} (plain : params gap = [])
    (h : Woven texts sql)
    : Woven texts (gap ++ sql) := by
  cases h with
  | last others => exact .last (by simp [plain, others])
  | next others rest =>
      rw [← List.append_assoc]
      exact .next (by simp [plain, others]) rest

theorem Woven.text {texts : List Sql} {sql : Sql} (s : String) (h : Woven texts sql)
    : Woven texts (.text s :: sql) :=
  h.behind (rfl : params [.text s] = [])

theorem Woven.append {texts others : List Sql} {a b : Sql} (ha : Woven texts a)
    (hb : Woven others b)
    : Woven (texts ++ others) (a ++ b) := by
  induction ha with
  | last plain => exact hb.behind plain
  | next plain _ ih =>
      rw [List.append_assoc, List.append_assoc]
      exact .next plain ih

theorem Woven.single (text : Sql) : Woven [text] text := by
  have woven : Woven [text] ([] ++ (text ++ [])) := .next rfl (.last rfl)
  simpa using woven

/-- Lines in which some texts stand in order, with no parameters but theirs. -/
inductive WovenAll : List Sql → List Sql → Prop where
  | nil : WovenAll [] []
  | cons {first rest : List Sql} {line : Sql} {lines : List Sql}
    : Woven first line → WovenAll rest lines → WovenAll (first ++ rest) (line :: lines)

theorem WovenAll.append {first second lines others : List Sql} (h : WovenAll first lines)
    (h' : WovenAll second others)
    : WovenAll (first ++ second) (lines ++ others) := by
  induction h with
  | nil => exact h'
  | cons head _ ih =>
      rw [List.append_assoc]
      exact .cons head ih

/-- Joined lines hold what is woven into each of them, by induction on the lines. -/
theorem WovenAll.join {texts lines : List Sql} (h : WovenAll texts lines) (separator : String)
    : Woven texts (Sql.join separator lines) := by
  induction h with
  | nil => exact .last rfl
  | cons head tail ih =>
      cases tail with
      | nil => simpa [Sql.join] using head
      | cons _ _ => exact head.append (ih.text separator)

/-- A clause holds what its items hold. -/
theorem WovenAll.clause {texts items : List Sql} (h : WovenAll texts items)
    (keyword separator : String)
    : WovenAll texts (Sql.clause keyword separator items) := by
  cases h with
  | nil => exact .nil
  | cons head tail =>
      rw [← List.append_nil (_ ++ _)]
      exact .cons (((WovenAll.cons head tail).join separator).text keyword) .nil

/-- Texts stand in the lines that they are, by induction on the texts. -/
theorem wovenAll_self (texts : List Sql) : WovenAll texts texts := by
  induction texts with
  | nil => exact .nil
  | cons text _ ih => exact .cons (.single text) ih

/-- Lines without parameters hold nothing, by induction on the lines. -/
theorem wovenAll_plain {lines : List Sql} (plain : ∀ line ∈ lines, params line = [])
    : WovenAll [] lines := by
  induction lines with
  | nil => exact .nil
  | cons line rest ih =>
      exact .cons (.last (plain line (List.mem_cons_self ..)))
        (ih fun other member => plain other (List.mem_cons_of_mem _ member))

-----------------------------------------------------------------------------------------
-- Texts without parameters
-----------------------------------------------------------------------------------------

theorem params_truncated {c : ColumnName String} {granularity : Option (Named Granularity)}
    {sql : Sql} (h : truncated d c granularity = .ok sql)
    : params sql = [] := by
  simp only [truncated, column_eq, Outcome.ok_bind] at h
  split at h
  · cases h
    rfl
  · obtain ⟨function, around⟩ := exists_truncation h
    rw [around] at h
    cases h
    rfl

theorem params_labelled {label : String} {sql labelledSql : Sql} (plain : params sql = [])
    (h : labelled label sql = .ok labelledSql)
    : params labelledSql = [] := by
  cases h
  simp [plain]

theorem params_source {t : TableName String} {sql : Sql} (h : source d t = .ok sql)
    : params sql = [] := by
  obtain ⟨table, named, h⟩ := Outcome.bind_eq_ok.mp h
  refine params_labelled ?_ h
  unfold Dialect.table at named
  split at named
  · split at named <;> cases named
    rfl
  · cases named
    rfl

theorem params_select {s : Statement String} {sql : Sql} (h : select d s = .ok sql)
    : params sql = [] := by
  obtain ⟨items, listed, h⟩ := Outcome.bind_eq_ok.mp h
  have plain : ∀ item ∈ items, params item = [] := by
    unfold selectItems at listed
    split at listed
    · cases listed
      simp
    · split at listed
      · obtain ⟨groups, hgroups, listed⟩ := Outcome.bind_eq_ok.mp listed
        obtain ⟨aggregates, haggregates, listed⟩ := Outcome.bind_eq_ok.mp listed
        cases listed
        intro item member
        rcases List.mem_append.mp member with group | aggregate
        · obtain ⟨g, _, h⟩ := Outcome.exists_of_mem_mapM hgroups group
          obtain ⟨column, written, h⟩ := Outcome.bind_eq_ok.mp h
          exact params_labelled (params_truncated written) h
        · obtain ⟨a, _, h⟩ := Outcome.exists_of_mem_mapM haggregates aggregate
          obtain ⟨column, written, h⟩ := Outcome.bind_eq_ok.mp h
          exact params_labelled (params_aggregate written) h
      · intro item member
        obtain ⟨c, _, h⟩ := Outcome.exists_of_mem_mapM listed member
        obtain ⟨column, written, h⟩ := Outcome.bind_eq_ok.mp h
        exact params_labelled (params_column written) h
  cases items with
  | nil => cases h
  | cons first rest =>
      cases h
      exact ((wovenAll_plain plain).join ", ").params_eq

theorem params_orderItem {o : Order String} {sql : Sql} (h : orderItem d o = .ok sql)
    : params sql = [] := by
  rw [orderItem_eq] at h
  obtain ⟨key, written, h⟩ := Outcome.bind_eq_ok.mp h
  obtain ⟨word, _, h⟩ := Outcome.bind_eq_ok.mp h
  cases h
  have plain : params key = [] := by
    unfold orderKey at written
    split at written
    · cases written
      rfl
    · exact params_truncated written
    · cases written
  simp [plain]

-----------------------------------------------------------------------------------------
-- Predicates in statements
-----------------------------------------------------------------------------------------

/-- Conditions are written as predicates. -/
theorem isPredicate_of_conditions (shippedDialect : d ∈ shipped)
    {conditions : List (Condition (ColumnName String))} {texts : List Sql}
    (h : conditions.mapM (condition d) = .ok texts)
    : List.Forall₂ (IsPredicate d) (conditions.map .condition) texts := by
  rw [List.forall₂_map_left_iff]
  exact (isFilter_of_conditions shippedDialect h).imp fun _ _ is => is.predicate

/-- The conditions of a join are the predicates in its clause. -/
theorem woven_joinClause {j : Statement.Join String} {text : Sql}
    (h : joinClause d j = .ok text)
    : ∃ conditions, j.conditions.mapM (condition d) = .ok conditions ∧ Woven conditions text := by
  simp only [joinClause, column_eq, Outcome.ok_bind] at h
  obtain ⟨conditions, written, h⟩ := Outcome.bind_eq_ok.mp h
  obtain ⟨table, named, h⟩ := Outcome.bind_eq_ok.mp h
  cases h
  refine ⟨conditions, written, ?_⟩
  have link : Woven [] ([.name j.left.table, .text ".", .name j.left.physicalName]
      ++ .text " = " :: [.name j.right.table, .text ".", .name j.right.physicalName]) :=
    .last rfl
  have on := (WovenAll.cons link (wovenAll_self conditions)).join " AND "
  exact .text _ ((on.text " ON ").behind (params_source named))

/-- The predicates of joins are woven into their clauses, by induction on the joins. -/
theorem wovenAll_joins (shippedDialect : d ∈ shipped) {joins : List (Statement.Join String)}
    {lines : List Sql} (h : joins.mapM (joinClause d) = .ok lines)
    : ∃ texts,
        WovenAll texts lines
        ∧ List.Forall₂ (IsPredicate d) ((joins.flatMap (·.conditions)).map .condition) texts := by
  have aligned := Outcome.mapM_eq_ok.mp h
  clear h
  induction aligned with
  | nil => exact ⟨[], .nil, .nil⟩
  | cons head _ ih =>
      obtain ⟨conditions, written, woven⟩ := woven_joinClause head
      obtain ⟨texts, rest, predicates⟩ := ih
      refine ⟨conditions ++ texts, .cons woven rest, ?_⟩
      rw [List.flatMap_cons, List.map_append]
      exact List.rel_append (isPredicate_of_conditions shippedDialect written) predicates

theorem params_groups {s : Statement String} {p : Parts} (h : IsWritten d s p)
    : ∀ item ∈ p.groups, params item = [] := by
  intro item member
  obtain ⟨g, _, written⟩ := Outcome.exists_of_mem_mapM h.groups member
  exact params_truncated written

theorem params_order {s : Statement String} {p : Parts} (h : IsWritten d s p)
    : ∀ item ∈ p.order, params item = [] := by
  have order := h.order
  split at order
  · rw [Except.ok.injEq] at order
    simp [← order]
  · intro item member
    obtain ⟨o, _, written⟩ := Outcome.exists_of_mem_mapM order member
    exact params_orderItem written

/-- A statement is written with its predicates in order, and no parameters but theirs. -/
theorem exists_woven (shippedDialect : d ∈ shipped) {s : Statement String} {sql : Sql}
    (h : ofStatement d s = .ok sql)
    : ∃ texts, List.Forall₂ (IsPredicate d) s.predicates texts ∧ Woven texts sql := by
  obtain ⟨lines, written, rfl⟩ := Outcome.map_eq_ok.mp h
  obtain ⟨p, parts, rfl⟩ := exists_parts written
  obtain ⟨joined, joins, predicates⟩ := wovenAll_joins shippedDialect parts.joins
  have groups : WovenAll [] p.groups := wovenAll_plain (params_groups parts)
  have order : WovenAll [] p.order := wovenAll_plain (params_order parts)
  have paging : WovenAll [] (p.paging.map fun line => [.text line]) := wovenAll_plain (by simp)
  have select : Woven [] p.select := .last (params_select parts.select)
  have table : Woven [] p.table := .last (params_source parts.table)
  have all := (((((WovenAll.cons select (.cons (table.text "FROM ") joins)).append
    ((wovenAll_self p.conditions).clause "WHERE " " AND ")).append
    (groups.clause "GROUP BY " ", ")).append
    ((wovenAll_self p.having).clause "HAVING " " AND ")).append
    (order.clause "ORDER BY " ", ")).append paging
  have whole := all.join "\n"
  simp only [List.nil_append, List.append_nil] at whole
  refine ⟨_, ?_, whole⟩
  refine List.rel_append (List.rel_append predicates
    (isPredicate_of_conditions shippedDialect parts.conditions)) ?_
  rw [List.forall₂_map_left_iff]
  exact (Outcome.mapM_eq_ok.mp parts.having).imp fun _ _ => isPredicate_of_having

/-- The parameters of a text are those of the predicates that it is written for. -/
theorem params_eq_of_woven {predicates : List Predicate} {texts : List Sql} {sql : Sql}
    (written : List.Forall₂ (IsPredicate d) predicates texts) (woven : Woven texts sql)
    : params sql = predicates.filterMap Predicate.parameter? := by
  rw [woven.params_eq]
  clear woven
  induction written with
  | nil => rfl
  | cons head _ ih =>
      rw [List.flatMap_cons, List.filterMap_cons, head.params, ih]
      split <;> simp [*]

-----------------------------------------------------------------------------------------
-- Marks of parameters
-----------------------------------------------------------------------------------------

/-- The text between the parameters of a text, the names quoted. -/
def segments (quote : String → String) : Sql → String × List String
  | [] => ("", [])
  | .text s :: rest => (s ++ (segments quote rest).1, (segments quote rest).2)
  | .name s :: rest => (quote s ++ (segments quote rest).1, (segments quote rest).2)
  | .slot _ :: rest => ("", (segments quote rest).1 :: (segments quote rest).2)

/-- A text with marks and more texts behind it, in turns. -/
def interleave (first : String) : List String → List String → String
  | mark :: marks, next :: rest => first ++ mark ++ interleave next marks rest
  | _, _ => first

theorem placeholder_eq (shippedDialect : d ∈ shipped) (before : Nat)
    : d.placeholder (toString (before + 1)) = d.mark before := by
  simp only [shipped, List.mem_cons, List.not_mem_nil, or_false] at shippedDialect
  rcases shippedDialect with rfl | rfl | rfl | rfl <;> rfl

/-- What stands in front of a text stands in front of the first part of it. -/
theorem interleave_append (front first : String) (marks rest : List String)
    : interleave (front ++ first) marks rest = front ++ interleave first marks rest := by
  cases marks with
  | nil => rfl
  | cons mark marks =>
      cases rest with
      | nil => rfl
      | cons next rest => simp only [interleave, String.append_assoc]

/-- Pieces are written as the texts between their parameters with the marks in their places, by
induction on the pieces.
-/
theorem renderFrom_eq (shippedDialect : d ∈ shipped) (before : Nat) (sql : Sql)
    : sql.renderFrom d.quote d.placeholder (before + 1)
      = interleave (segments d.quote sql).1
          ((List.range' before (params sql).length).map d.mark) (segments d.quote sql).2 := by
  induction sql generalizing before with
  | nil => rfl
  | cons piece rest ih =>
      cases piece with
      | text s => rw [renderFrom, ih, params_text, segments, interleave_append]
      | name s => rw [renderFrom, ih, params_name, segments, interleave_append]
      | slot v =>
          rw [renderFrom, placeholder_eq shippedDialect, ih, params_slot, List.length_cons,
            List.range'_succ, List.map_cons, segments, interleave, String.empty_append]

-----------------------------------------------------------------------------------------
-- Parameters of statements
-----------------------------------------------------------------------------------------

/-- Written SQL whose parameters are those of the predicates of its statement. Each predicate has
its own in its own text, the texts stand in the order of the predicates, and the marks are those
of the dialect from left to right.
-/
structure LinesUp (d : Dialect) (s : Statement String) (compiled : Compiled) : Prop where
  params : compiled.params = s.predicates.filterMap Predicate.parameter?
  placed
    : ∃ sql texts,
        ofStatement d s = .ok sql
        ∧ List.Forall₂ (IsPredicate d) s.predicates texts
        ∧ Woven texts sql
        ∧ compiled.sql
          = interleave (segments d.quote sql).1
              ((List.range compiled.params.length).map d.mark) (segments d.quote sql).2

/-- The parameters of a statement line up with their marks in every dialect, and are the same in
all dialects that have SQL for it.
-/
theorem parameters_line_up (shippedDialect : d ∈ shipped) {s : Statement String}
    {compiled : Compiled} (written : Compiled.ofStatement d s = .ok compiled)
    : LinesUp d s compiled
      ∧ ∀ other ∈ shipped, ∀ otherwise,
          Compiled.ofStatement other s = .ok otherwise → otherwise.params = compiled.params := by
  have params {d : Dialect} (shippedDialect : d ∈ shipped) {compiled : Compiled}
      (written : Compiled.ofStatement d s = .ok compiled)
      : compiled.params = s.predicates.filterMap Predicate.parameter? := by
    obtain ⟨sql, made, h⟩ := Outcome.bind_eq_ok.mp written
    cases h
    obtain ⟨texts, predicates, woven⟩ := exists_woven shippedDialect made
    exact params_eq_of_woven predicates woven
  refine ⟨⟨params shippedDialect written, ?_⟩, fun other member otherwise h => ?_⟩
  · obtain ⟨sql, made, h⟩ := Outcome.bind_eq_ok.mp written
    cases h
    obtain ⟨texts, predicates, woven⟩ := exists_woven shippedDialect made
    refine ⟨sql, texts, made, predicates, woven, ?_⟩
    rw [Dialect.render, renderFrom_eq shippedDialect, List.range_eq_range']
  · rw [params member h, params shippedDialect written]

end Sql

namespace Sample

/-- What is earned with each user of a tenant, from some orders above an amount. -/
def revenue : Statement String where
  strategy := "direct"
  target := "main"
  engine := "postgres"
  table := ⟨"orders", "shop_orders", none, none⟩
  joins := [
    ⟨⟨"users", "app_users", none, none⟩, .left, ⟨"orders", "user_id", "user", .int⟩,
      ⟨"users", "user_id", "users.id", .int⟩,
      [⟨⟨"users", "tenant_id", "users.tenant", .string⟩, .known .equal, .text "acme", .rowRule⟩]⟩]
  columns := []
  conditions := [
    ⟨⟨"orders", "order_id", "id", .int⟩, .known .among, .list [.int 1, .int 2], .ids⟩,
    ⟨⟨"orders", "amount", "total", .decimal⟩, .known .greater, .int 10, .caller⟩,
    ⟨⟨"orders", "paid", "paid", .bool⟩, .known .equal, .bool true, .caller⟩,
    ⟨⟨"orders", "note", "note", .string⟩, .known .isNull, .null, .caller⟩]
  groupBy := [⟨⟨"users", "full_name", "users.name", .string⟩, none⟩]
  aggregates := [⟨.known .sum, some ⟨"orders", "amount", "total", .decimal⟩, "revenue"⟩]
  having := [
    ⟨⟨.known .sum, some ⟨"orders", "amount", "total", .decimal⟩, "revenue"⟩, .known .atLeast,
      .int 100⟩]
  orderBy := []
  limit := .null
  offset := .null
  mode := .rows

/-- The tenant is compared in the join and the ids in front of the amounts, whether the marks are
numbered or not; the truth value and the null check have none.
-/
theorem revenue_lines_up
    : ∃ numbered marked,
        Compiled.ofStatement .postgres revenue = .ok numbered
        ∧ Compiled.ofStatement .clickhouse revenue = .ok marked
        ∧ numbered.params = [.text "acme", .list [.int 1, .int 2], .int 10, .int 100]
        ∧ marked.params = numbered.params
        ∧ Sql.LinesUp .postgres revenue numbered
        ∧ Sql.LinesUp .clickhouse revenue marked := by
  have written : ∃ numbered, Compiled.ofStatement .postgres revenue = .ok numbered := ⟨_, rfl⟩
  have written' : ∃ marked, Compiled.ofStatement .clickhouse revenue = .ok marked := ⟨_, rfl⟩
  obtain ⟨numbered, written⟩ := written
  obtain ⟨marked, written'⟩ := written'
  obtain ⟨lines, same⟩ := Sql.parameters_line_up (by simp [Sql.shipped]) written
  obtain ⟨lines', _⟩ := Sql.parameters_line_up (by simp [Sql.shipped]) written'
  exact ⟨numbered, marked, written, written', lines.params,
    same _ (by simp [Sql.shipped]) _ written', lines, lines'⟩

end Sample

end Polystore
