import Polystore.Proofs.Sql.Counting
import Polystore.Proofs.Statement.PhysicalKeys

/-! Select lists and the rows that answer them. Whatever the shape of a statement is, the
expressions that it selects stand under its labels in order, and a row that is keyed by these labels
is left as it is, even where a label is the physical name of another column.
-/

namespace Polystore

namespace Sql

open Statement

-----------------------------------------------------------------------------------------
-- Names behind an AS
-----------------------------------------------------------------------------------------

/-- The names that stand behind an AS. -/
def aliases : Sql → List String
  | .text " AS " :: .name label :: rest => label :: aliases rest
  | _ :: rest => aliases rest
  | [] => []

/-- A text that gives nothing a name. -/
def Unnamed (sql : Sql) : Prop := .text " AS " ∉ sql

/-- A text under a label. -/
def under (sql : Sql) (label : String) : Sql := sql ++ [.text " AS ", .name label]

/-- In front of a text without an AS there are no names to be found, by induction on it. -/
theorem Unnamed.aliases_append {sql : Sql} (unnamed : sql.Unnamed) (rest : Sql)
    : aliases (sql ++ rest) = aliases rest := by
  induction sql with
  | nil => rfl
  | cons piece later ih =>
      have no : piece ≠ .text " AS " := fun same => unnamed (same ▸ List.mem_cons_self)
      have later := ih fun member => unnamed (List.mem_cons_of_mem _ member)
      rw [List.cons_append, aliases, later]
      exact fun _ _ same _ => no same

theorem Unnamed.aliases_under {sql : Sql} (unnamed : sql.Unnamed) (label : String) (rest : Sql)
    : aliases (sql.under label ++ rest) = label :: aliases rest := by
  rw [under, List.append_assoc, unnamed.aliases_append]
  rfl

/-- The names in a list of expressions under labels are the labels, by induction on both. -/
theorem aliases_join_under {expressions : List Sql} {labels : List String}
    (length : expressions.length = labels.length) (unnamed : ∀ e ∈ expressions, e.Unnamed)
    : aliases (join ", " (List.zipWith under expressions labels)) = labels := by
  induction expressions generalizing labels with
  | nil =>
      obtain rfl : labels = [] := List.length_eq_zero_iff.mp length.symm
      rfl
  | cons e rest ih =>
      cases labels with
      | nil => cases length
      | cons label others =>
          have later := ih (Nat.succ.inj length) fun e member =>
            unnamed e (List.mem_cons_of_mem _ member)
          have head := (unnamed e List.mem_cons_self).aliases_under label
          rw [List.zipWith_cons_cons]
          cases more : List.zipWith under rest others with
          | nil =>
              rw [more] at later
              rw [join, ← List.append_nil (e.under label), head, ← later]
              rfl
          | cons next items =>
              rw [more] at later
              have joined : join ", " (e.under label :: next :: items)
                  = e.under label ++ .text ", " :: join ", " (next :: items) := rfl
              rw [joined, head, ← later]
              rfl

-----------------------------------------------------------------------------------------
-- What is selected
-----------------------------------------------------------------------------------------

variable {d : Dialect} {s : Statement String}

/-- What a statement selects, each without its label: the number of its rows, its groups and then
its aggregates, or else its columns.
-/
def expressions (d : Dialect) (s : Statement String) : Except Failure (List Sql) :=
  if s.mode = .count then .ok [[.text "COUNT(*)"]]
  else if !s.groupBy.isEmpty || !s.aggregates.isEmpty then do
    let groups ← s.groupBy.mapM fun g => truncated d g.column g.granularity
    let aggregates ← s.aggregates.mapM aggregate
    return groups ++ aggregates
  else s.columns.mapM column

theorem unnamed_column {c : ColumnName String} {sql : Sql} (h : column c = .ok sql)
    : sql.Unnamed := by
  cases h
  simp [Unnamed]

/-- A truncated column names nothing, whatever the granularity is called. -/
theorem unnamed_truncated {c : ColumnName String} {granularity : Option (Named Granularity)}
    {sql : Sql} (h : truncated d c granularity = .ok sql)
    : sql.Unnamed := by
  simp only [truncated, column_eq, Outcome.ok_bind] at h
  have called {function : String} (other : function ≠ " AS ")
      : Unnamed (.text function :: [.name c.table, .text ".", .name c.physicalName]
          ++ [.text ")"]) := by
    simp [Unnamed, Ne.symm other]
  cases granularity with
  | none => exact unnamed_column h
  | some g =>
      simp only [Dialect.truncation] at h
      -- A function ends with a bracket, or begins as `date_trunc` does.
      split at h
      next name _ _ =>
        cases h
        refine called fun same => ?_
        have letters := congrArg (·.toList.head?) same
        simp [toString] at letters
      next => cases h
      next function _ =>
        split_ifs at h
        split at h <;> cases h
        refine called fun same => ?_
        have letters := congrArg (·.toList.getLast?) same
        simp [toString] at letters

theorem unnamed_aggregate {a : Aggregate String} {sql : Sql} (h : aggregate a = .ok sql)
    : sql.Unnamed := by
  cases aggregateForm_of_aggregate h with
  | rows _ => simp [Unnamed]
  | @ofColumn c fn text _ _ named =>
      cases named
      cases fn <;> simp [Unnamed, aggregateFunction]

/-- No expression of a select list names anything. -/
theorem unnamed_of_mem_expressions {found : List Sql} (h : expressions d s = .ok found)
    : ∀ e ∈ found, e.Unnamed := by
  unfold expressions at h
  intro e member
  split_ifs at h
  · cases h
    obtain rfl := List.mem_singleton.mp member
    simp [Unnamed]
  · obtain ⟨groups, hgroups, h⟩ := Outcome.bind_eq_ok.mp h
    obtain ⟨aggregates, haggregates, h⟩ := Outcome.bind_eq_ok.mp h
    cases h
    rcases List.mem_append.mp member with member | member
    · obtain ⟨g, _, written⟩ := Outcome.exists_of_mem_mapM hgroups member
      exact unnamed_truncated written
    · obtain ⟨a, _, written⟩ := Outcome.exists_of_mem_mapM haggregates member
      exact unnamed_aggregate written
  · obtain ⟨c, _, written⟩ := Outcome.exists_of_mem_mapM h member
    exact unnamed_column written

/-- Items that are written under their labels are what they are written as, each under its label. -/
theorem zipWith_of_mapM_labelled {α : Type} {items : List α} {label : α → String}
    {write : α → Written} {texts : List Sql}
    (h : (items.mapM fun a => do labelled (label a) (← write a)) = .ok texts)
    : ∃ found,
        items.mapM write = .ok found
        ∧ found.length = items.length
        ∧ texts = List.zipWith under found (items.map label) := by
  have aligned := Outcome.mapM_eq_ok.mp h
  clear h
  induction aligned with
  | nil => exact ⟨[], rfl, rfl, rfl⟩
  | @cons a text rest texts here _ ih =>
      obtain ⟨found, later, length, same⟩ := ih
      obtain ⟨sql, written, labelled⟩ := Outcome.bind_eq_ok.mp here
      cases labelled
      refine ⟨sql :: found, ?_, congrArg (· + 1) length, by rw [same]; rfl⟩
      simp only [List.mapM_cons, written, later, Outcome.ok_bind, Outcome.pure_eq]

/-- The select list is made of the expressions of the statement, under its labels in order. -/
theorem exists_expressions {items : List Sql} (h : selectItems d s = .ok items)
    : ∃ found,
        expressions d s = .ok found
        ∧ found.length = s.labels.length
        ∧ items = List.zipWith under found s.labels := by
  unfold selectItems at h
  unfold expressions labels
  split_ifs at h ⊢
  · cases h
    exact ⟨_, rfl, rfl, rfl⟩
  · obtain ⟨groups, hgroups, h⟩ := Outcome.bind_eq_ok.mp h
    obtain ⟨aggregates, haggregates, h⟩ := Outcome.bind_eq_ok.mp h
    cases h
    obtain ⟨first, written, length, rfl⟩ := zipWith_of_mapM_labelled hgroups
    obtain ⟨second, written', length', rfl⟩ := zipWith_of_mapM_labelled haggregates
    refine ⟨first ++ second, ?_, ?_, ?_⟩
    · simp only [written, written', Outcome.ok_bind, Outcome.pure_eq]
    · simp only [List.length_append, List.length_map, length, length']
    · rw [List.zipWith_append]
      rw [length, List.length_map]
  · obtain ⟨found, written, length, same⟩ := zipWith_of_mapM_labelled h
    exact ⟨found, written, length.trans (List.length_map _).symm, same⟩

-----------------------------------------------------------------------------------------
-- How the select list reads
-----------------------------------------------------------------------------------------

theorem render_under (sql : Sql) (label : String)
    : d.render (sql.under label) = d.render sql ++ " AS " ++ d.quote label := by
  simp only [under, Dialect.render, renderFrom_append, renderFrom, String.append_assoc,
    String.append_empty]

/-- A statement reads as its select list and, on a line of its own, its table and what is behind. -/
theorem IsWritten.exists_render {p : Parts} (h : IsWritten d s p)
    : ∃ rest, d.render (join "\n" p.lines) = d.render p.select ++ "\nFROM " ++ rest := by
  have ofTable (table : Sql) (others : List Sql)
      : ∃ rest, d.render (join "\n" ((.text "FROM " :: table) :: others)) = "FROM " ++ rest := by
    cases others <;> exact ⟨_, rfl⟩
  obtain ⟨rest, behind⟩ := ofTable p.table
    (p.joins ++ clause "WHERE " " AND " p.conditions ++ clause "GROUP BY " ", " p.groups
      ++ clause "HAVING " " AND " p.having ++ clause "ORDER BY " ", " p.order
      ++ p.paging.map fun line => [.text line])
  have lines : d.render (join "\n" p.lines) = d.render p.select ++ "\n" ++ ("FROM " ++ rest) := by
    rw [← behind, ← render_join_cons (params_select h.select) (List.cons_ne_nil _ _)]
    simp only [Parts.lines, List.cons_append]
  refine ⟨rest, lines.trans ?_⟩
  simp only [String.append_assoc]
  rfl

/-- Where a select list is written, it names the labels and reads as its expressions under them. -/
theorem exists_render_select {list : Sql} (h : select d s = .ok list)
    : list.aliases = s.labels
      ∧ ∃ found,
          expressions d s = .ok found
          ∧ found.length = s.labels.length
          ∧ d.render list
            = "SELECT "
              ++ ", ".intercalate
                  (List.zipWith (fun e label => d.render e ++ " AS " ++ d.quote label) found
                    s.labels) := by
  have plain := params_select h
  obtain ⟨items, written, h⟩ := Outcome.bind_eq_ok.mp h
  obtain ⟨found, selected, length, same⟩ := exists_expressions written
  split at h
  · cases h
  next =>
    cases h
    have plain : ∀ t ∈ items, params t = [] := by
      rw [params_text, params_join, List.flatMap_eq_nil_iff] at plain
      exact plain
    refine ⟨?_, found, selected, length, ?_⟩
    · rw [same]
      exact aliases_join_under length (unnamed_of_mem_expressions selected)
    · have read : d.render (.text "SELECT " :: join ", " items)
          = "SELECT " ++ d.render (join ", " items) := rfl
      rw [read, render_join ", " plain, same, List.map_zipWith]
      simp only [render_under]

end Sql

-----------------------------------------------------------------------------------------
-- Rows by label
-----------------------------------------------------------------------------------------

namespace Statement

variable {s : Statement String} {row : Row}

/-- A row whose keys are the labels of the result, in any order. -/
structure KeyedByLabels (s : Statement String) (row : Row) : Prop where
  distinct : row.keys.Nodup
  keys : ∀ key, key ∈ row.keys ↔ key ∈ s.labels

/-- A row with a value for every label is restored to these values: what physical names stand for
comes too late for every label.
-/
theorem restore_of_known (known : ∀ label ∈ s.labels, label ∈ row.keys)
    : s.restore row
      = s.labels.eraseDups.map fun label => (label, (row.lookup label).getD .null) := by
  refine List.map_congr_left fun label member => ?_
  have listed := List.mem_eraseDups.mp member
  obtain ⟨value, found⟩ := Entries.lookup_of_mem_keys (known label listed)
  rw [lookup_collected s.labelOf?
      (fun found cell label stands => by rw [stands]) (fun found cell stands => by rw [stands]),
    Entries.lookup_filterMap_lookup row listed, found, Option.some_or]

/-- A row by label is restored as it is, in the order of the labels. -/
theorem KeyedByLabels.restore_perm (keyed : s.KeyedByLabels row) : (s.restore row).Perm row := by
  rw [restore_of_known fun label => (keyed.keys label).mpr]
  have distinct : (s.labels.eraseDups.map fun label => (label, (row.lookup label).getD .null)).Nodup
    := (nodup_eraseDups s.labels).map fun _ _ same => congrArg Prod.fst same
  refine (List.perm_ext_iff_of_nodup distinct keyed.distinct.of_map).mpr fun cell => ?_
  simp only [List.mem_map, List.mem_eraseDups, ← keyed.keys]
  constructor
  · rintro ⟨label, member, rfl⟩
    obtain ⟨value, found⟩ := Entries.lookup_of_mem_keys member
    rw [found]
    exact Entries.mem_of_lookup found
  · intro member
    refine ⟨cell.1, List.mem_map_of_mem member, ?_⟩
    rw [Entries.lookup_of_mem keyed.distinct member, Option.getD_some]

end Statement

/-- Where a statement is written, the names in its select list are its labels, quoted and in order,
each behind the expression that it is for; and a row that is keyed by these labels is restored with
the same values, in the order of the labels.
-/
theorem Sql.select_list_and_rows_agree {d : Dialect} {s : Statement String} {compiled : Compiled}
    (written : Compiled.ofStatement d s = .ok compiled)
    : (∃ list expressions rest,
        Sql.select d s = .ok list
        ∧ list.aliases = s.labels
        ∧ Sql.expressions d s = .ok expressions
        ∧ expressions.length = s.labels.length
        ∧ d.render list
          = "SELECT "
            ++ ", ".intercalate
                (List.zipWith (fun e label => d.render e ++ " AS " ++ d.quote label) expressions
                  s.labels)
        ∧ compiled.sql = d.render list ++ "\nFROM " ++ rest)
      ∧ ∀ row : Row,
          s.KeyedByLabels row
          → (s.restore row).Perm row ∧ (s.restore row).keys = s.labels.eraseDups := by
  refine ⟨?_, fun row keyed => ⟨keyed.restore_perm, s.keys_restore row⟩⟩
  obtain ⟨sql, made, same⟩ := Outcome.bind_eq_ok.mp written
  cases same
  obtain ⟨lines, clauses, rfl⟩ := Outcome.map_eq_ok.mp made
  obtain ⟨p, parts, rfl⟩ := exists_parts clauses
  obtain ⟨aliases, expressions, selected, length, read⟩ := exists_render_select parts.select
  obtain ⟨rest, written⟩ := parts.exists_render
  exact ⟨p.select, expressions, rest, parts.select, aliases, selected, length, read, written⟩

-----------------------------------------------------------------------------------------
-- Labels that are other columns' names
-----------------------------------------------------------------------------------------

namespace Sample

/-- Two columns, each under the physical name of the other. -/
def crossed : Statement String := {
  revenue with
  table := ⟨"sales", "fact_sales", none, none⟩
  joins := []
  columns := [⟨"sales", "total", "net", .decimal⟩, ⟨"sales", "net", "total", .decimal⟩]
  conditions := []
  groupBy := []
  aggregates := []
  having := [] }

/-- An answer by label, in another order and with a value missing. -/
def crossedRow : Row := [("total", .null), ("net", .int 1)]

theorem crossed_select_list_and_row
    : ∃ compiled,
        Compiled.ofStatement .postgres crossed = .ok compiled
        ∧ (∃ list, Sql.select .postgres crossed = .ok list ∧ list.aliases = ["net", "total"])
        ∧ crossed.restore crossedRow = [("net", .int 1), ("total", .null)]
        ∧ (crossed.restore crossedRow).Perm crossedRow := by
  have written : ∃ compiled, Compiled.ofStatement .postgres crossed = .ok compiled := ⟨_, rfl⟩
  obtain ⟨compiled, written⟩ := written
  obtain ⟨⟨list, _, _, selected, aliases, _⟩, rows⟩ := Sql.select_list_and_rows_agree written
  have keyed : crossed.KeyedByLabels crossedRow := by
    refine ⟨by decide, fun key => ?_⟩
    simp [crossedRow, Entries.keys, Statement.labels, crossed, revenue, or_comm]
  exact ⟨compiled, written, ⟨list, selected, aliases⟩, rfl, (rows crossedRow keyed).1⟩

end Sample

end Polystore
