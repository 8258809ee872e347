import Polystore.Proofs.Statement.Naming
import Polystore.Proofs.Statement.Restoring

/-! Rows that have their values by physical name. Every column has its value back where no label is
the key of another column; where one is, the label takes the value of that column, although the row
has its own under another key.
-/

namespace Polystore

namespace Statement

-----------------------------------------------------------------------------------------
-- Rows by physical name
-----------------------------------------------------------------------------------------

/-- A row with a value for each column of a statement under table and physical name, in any order,
and with no other values.
-/
structure PhysicalRow (s : Statement String) (row : Row) : Prop where
  distinct : row.keys.Nodup
  keys : ∀ key, key ∈ row.keys ↔ key ∈ s.columns.map (·.path)

/-- Whether no later column of a statement has the key of a column. -/
def IsLast (s : Statement String) (c : ColumnName String) : Prop :=
  ∃ before after, s.columns = before ++ c :: after ∧ ∀ d ∈ after, d.path ≠ c.path

/-- Columns none of which is labelled by the key of another one. Where columns share a key, as two
columns of one physical name do, all but the last of them are labelled by it.
-/
structure KeysApart (s : Statement String) : Prop where
  labels : ∀ c ∈ s.columns, ∀ other ∈ s.columns, other.path = c.label → c.path = c.label
  last : ∀ c ∈ s.columns, c.path ≠ c.label → s.IsLast c

/-- The value that a row gives to a label: its own, or else that of the first name that stands for
the label.
-/
def valueUnder (s : Statement String) (row : Row) (label : String) : Value :=
  ((row.lookup label).or
    ((row.find? fun cell => s.labelOf? cell.1 == some label).map (·.2))).getD .null

variable {s : Statement String} {row : Row}

/-- Cells whose names stand for labels add what the labels lack, by induction on the cells. -/
theorem lookup_collected (name : String → Option String) {step : Row → String × Value → Row}
    (adds
      : ∀ found cell label, name cell.1 = some label → step found cell = found.putNew label cell.2)
    (skips : ∀ found cell, name cell.1 = none → step found cell = found) (row found : Row)
    (label : String)
    : (row.foldl step found).lookup label
      = (found.lookup label).or
          ((row.find? fun cell => name cell.1 == some label).map (·.2)) := by
  induction row generalizing found with
  | nil => simp
  | cons cell rest ih =>
      rw [List.foldl_cons, ih, List.find?_cons]
      cases stands : name cell.1 with
      | none =>
          rw [skips found cell stands]
          rfl
      | some other =>
          rw [adds found cell other stands, Entries.lookup_putNew, Option.or_assoc]
          by_cases same : other = label
          · subst same
            simp
          · have other' : (some other == some label) = false := by simpa using same
            rw [beq_false_of_ne (Ne.symm same), other', if_neg Bool.false_ne_true, Option.none_or]

/-- A statement for columns gives each label the value that the row gives to it. -/
theorem SelectsColumns.restore_eq (h : s.SelectsColumns) (row : Row)
    : s.restore row = s.columns.map fun c => (c.label, s.valueUnder row c.label) := by
  have distinct : s.labels.Nodup := by
    rw [h.labels_eq]
    exact h.distinct
  rw [restore, eraseDups_of_nodup distinct, h.labels_eq, List.map_map]
  refine List.map_congr_left fun c member => ?_
  have byLabel := Entries.lookup_filterMap_lookup row (List.mem_map_of_mem (f := (·.label)) member)
  refine congrArg (fun value : Option Value => (c.label, value.getD .null)) ?_
  refine (lookup_collected s.labelOf? ?_ ?_ row _ c.label).trans ?_
  · intro found cell label stands
    simp only [stands]
  · intro found cell stands
    simp only [stands]
  · exact congrArg (Option.or · _) byLabel

-----------------------------------------------------------------------------------------
-- The label that a key stands for
-----------------------------------------------------------------------------------------

/-- Each key is that of a last column, by induction on the columns. -/
theorem exists_last_of_path {columns : List (ColumnName String)} {key : String}
    (member : key ∈ columns.map (·.path))
    : ∃ before c after,
        columns = before ++ c :: after ∧ c.path = key ∧ ∀ d ∈ after, d.path ≠ c.path := by
  induction columns with
  | nil => cases member
  | cons c rest ih =>
      by_cases later : key ∈ rest.map (·.path)
      · obtain ⟨before, last, after, rfl, same, none⟩ := ih later
        exact ⟨c :: before, last, after, rfl, same, none⟩
      · obtain rfl := (List.mem_cons.mp member).resolve_right later
        refine ⟨[], c, rest, rfl, rfl, ?_⟩
        exact fun d listed same => later (List.mem_map.mpr ⟨d, listed, same⟩)

theorem lookup_withNames (found : Entries String String) (c : ColumnName String) (key : String)
    : (withNames found c).lookup key
      = if key == c.path then
          some c.label
        else
          (found.lookup key).or (if key == c.physicalName then some c.label else none) := by
  rw [← Entries.lookup_putNew]
  exact Entries.lookup_put ..

/-- What a key stands for stays where no further column has the key, by induction on the columns:
their bare names do not take it away.
-/
theorem lookup_foldl_withNames {columns : List (ColumnName String)} {key label : String}
    (others : ∀ d ∈ columns, d.path ≠ key) {found : Entries String String}
    (known : found.lookup key = some label)
    : (columns.foldl withNames found).lookup key = some label := by
  induction columns generalizing found with
  | nil => exact known
  | cons d rest ih =>
      refine ih (fun e member => others e (List.mem_cons_of_mem _ member)) ?_
      have different : key ≠ d.path := (others d (List.mem_cons_self ..)).symm
      rw [lookup_withNames, beq_false_of_ne different, if_neg Bool.false_ne_true, known,
        Option.some_or]

/-- A key stands for the label of its last column. -/
theorem labelOf?_path (h : s.SelectsColumns) {c : ColumnName String} (isLast : s.IsLast c)
    : s.labelOf? c.path = some c.label := by
  obtain ⟨before, after, split, last⟩ := isLast
  have found : s.labelsByName.lookup c.path = some c.label := by
    rw [labelsByName_eq, resultColumns, h.groupBy, List.map_nil, List.append_nil, split,
      List.foldl_append, List.foldl_cons]
    refine lookup_foldl_withNames last ?_
    rw [lookup_withNames, if_pos (beq_self_eq_true c.path)]
  rw [labelOf?, found]
  rfl

/-- A key stands for the label of a column exactly if the column is the last one of the key. -/
theorem labelOf?_eq_iff (h : s.SelectsColumns) {c : ColumnName String} (listed : c ∈ s.columns)
    {key : String} (member : key ∈ s.columns.map (·.path))
    : s.labelOf? key = some c.label ↔ c.path = key ∧ s.IsLast c := by
  constructor
  · intro stands
    obtain ⟨before, last, after, split, rfl, none⟩ := exists_last_of_path member
    have isLast : s.IsLast last := ⟨before, after, split, none⟩
    rw [labelOf?_path h isLast, Option.some.injEq] at stands
    obtain rfl := List.inj_on_of_nodup_map h.distinct (by simp [split]) listed stands
    exact ⟨rfl, isLast⟩
  · rintro ⟨rfl, isLast⟩
    exact labelOf?_path h isLast

-----------------------------------------------------------------------------------------
-- Values by physical name
-----------------------------------------------------------------------------------------

/-- A label that is no key gets the value of its column if the column is the last of its key, and
otherwise none.
-/
theorem PhysicalRow.valueUnder_of_bare (physical : s.PhysicalRow row) (h : s.SelectsColumns)
    {c : ColumnName String} (listed : c ∈ s.columns) (bare : c.label ∉ s.columns.map (·.path))
    : (s.IsLast c → s.valueUnder row c.label = row.cell c.path)
      ∧ (¬ s.IsLast c → s.valueUnder row c.label = .null) := by
  have absent : row.lookup c.label = none := by
    rw [List.lookup_eq_none_iff]
    intro cell member
    refine bne_iff_ne.mpr fun same => bare ((physical.keys _).mp ?_)
    exact List.mem_map.mpr ⟨cell, member, same.symm⟩
  rw [valueUnder, absent, Option.none_or]
  cases found : row.find? fun cell => s.labelOf? cell.1 == some c.label with
  | none =>
      refine ⟨fun isLast => ?_, fun _ => rfl⟩
      obtain ⟨value, stored⟩ :=
        Entries.lookup_of_mem_keys ((physical.keys c.path).mpr (List.mem_map_of_mem listed))
      have stands := List.find?_eq_none.mp found _ (Entries.mem_of_lookup stored)
      exact absurd (beq_iff_eq.mpr (labelOf?_path h isLast)) stands
  | some cell =>
      have member := List.mem_of_find?_eq_some found
      have key : cell.1 ∈ s.columns.map (·.path) :=
        (physical.keys _).mp (List.mem_map_of_mem member)
      have stands : (s.labelOf? cell.1 == some c.label) = true := by
        simpa using List.find?_some found
      obtain ⟨same, isLast⟩ := (labelOf?_eq_iff h listed key).mp (eq_of_beq stands)
      refine ⟨fun _ => ?_, fun notLast => absurd isLast notLast⟩
      rw [Row.cell, same, Entries.lookup_of_mem physical.distinct member]
      rfl

/-- A row that gives every key itself as its value. -/
def keyedRow (s : Statement String) : Row :=
  (s.columns.map (·.path)).eraseDups.map fun key => (key, .text key)

theorem physicalRow_keyedRow (s : Statement String) : s.PhysicalRow s.keyedRow := by
  have keys : s.keyedRow.keys = (s.columns.map (·.path)).eraseDups := by
    simp [keyedRow, Entries.keys, Function.comp_def]
  refine ⟨?_, fun key => ?_⟩
  · rw [keys]
    exact nodup_eraseDups _
  · rw [keys, List.mem_eraseDups]

theorem lookup_keyedRow {key : String} (member : key ∈ s.columns.map (·.path))
    : s.keyedRow.lookup key = some (.text key) :=
  Entries.lookup_map_self Value.text (List.mem_eraseDups.mpr member)

/-- Every column has its value back from each row by physical name exactly if the keys are apart.
That they have to be shows a row whose values are its keys.
-/
theorem SelectsColumns.restores_iff (h : s.SelectsColumns)
    : (∀ row,
          s.PhysicalRow row
          → s.restore row = s.columns.map fun c => (c.label, row.cell c.path))
      ↔ s.KeysApart := by
  have values (row : Row)
      : s.restore row = (s.columns.map fun c => (c.label, row.cell c.path))
        ↔ ∀ c ∈ s.columns, s.valueUnder row c.label = row.cell c.path := by
    rw [h.restore_eq, List.map_inj_left]
    exact forall₂_congr fun c _ => by rw [Prod.mk.injEq, and_iff_right rfl]
  simp only [values]
  have labelled {row : Row} {key : String} {value : Value} (found : row.lookup key = some value)
      : s.valueUnder row key = value := by
    rw [valueUnder, found]
    rfl
  constructor
  · intro each
    have physical := physicalRow_keyedRow s
    have own (c : ColumnName String) (listed : c ∈ s.columns)
        : s.valueUnder s.keyedRow c.label = .text c.path := by
      rw [each _ physical c listed, Row.cell, lookup_keyedRow (List.mem_map_of_mem listed)]
      rfl
    have labels (c : ColumnName String) (listed : c ∈ s.columns)
        (key : c.label ∈ s.columns.map (·.path))
        : c.path = c.label := by
      have taken := labelled (lookup_keyedRow key)
      rw [own c listed] at taken
      exact Value.text.inj taken
    constructor
    case labels =>
      intro c listed other known same
      exact labels c listed (List.mem_map.mpr ⟨other, known, same⟩)
    case last =>
      intro c listed different
      by_contra notLast
      have none := (physical.valueUnder_of_bare h listed (mt (labels c listed) different)).2 notLast
      rw [own c listed] at none
      cases none
  · intro apart row physical c listed
    by_cases key : c.label ∈ s.columns.map (·.path)
    · obtain ⟨other, known, same⟩ := List.mem_map.mp key
      obtain ⟨value, found⟩ := Entries.lookup_of_mem_keys ((physical.keys _).mpr key)
      rw [labelled found, apart.labels c listed other known same, Row.cell, found]
      rfl
    · have different : c.path ≠ c.label := fun same => key (same ▸ List.mem_map_of_mem listed)
      exact (physical.valueUnder_of_bare h listed key).1 (apart.last c listed different)

-----------------------------------------------------------------------------------------
-- Statements of queries for rows
-----------------------------------------------------------------------------------------

/-- The statement of a query for the values of columns gives each of them back from every row that
has them by physical name, under its label, exactly if no label is the key of another column.
-/
theorem restores_iff_keysApart {c : Catalog} {q : Query} {context : Context} {p : Plan}
    {s : ScopedQuery} {facilities : Facilities} {tolerance : Freshness}
    {statement : Statement String}
    (valid : Validation.issues c q = [])
    (granted : (Access.apply c q context).result = .ok s)
    (planned : (Planning.plan c facilities s context tolerance).result = .ok p)
    (resolved : (resolve p).result = .ok statement)
    (rows : q.mode = .rows) (plain : q.isAggregate = false) (distinct : statement.labels.Nodup)
    : (∀ row,
          statement.PhysicalRow row
          → statement.restore row = statement.columns.map fun c => (c.label, row.cell c.path))
      ↔ statement.KeysApart := by
  have h := resolvable_of_plan valid granted planned
  obtain ⟨engine, _, rfl⟩ := h.eq_named resolved
  obtain ⟨noAggregates, noGroups⟩ : q.aggregations = [] ∧ q.groupBy = [] := by
    simpa [Query.isAggregate] using plain
  have groups : (named c p engine).groupBy = [] := by simp [named, h.query_eq, noGroups]
  have aggregates : (named c p engine).aggregates = [] := by
    simp [named, h.query_eq, noAggregates]
  have mode : (named c p engine).mode = .rows := by rw [named, h.query_eq, rows]
  refine SelectsColumns.restores_iff ⟨mode, groups, aggregates, ?_⟩
  simpa [labels, mode, groups, aggregates] using distinct

end Statement

namespace Sample

/-- Sales, whose net amounts are stored under the name that callers use for what they total. -/
def sales : Table where
  id := "s"
  apiName := "sales"
  database := "main"
  physicalName := "shop_sales"
  columns := [
    ⟨"id", "sale_id", .int, false, true⟩, ⟨"total", "amount", .decimal, true, false⟩,
    ⟨"net", "total", .decimal, true, false⟩]
  primaryKey := ["id"]
  relations := []

def salesDocument : Document :=
  { document with tables := [sales], caches := [], roles := [⟨"clerk", [⟨"s", .all, []⟩]⟩] }

theorem salesDocument_intact : salesDocument.Intact := by decide +kernel

def salesCatalog : Catalog := ⟨salesDocument, salesDocument_intact⟩

/-- Columns of sales, as they are asked for. -/
def salesQuery (columns : List String) : Query :=
  { ordersQuery with
    source := "sales", columns, filters := [], orderBy := [], limit := none, byIds := none }

/-- A sale as the database may give it. -/
def saleRow : Row := [("sales.total", .int 3), ("sales.amount", .int 5)]

theorem physicalRow_saleRow {statement : Statement String}
    (paths : statement.columns.map (·.path) = ["sales.amount", "sales.total"])
    : statement.PhysicalRow saleRow := by
  refine ⟨by decide, fun key => ?_⟩
  rw [paths]
  simp [saleRow, Entries.keys, or_comm]

/-- A total that is asked for with its table gets the net amount, whose key it is labelled by, and
the total of the sale is lost.
-/
theorem total_taken_for_net
    : ∃ s p statement,
        Validation.issues salesCatalog (salesQuery ["sales.total", "net"]) = []
        ∧ (Access.apply salesCatalog (salesQuery ["sales.total", "net"]) context).result = .ok s
        ∧ (Planning.plan salesCatalog facilities s context .hours).result = .ok p
        ∧ (Statement.resolve p).result = .ok statement
        ∧ statement.labels.Nodup
        ∧ (statement.columns.map fun c => (c.table, c.physicalName)).Nodup
        ∧ statement.PhysicalRow saleRow
        ∧ statement.restore saleRow = [("sales.total", .int 3), ("net", .int 3)]
        ∧ (statement.columns.map fun c => (c.label, saleRow.cell c.path))
          = [("sales.total", .int 5), ("net", .int 3)] := by
  obtain ⟨s, p, statement, granted, planned, resolved, labels, columns, restored, own⟩
      : ∃ s p statement,
          (Access.apply salesCatalog (salesQuery ["sales.total", "net"]) context).result = .ok s
          ∧ (Planning.plan salesCatalog facilities s context .hours).result = .ok p
          ∧ (Statement.resolve p).result = .ok statement
          ∧ statement.labels = ["sales.total", "net"]
          ∧ statement.columns
            = [⟨"sales", "amount", "sales.total", .decimal⟩, ⟨"sales", "total", "net", .decimal⟩]
          ∧ statement.restore saleRow = [("sales.total", .int 3), ("net", .int 3)]
          ∧ (statement.columns.map fun c => (c.label, saleRow.cell c.path))
            = [("sales.total", .int 5), ("net", .int 3)] :=
    ⟨_, _, _, rfl, rfl, rfl, rfl, rfl, rfl, rfl⟩
  refine ⟨s, p, statement, rfl, granted, planned, resolved, ?_, ?_, ?_, restored, own⟩
  · rw [labels]
    decide
  · rw [columns]
    decide
  · apply physicalRow_saleRow
    rw [columns]
    decide

/-- A total that is asked for by its name alone has its value back. -/
theorem total_and_net_restored
    : ∃ s p statement,
        (Access.apply salesCatalog (salesQuery ["total", "net"]) context).result = .ok s
        ∧ (Planning.plan salesCatalog facilities s context .hours).result = .ok p
        ∧ (Statement.resolve p).result = .ok statement
        ∧ statement.PhysicalRow saleRow
        ∧ statement.restore saleRow = [("total", .int 5), ("net", .int 3)] := by
  obtain ⟨s, p, statement, granted, planned, resolved, labels, columns⟩
      : ∃ s p statement,
          (Access.apply salesCatalog (salesQuery ["total", "net"]) context).result = .ok s
          ∧ (Planning.plan salesCatalog facilities s context .hours).result = .ok p
          ∧ (Statement.resolve p).result = .ok statement
          ∧ statement.labels = ["total", "net"]
          ∧ statement.columns
            = [⟨"sales", "amount", "total", .decimal⟩, ⟨"sales", "total", "net", .decimal⟩] :=
    ⟨_, _, _, rfl, rfl, rfl, rfl, rfl⟩
  have physical : statement.PhysicalRow saleRow := by
    apply physicalRow_saleRow
    rw [columns]
    decide
  have apart : statement.KeysApart := by
    constructor
    case labels =>
      rw [columns]
      decide
    case last =>
      intro c listed _
      rw [columns] at listed
      rcases List.mem_cons.mp listed with rfl | listed
      · exact ⟨[], _, columns, by decide⟩
      · obtain rfl := List.mem_singleton.mp listed
        exact ⟨_, [], columns.trans (List.singleton_append ..).symm, nofun⟩
  have restored := (Statement.restores_iff_keysApart (by rfl) granted planned resolved rfl rfl
    (by rw [labels]; decide)).mpr apart saleRow physical
  refine ⟨s, p, statement, granted, planned, resolved, physical, restored.trans ?_⟩
  rw [columns]
  rfl

end Sample

end Polystore
