import Mathlib.Data.List.Duplicate
import Polystore.Metadata.File
import Polystore.Proofs.Metadata.Integrity

/-! What can be wrong with a metadata document, said of its parts and without the checks that look
for it. A document is refused exactly if it is not well formed, and where the ids of its tables
are distinct the problems that are listed are exactly its violations.
-/

namespace Polystore

/-- What a sync copies, and where to. -/
def Sync.ends (s : Sync) : String × String := (s.sourceTable, s.targetDatabase)

/-- The names that are listed as repeated are those that occur again. -/
theorem mem_repeated {names : List String} {name : String}
    : name ∈ repeated names ↔ names.Duplicate name := by
  simp only [repeated, sorted, List.mem_mergeSort, List.mem_filter, List.mem_eraseDups,
    decide_eq_true_eq, List.duplicate_iff_two_le_count]
  exact ⟨And.right, fun twice => ⟨List.count_pos_iff.mp (by omega), twice⟩⟩

namespace Document

-----------------------------------------------------------------------------------------
-- Violations
-----------------------------------------------------------------------------------------

/-- A name that is declared again, although it has to be unique. -/
inductive NameViolation (d : Document) : Problem → Prop where
  | database {id : String} (twice : (d.databases.map (·.id)).Duplicate id)
    : NameViolation d (.repeatedDatabase id)
  | table {id : String} (twice : (d.tables.map (·.id)).Duplicate id)
    : NameViolation d (.repeatedTable id)
  | apiName {name : String} (twice : (d.tables.map (·.apiName)).Duplicate name)
    : NameViolation d (.repeatedApiName name)
  | role {id : String} (twice : (d.roles.map (·.id)).Duplicate id)
    : NameViolation d (.repeatedRole id)

/-- A relation that leaves from a column that is not there, or arrives nowhere. -/
inductive RelationViolation (d : Document) (t : Table) (r : Relation) : Problem → Prop where
  | source (missing : r.sourceColumn ∉ t.columnNames)
    : RelationViolation d t r (.relationColumn t.apiName r.sourceColumn)
  | table (missing : ∀ u ∈ d.tables, u.id ≠ r.targetTable)
    : RelationViolation d t r (.relationTable t.apiName r.targetTable)
  | target {u : Table} (declared : u ∈ d.tables) (is : u.id = r.targetTable)
      (missing : r.targetColumn ∉ u.columnNames)
    : RelationViolation d t r (.relationTarget t.apiName u.apiName r.targetColumn)

/-- A table without a home, with a column declared again, or that names columns it does not have. -/
inductive TableViolation (d : Document) (t : Table) : Problem → Prop where
  | home (missing : ∀ b ∈ d.databases, b.id ≠ t.database)
    : TableViolation d t (.tableDatabase t.apiName t.database)
  | column {name : String} (twice : t.columnNames.Duplicate name)
    : TableViolation d t (.repeatedColumn name t.apiName)
  | key {name : String} (listed : name ∈ t.primaryKey) (missing : name ∉ t.columnNames)
    : TableViolation d t (.keyColumn name t.apiName)
  | relation {r : Relation} {problem : Problem} (member : r ∈ t.relations)
      (violation : RelationViolation d t r problem)
    : TableViolation d t problem

/-- A sync from nowhere, to nowhere, or to where the table is at home. -/
inductive SyncViolation (d : Document) (s : Sync) : Problem → Prop where
  | source (missing : ∀ t ∈ d.tables, t.id ≠ s.sourceTable)
    : SyncViolation d s (.syncSource s.sourceTable)
  | target (missing : ∀ b ∈ d.databases, b.id ≠ s.targetDatabase)
    : SyncViolation d s (.syncTarget s.targetDatabase s.sourceTable)
  | home {t : Table} (declared : t ∈ d.tables) (is : t.id = s.sourceTable)
      (same : t.database = s.targetDatabase)
    : SyncViolation d s (.syncWithin s.sourceTable s.targetDatabase)

/-- An entry of the cache for no table, or for columns that its table does not have. -/
inductive CacheViolation (d : Document) (e : CachedTable) : Problem → Prop where
  | table (missing : ∀ t ∈ d.tables, t.id ≠ e.table) : CacheViolation d e (.cacheTable e.table)
  | column {t : Table} {names : List String} {name : String} (declared : t ∈ d.tables)
      (is : t.id = e.table) (columns : e.columns = some names) (listed : name ∈ names)
      (missing : name ∉ t.columnNames)
    : CacheViolation d e (.cacheColumn t.apiName name)

/-- A row rule on a column that is not there, or that has nothing to compare with. -/
inductive RowViolation (role : String) (t : Table) (r : RowRule) : Problem → Prop where
  | column (missing : r.column ∉ t.columnNames)
    : RowViolation role t r (.rowColumn role t.apiName r.column)
  | contextKey (keyless : ¬ RowRule.Keyed r)
    : RowViolation role t r (.contextKey role t.apiName r.column r.operator)

/-- A role's rule for no table, or that names columns that its table does not have. -/
inductive RuleViolation (d : Document) (role : String) (r : TableRule) : Problem → Prop where
  | table (missing : ∀ t ∈ d.tables, t.id ≠ r.table)
    : RuleViolation d role r (.ruleTable role r.table)
  | allowed {t : Table} {names : List String} {name : String} (declared : t ∈ d.tables)
      (is : t.id = r.table) (only : r.allowed = .only names) (listed : name ∈ names)
      (missing : name ∉ t.columnNames)
    : RuleViolation d role r (.allowedColumn role t.apiName name)
  | row {t : Table} {row : RowRule} {problem : Problem} (declared : t ∈ d.tables)
      (is : t.id = r.table) (member : row ∈ r.rows) (violation : RowViolation role t row problem)
    : RuleViolation d role r problem

/-- What is wrong with a document. -/
inductive Violation (d : Document) : Problem → Prop where
  | name {problem : Problem} (violation : d.NameViolation problem) : Violation d problem
  | table {t : Table} {problem : Problem} (declared : t ∈ d.tables)
      (violation : d.TableViolation t problem)
    : Violation d problem
  | sync {s : Sync} {problem : Problem} (declared : s ∈ d.syncs)
      (violation : d.SyncViolation s problem)
    : Violation d problem
  | syncAgain {ends : String × String} (twice : (d.syncs.map Sync.ends).Duplicate ends)
    : Violation d (.repeatedSync ends.1 ends.2)
  | cache {e : CachedTable} {problem : Problem} (declared : e ∈ d.caches)
      (violation : d.CacheViolation e problem)
    : Violation d problem
  | rule {role : Role} {r : TableRule} {problem : Problem} (declared : role ∈ d.roles)
      (member : r ∈ role.tables) (violation : d.RuleViolation role.id r problem)
    : Violation d problem

-----------------------------------------------------------------------------------------
-- What each check finds
-----------------------------------------------------------------------------------------

variable {d : Document} {problem : Problem}

theorem mem_lacking {t : Table} {names : List String} {name : String}
    : name ∈ lacking t names ↔ name ∈ names ∧ name ∉ t.columnNames := by
  simp only [lacking, List.mem_filter, ← Table.column?_isSome, ← Option.not_isSome,
    Bool.not_eq_true', Bool.not_eq_true]

theorem tableOfId?_eq_none {id : String} : d.tableOfId? id = none ↔ ∀ t ∈ d.tables, t.id ≠ id := by
  simp [tableOfId?]

theorem hasDatabase_eq_false {id : String}
    : d.hasDatabase id = false ↔ ∀ b ∈ d.databases, b.id ≠ id := by
  simp [hasDatabase]

theorem mem_nameProblems : problem ∈ d.nameProblems ↔ d.NameViolation problem := by
  simp only [nameProblems, List.mem_append, List.mem_map, mem_repeated]
  constructor
  · rintro (((⟨id, twice, rfl⟩ | ⟨id, twice, rfl⟩) | ⟨name, twice, rfl⟩) | ⟨id, twice, rfl⟩)
    · exact .database twice
    · exact .table twice
    · exact .apiName twice
    · exact .role twice
  · intro violation
    cases violation with
    | database twice => exact .inl (.inl (.inl ⟨_, twice, rfl⟩))
    | table twice => exact .inl (.inl (.inr ⟨_, twice, rfl⟩))
    | apiName twice => exact .inl (.inr ⟨_, twice, rfl⟩)
    | role twice => exact .inr ⟨_, twice, rfl⟩

theorem mem_relationProblems (distinct : (d.tables.map (·.id)).Nodup) {t : Table} {r : Relation}
    : problem ∈ d.relationProblems t r ↔ d.RelationViolation t r problem := by
  simp only [relationProblems, List.mem_append, List.mem_map, mem_lacking, List.mem_singleton]
  constructor
  · rintro (⟨_, ⟨rfl, missing⟩, rfl⟩ | found)
    · exact .source missing
    · cases target : d.tableOfId? r.targetTable with
      | none =>
          rw [target, List.mem_singleton] at found
          subst found
          exact .table (tableOfId?_eq_none.mp target)
      | some u =>
          rw [target] at found
          obtain ⟨_, lacking, rfl⟩ := List.mem_map.mp found
          obtain ⟨is, missing⟩ := mem_lacking.mp lacking
          obtain rfl := List.mem_singleton.mp is
          obtain ⟨declared, is⟩ := (tableOfId?_eq_some_iff distinct).mp target
          exact .target declared is missing
  · intro violation
    cases violation with
    | source missing => exact .inl ⟨_, ⟨rfl, missing⟩, rfl⟩
    | table missing =>
        rw [tableOfId?_eq_none.mpr missing]
        exact .inr (List.mem_singleton.mpr rfl)
    | target declared is missing =>
        rw [(tableOfId?_eq_some_iff distinct).mpr ⟨declared, is⟩]
        exact .inr (List.mem_map.mpr
          ⟨_, mem_lacking.mpr ⟨List.mem_singleton.mpr rfl, missing⟩, rfl⟩)

theorem mem_tableProblems (distinct : (d.tables.map (·.id)).Nodup) {t : Table}
    : problem ∈ d.tableProblems t ↔ d.TableViolation t problem := by
  simp only [tableProblems, List.mem_append, List.mem_map, List.mem_flatMap, mem_repeated,
    mem_lacking, mem_relationProblems distinct]
  constructor
  · rintro (((found | ⟨name, twice, rfl⟩) | ⟨name, ⟨listed, missing⟩, rfl⟩) |
      ⟨r, member, violation⟩)
    · cases home : d.hasDatabase t.database with
      | true => simp [home] at found
      | false =>
          obtain rfl : problem = .tableDatabase t.apiName t.database := by simpa [home] using found
          exact .home (hasDatabase_eq_false.mp home)
    · exact .column twice
    · exact .key listed missing
    · exact .relation member violation
  · intro violation
    cases violation with
    | home missing => simp [hasDatabase_eq_false.mpr missing]
    | column twice => exact .inl (.inl (.inr ⟨_, twice, rfl⟩))
    | key listed missing => exact .inl (.inr ⟨_, ⟨listed, missing⟩, rfl⟩)
    | relation member violation => exact .inr ⟨_, member, violation⟩

/-- A sync that comes behind others is also found wrong if one of them has its ends. -/
theorem mem_syncProblems (distinct : (d.tables.map (·.id)).Nodup) {earlier : List Sync} {s : Sync}
    : problem ∈ d.syncProblems earlier s
      ↔ d.SyncViolation s problem
        ∨ s.ends ∈ earlier.map Sync.ends ∧ problem = .repeatedSync s.ends.1 s.ends.2 := by
  have again
      : (earlier.any fun e =>
          e.sourceTable == s.sourceTable && e.targetDatabase == s.targetDatabase) = true
        ↔ s.ends ∈ earlier.map Sync.ends := by
    simp [Sync.ends]
  have within
      : ((d.tableOfId? s.sourceTable).any fun t => t.database == s.targetDatabase) = true
        ↔ ∃ t ∈ d.tables, t.id = s.sourceTable ∧ t.database = s.targetDatabase := by
    rw [← exists_tableOfId?_iff distinct, Option.any_eq_true]
    simp only [beq_iff_eq]
  simp only [syncProblems, List.mem_append, List.mem_ite_nil_left, List.mem_ite_nil_right,
    List.mem_singleton, again, within, Option.isNone_iff_eq_none, tableOfId?_eq_none,
    Bool.not_eq_true, hasDatabase_eq_false]
  refine or_congr_left ⟨?_, fun violation => ?_⟩
  · rintro ((⟨missing, rfl⟩ | ⟨missing, rfl⟩) | ⟨⟨t, declared, is, same⟩, rfl⟩)
    · exact .source missing
    · exact .target missing
    · exact .home declared is same
  · cases violation with
    | source missing => exact .inl (.inl ⟨missing, rfl⟩)
    | target missing => exact .inl (.inr ⟨missing, rfl⟩)
    | home declared is same => exact .inr ⟨⟨_, declared, is, same⟩, rfl⟩

/-- What is found of syncs behind others is what is wrong with one of them, or that its ends are
those of one before it, by induction on the syncs. -/
theorem mem_syncProblemsFrom (distinct : (d.tables.map (·.id)).Nodup) {earlier syncs : List Sync}
    : problem ∈ d.syncProblemsFrom earlier syncs
      ↔ (∃ s ∈ syncs, d.SyncViolation s problem)
        ∨ ∃ ends,
            problem = .repeatedSync ends.1 ends.2
            ∧ (ends ∈ earlier.map Sync.ends ∧ ends ∈ syncs.map Sync.ends
              ∨ (syncs.map Sync.ends).Duplicate ends) := by
  induction syncs generalizing earlier with
  | nil => simp [syncProblemsFrom]
  | cons s rest ih =>
      rw [syncProblemsFrom, List.mem_append, mem_syncProblems distinct, ih]
      simp only [List.map_append, List.map_cons, List.map_nil, List.mem_append, List.mem_cons,
        List.not_mem_nil, or_false, List.duplicate_cons_iff]
      constructor
      · rintro ((violation | ⟨before, rfl⟩) | (⟨other, member, violation⟩ |
          ⟨ends, rfl, (⟨before | rfl, member⟩ | twice)⟩))
        · exact .inl ⟨s, .inl rfl, violation⟩
        · exact .inr ⟨_, rfl, .inl ⟨before, .inl rfl⟩⟩
        · exact .inl ⟨other, .inr member, violation⟩
        · exact .inr ⟨ends, rfl, .inl ⟨before, .inr member⟩⟩
        · exact .inr ⟨_, rfl, .inr (.inl ⟨rfl, member⟩)⟩
        · exact .inr ⟨ends, rfl, .inr (.inr twice)⟩
      · rintro (⟨other, rfl | member, violation⟩ |
          ⟨ends, rfl, (⟨before, rfl | member⟩ | (⟨rfl, member⟩ | twice))⟩)
        · exact .inl (.inl violation)
        · exact .inr (.inl ⟨other, member, violation⟩)
        · exact .inl (.inr ⟨before, rfl⟩)
        · exact .inr (.inr ⟨ends, rfl, .inl ⟨.inl before, member⟩⟩)
        · exact .inr (.inr ⟨_, rfl, .inl ⟨.inr rfl, member⟩⟩)
        · exact .inr (.inr ⟨ends, rfl, .inr twice⟩)

theorem mem_cacheProblems (distinct : (d.tables.map (·.id)).Nodup) {e : CachedTable}
    : problem ∈ d.cacheProblems e ↔ d.CacheViolation e problem := by
  rw [cacheProblems]
  constructor
  · intro found
    cases table : d.tableOfId? e.table with
    | none =>
        rw [table, List.mem_singleton] at found
        subst found
        exact .table (tableOfId?_eq_none.mp table)
    | some t =>
        rw [table] at found
        obtain ⟨name, lacking, rfl⟩ := List.mem_map.mp found
        obtain ⟨listed, missing⟩ := mem_lacking.mp lacking
        obtain ⟨declared, is⟩ := (tableOfId?_eq_some_iff distinct).mp table
        cases columns : e.columns with
        | none => simp [columns] at listed
        | some names => exact .column declared is columns (by simpa [columns] using listed) missing
  · intro violation
    cases violation with
    | table missing =>
        rw [tableOfId?_eq_none.mpr missing]
        exact List.mem_singleton.mpr rfl
    | column declared is columns listed missing =>
        rw [(tableOfId?_eq_some_iff distinct).mpr ⟨declared, is⟩, columns]
        exact List.mem_map.mpr ⟨_, mem_lacking.mpr ⟨listed, missing⟩, rfl⟩

theorem mem_rowProblems {role : String} {t : Table} {r : RowRule}
    : problem ∈ rowProblems role t r ↔ RowViolation role t r problem := by
  have keyed
      : (r.operator.toOperator.isNullCheck || r.contextKey.any (!·.isEmpty)) = true
        ↔ RowRule.Keyed r := by
    simp [RowRule.Keyed, Option.any_eq_true]
  simp only [rowProblems, List.mem_append, List.mem_map, mem_lacking, List.mem_singleton,
    List.mem_ite_nil_left, keyed]
  constructor
  · rintro (⟨_, ⟨rfl, missing⟩, rfl⟩ | ⟨keyless, rfl⟩)
    · exact .column missing
    · exact .contextKey keyless
  · intro violation
    cases violation with
    | column missing => exact .inl ⟨_, ⟨rfl, missing⟩, rfl⟩
    | contextKey keyless => exact .inr ⟨keyless, rfl⟩

theorem mem_ruleProblems (distinct : (d.tables.map (·.id)).Nodup) {role : String} {r : TableRule}
    : problem ∈ d.ruleProblems role r ↔ d.RuleViolation role r problem := by
  rw [ruleProblems]
  constructor
  · intro found
    cases table : d.tableOfId? r.table with
    | none =>
        rw [table, List.mem_singleton] at found
        subst found
        exact .table (tableOfId?_eq_none.mp table)
    | some t =>
        simp only [table, List.mem_append, List.mem_flatMap, mem_rowProblems] at found
        obtain ⟨declared, is⟩ := (tableOfId?_eq_some_iff distinct).mp table
        rcases found with found | ⟨row, member, violation⟩
        · cases only : r.allowed with
          | all => simp [only] at found
          | only names =>
              simp only [only, List.mem_map, mem_lacking] at found
              obtain ⟨name, ⟨listed, missing⟩, rfl⟩ := found
              exact .allowed declared is only listed missing
        · exact .row declared is member violation
  · intro violation
    cases violation with
    | table missing =>
        rw [tableOfId?_eq_none.mpr missing]
        exact List.mem_singleton.mpr rfl
    | allowed declared is only listed missing =>
        rw [(tableOfId?_eq_some_iff distinct).mpr ⟨declared, is⟩, only]
        exact List.mem_append_left _
          (List.mem_map.mpr ⟨_, mem_lacking.mpr ⟨listed, missing⟩, rfl⟩)
    | row declared is member violation =>
        rw [(tableOfId?_eq_some_iff distinct).mpr ⟨declared, is⟩]
        exact List.mem_append_right _
          (List.mem_flatMap.mpr ⟨_, member, mem_rowProblems.mpr violation⟩)

-----------------------------------------------------------------------------------------
-- Documents that are refused
-----------------------------------------------------------------------------------------

/-- Where no two tables share an id, the problems that are found are the violations. -/
theorem mem_problems_iff (distinct : (d.tables.map (·.id)).Nodup)
    : problem ∈ d.problems ↔ d.Violation problem := by
  simp only [problems, List.mem_append, List.mem_flatMap, mem_nameProblems,
    mem_tableProblems distinct, mem_syncProblemsFrom distinct, mem_cacheProblems distinct,
    mem_ruleProblems distinct, List.map_nil, List.not_mem_nil, false_and, false_or]
  constructor
  · rintro ((((violation | ⟨t, declared, violation⟩) |
      (⟨s, declared, violation⟩ | ⟨ends, rfl, twice⟩)) | ⟨e, declared, violation⟩) |
      ⟨role, declared, r, member, violation⟩)
    · exact .name violation
    · exact .table declared violation
    · exact .sync declared violation
    · exact .syncAgain twice
    · exact .cache declared violation
    · exact .rule declared member violation
  · intro violation
    cases violation with
    | name violation => exact .inl (.inl (.inl (.inl violation)))
    | table declared violation => exact .inl (.inl (.inl (.inr ⟨_, declared, violation⟩)))
    | sync declared violation => exact .inl (.inl (.inr (.inl ⟨_, declared, violation⟩)))
    | syncAgain twice => exact .inl (.inl (.inr (.inr ⟨_, rfl, twice⟩)))
    | cache declared violation => exact .inl (.inr ⟨_, declared, violation⟩)
    | rule declared member violation => exact .inr ⟨_, declared, _, member, violation⟩

end Document

namespace Catalog

theorem ofDocument_eq_ok_iff {d : Document} {c : Catalog}
    : ofDocument d = .ok c ↔ c.document = d := by
  unfold ofDocument
  constructor
  · intro made
    split at made
    · cases made; rfl
    · cases made
  · rintro rfl
    rw [dif_pos c.intact]

/-- A document makes a catalog, which is of this document, exactly if it is well formed. Otherwise
problems are reported, also to whoever gives the document as a value, and where no two tables share
an id they are the violations of the document.
-/
theorem ofDocument_decides (d : Document)
    : ((∃ c, ofDocument d = .ok c) ↔ d.WellFormed)
      ∧ (∀ c, ofDocument d = .ok c → c.document = d)
      ∧ (¬ d.WellFormed
        → ∃ problems,
            ofDocument d = .error problems
            ∧ (∀ v, Document.decode v = .ok d
              → ofValue v = .error (.misconfigured (.notIntact problems)))
            ∧ problems ≠ []
            ∧ ((d.tables.map (·.id)).Nodup
              → ∀ problem, problem ∈ problems ↔ d.Violation problem)) := by
  rw [← Document.intact_iff]
  refine ⟨⟨?_, fun intact => ⟨⟨d, intact⟩, ofDocument_eq_ok_iff.mpr rfl⟩⟩,
    fun c => ofDocument_eq_ok_iff.mp, fun broken => ?_⟩
  · rintro ⟨c, made⟩
    exact ofDocument_eq_ok_iff.mp made ▸ c.intact
  · have refused : ofDocument d = .error d.problems := dif_neg broken
    refine ⟨d.problems, refused, fun v decoded => ?_, broken,
      fun distinct _ => Document.mem_problems_iff distinct⟩
    simp only [ofValue, decoded, refused, Except.mapError]

end Catalog

-----------------------------------------------------------------------------------------
-- A copy at home, declared twice
-----------------------------------------------------------------------------------------

namespace Sample

/-- Orders, copied twice to where they are kept anyway. -/
def strayDocument : Document := {
  document with
  syncs := [
    ⟨"o", "main", "orders_copy", .debezium, .minutes⟩,
    ⟨"o", "main", "orders_copy", .debezium, .hours⟩] }

theorem ofDocument_strayDocument
    : ¬ strayDocument.WellFormed
      ∧ ∃ problems,
          Catalog.ofDocument strayDocument = .error problems
          ∧ .syncWithin "o" "main" ∈ problems
          ∧ .repeatedSync "o" "main" ∈ problems := by
  have broken : ¬ strayDocument.WellFormed := fun formed => by
    have apart := List.rel_of_pairwise_cons formed.apart List.mem_cons_self
    exact apart rfl rfl
  obtain ⟨problems, refused, _, _, listed⟩ :=
    (Catalog.ofDocument_decides strayDocument).2.2 broken
  have violations := listed (by decide)
  refine ⟨broken, problems, refused, (violations _).mpr ?_, (violations _).mpr ?_⟩
  · exact .sync List.mem_cons_self (.home (t := orders) (by decide) rfl rfl)
  · have twice : (strayDocument.syncs.map Sync.ends).Duplicate ("o", "main") := by decide
    exact .syncAgain twice

end Sample

end Polystore
