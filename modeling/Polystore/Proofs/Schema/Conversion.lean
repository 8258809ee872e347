import Mathlib
import Polystore.Proofs.Metadata.Lookups
import Polystore.Proofs.Metadata.Violations
import Polystore.Proofs.Schema.Memory.MetaData

/-! Metadata of declared tables. Every included table is described by one table of metadata, with a
relation for each foreign key that leads to a table of an included name. Where the names of the
tables differ and the naming tells names apart, such tables of metadata are intact as they stand,
if the columns that the foreign keys point at belong to the tables that they point at.
-/

namespace Polystore.Schema

variable {ε : Type}

/-- A column that was declared to be indexed, or plainly to be a key or none. -/
def Column.Flagged (c : Column) : Prop :=
  c.index.isPresent = true ∨ ∃ b, Decoding.truth c.primaryKey = .ok b

namespace Naming

variable {n : Naming} {m : MetaData ε} {included : Option (List String)}

/-- What a column of metadata says of a declared column. -/
structure DescribesColumn (n : Naming) (c : Column) (described : Polystore.Column) : Prop where
  apiName : described.apiName = n.apiName c.name
  physicalName : described.physicalName = c.name
  type : described.type = c.logicalType
  nullable : described.nullable = c.allowsNull

/-- The relation that joins the column of a foreign key to its target. -/
def relation (n : Naming) (key : ForeignKey ε) (target : Target) : Relation :=
  ⟨n.apiName key.parent, n.tableId target.table, n.apiName target.column, .manyToOne⟩

/-- What a table of metadata says of a declared table. It has the relations of exactly the foreign
keys that lead to tables of included names.
-/
structure Describes (n : Naming) (m : MetaData ε) (included : Option (List String)) (t : Table ε)
    (described : Polystore.Table)
    : Prop where
  id : described.id = n.tableId t.name
  apiName : described.apiName = n.apiName t.name
  database : described.database = n.database
  physicalName : described.physicalName = t.name
  columns : List.Forall₂ n.DescribesColumn t.columns described.columns
  primaryKey : described.primaryKey = t.primaryKey.map n.apiName
  relations
    : ∀ r,
        r ∈ described.relations
        ↔ ∃ key ∈ t.foreignKeys,
            ∃ target,
              key.target = .ok target
              ∧ (∃ other ∈ m.tables, IncludedBy included other ∧ other.name = target.table)
              ∧ r = n.relation key target

-----------------------------------------------------------------------------------------
-- Describing one table
-----------------------------------------------------------------------------------------

/-- A column is described with what it is known to be indexed, if that is known. -/
theorem column_eq_ok {c : Column} {described : Polystore.Column}
    : (n.column c : Except (Obstacle ε) Polystore.Column) = .ok described
      ↔ ∃ indexed,
          (if c.index.isPresent then .ok true else Decoding.truth c.primaryKey) = .ok indexed
          ∧ described = ⟨n.apiName c.name, c.name, c.logicalType, c.allowsNull, indexed⟩ := by
  unfold column
  cases c.index.isPresent with
  | true => simp [eq_comm]
  | false =>
      cases Decoding.truth c.primaryKey with
      | ok indexed => simp [Decoding.Decoded.under, Except.mapError, eq_comm]
      | error issues => simp [Decoding.Decoded.under, Except.mapError, bind, Except.bind]

/-- A column is described exactly if it is flagged. -/
theorem exists_column {c : Column}
    : (∃ described, (n.column c : Except (Obstacle ε) Polystore.Column) = .ok described)
      ↔ c.Flagged := by
  simp only [column_eq_ok, Column.Flagged]
  cases c.index.isPresent <;> simp

theorem describes_of_column {c : Column} {described : Polystore.Column}
    (h : (n.column c : Except (Obstacle ε) Polystore.Column) = .ok described)
    : n.DescribesColumn c described := by
  obtain ⟨indexed, _, rfl⟩ := column_eq_ok.mp h
  exact ⟨rfl, rfl, rfl, rfl⟩

/-- The relations of a table whose foreign keys lead somewhere are those of the keys that lead to
tables of known names.
-/
theorem exists_relations (known : List String) {t : Table ε}
    (resolved : ∀ key ∈ t.foreignKeys, ∃ target, key.target = .ok target)
    : ∃ relations,
        n.relations known t = .ok relations
        ∧ ∀ r,
            r ∈ relations
            ↔ ∃ key ∈ t.foreignKeys,
                ∃ target,
                  key.target = .ok target ∧ target.table ∈ known ∧ r = n.relation key target := by
  have sorted : (t.foreignKeys.mergeSort fun a b => a.parent ≤ b.parent).Perm t.foreignKeys :=
    List.mergeSort_perm ..
  have each : ∀ key ∈ t.foreignKeys.mergeSort (fun a b => decide (a.parent ≤ b.parent)),
      ∃ found : Option Relation,
        n.relation? known key = .ok found
        ∧ ∀ r,
            found = some r
            ↔ ∃ target,
                key.target = .ok target ∧ target.table ∈ known ∧ r = n.relation key target := by
    intro key member
    obtain ⟨target, is⟩ := resolved key (sorted.mem_iff.mp member)
    refine ⟨if known.contains target.table then some (n.relation key target) else none, ?_, ?_⟩
    · rw [relation?, is]
      rfl
    · simp [is, eq_comm]
  obtain ⟨found, aligned⟩ := Outcome.exists_forall₂ each
  have made := Outcome.mapM_eq_ok.mpr (aligned.imp fun _ _ both => both.1)
  refine ⟨found.filterMap id, ?_, fun r => ?_⟩
  · change (List.mapM _ _ >>= _) = _
    exact (congrArg (· >>= _) made).trans rfl
  · simp only [List.mem_filterMap, id_eq]
    constructor
    · rintro ⟨some, listed, rfl⟩
      obtain ⟨key, member, _, relates⟩ := Outcome.exists_of_mem_found aligned listed
      exact ⟨key, sorted.mem_iff.mp member, (relates r).mp rfl⟩
    · rintro ⟨key, member, related⟩
      obtain ⟨some, listed, _, relates⟩ :=
        Outcome.exists_of_mem_found aligned.flip (sorted.mem_iff.mpr member)
      exact ⟨some, listed, (relates r).mpr related⟩

/-- A table whose foreign keys lead somewhere is described exactly if its columns are flagged. -/
theorem exists_table (known : List String) {t : Table ε}
    (resolved : ∀ key ∈ t.foreignKeys, ∃ target, key.target = .ok target)
    : (∃ described, n.table known t = .ok described) ↔ ∀ c ∈ t.columns, c.Flagged := by
  obtain ⟨relations, related, _⟩ := exists_relations (n := n) known resolved
  unfold table
  simp only [related, Outcome.exists_bind_eq_ok, Outcome.ok_bind, Outcome.pure_eq]
  constructor
  · rintro ⟨columns, found, _⟩ c member
    obtain ⟨described, _, is⟩ := Outcome.exists_of_mapM found member
    exact exists_column.mp ⟨described, is⟩
  · intro flagged
    obtain ⟨columns, found⟩ :=
      Outcome.exists_mapM_eq_ok fun c member => exists_column.mpr (flagged c member)
    exact ⟨columns, found, _, rfl⟩

/-- What a table whose foreign keys lead somewhere is described by, if the known names are those of
the included tables.
-/
theorem describes_of_table {known : List String}
    (chosen
      : ∀ name,
          name ∈ known ↔ ∃ other ∈ m.tables, IncludedBy included other ∧ other.name = name)
    {t : Table ε} (resolved : ∀ key ∈ t.foreignKeys, ∃ target, key.target = .ok target)
    {described : Polystore.Table} (h : n.table known t = .ok described)
    : n.Describes m included t described := by
  obtain ⟨relations, related, relates⟩ := exists_relations (n := n) known resolved
  unfold table at h
  obtain ⟨columns, found, h⟩ := Outcome.bind_eq_ok.mp h
  rw [related, Outcome.ok_bind, Outcome.pure_eq, Except.ok.injEq] at h
  subst h
  have aligned := (Outcome.mapM_eq_ok.mp found).imp fun _ _ => describes_of_column
  exact ⟨rfl, rfl, rfl, rfl, aligned, rfl, fun r => by simp only [relates, chosen]⟩

-----------------------------------------------------------------------------------------
-- Describing all tables
-----------------------------------------------------------------------------------------

/-- Tables whose foreign keys lead somewhere are described, each included one by itself, exactly if
the columns of the included ones are flagged.
-/
theorem tables_described (lawful : m.Lawful) (resolved : m.Resolved) (n : Naming)
    (included : Option (List String))
    : ∃ chosen,
        chosen.Perm (m.tables.filter fun t => included.all (·.contains t.name))
        ∧ ((∃ tables, n.tables included m = .ok tables)
            ↔ ∀ t ∈ chosen, ∀ c ∈ t.columns, c.Flagged)
        ∧ ∀ tables,
            n.tables included m = .ok tables
            → List.Forall₂ (n.Describes m included) chosen tables := by
  obtain ⟨all, put, perm⟩ := lawful.sorts resolved
  have put : m.sortedTables.mapError Obstacle.library = .ok all := by
    rw [put]
    rfl
  have chosen_iff (name : String)
      : name ∈ (all.filter fun t => included.all (·.contains t.name)).map (·.name)
        ↔ ∃ other ∈ m.tables, IncludedBy included other ∧ other.name = name := by
    simp only [List.mem_map, List.mem_filter, includedBy_iff, perm.mem_iff, and_assoc]
  have own {t : Table ε} (member : t ∈ all.filter fun t => included.all (·.contains t.name))
      : t ∈ m.tables :=
    perm.mem_iff.mp (List.mem_filter.mp member).1
  refine ⟨_, perm.filter _, ?_, fun tables found => ?_⟩
  · unfold tables
    rw [put, Outcome.ok_bind]
    constructor
    · rintro ⟨tables, found⟩ t member
      obtain ⟨described, _, is⟩ := Outcome.exists_of_mapM found member
      exact (exists_table _ (resolved t (own member))).mp ⟨described, is⟩
    · intro flagged
      exact Outcome.exists_mapM_eq_ok fun t member =>
        (exists_table _ (resolved t (own member))).mpr (flagged t member)
  · unfold Naming.tables at found
    rw [put, Outcome.ok_bind] at found
    have aligned := (List.forall₂_and_left _ _).mpr
      ⟨fun t => own, Outcome.mapM_eq_ok.mp found⟩
    exact aligned.imp fun t _ ⟨declares, is⟩ =>
      describes_of_table chosen_iff (resolved t declares) is

-----------------------------------------------------------------------------------------
-- Documents of described tables
-----------------------------------------------------------------------------------------

section Document

variable {chosen : List (Table ε)} {tables : List Polystore.Table}

/-- What tables are described by under a function of their names. -/
theorem map_described {α : Type} {f : Polystore.Table → α} {g : String → α}
    (aligned : List.Forall₂ (n.Describes m included) chosen tables)
    (own : ∀ t described, n.Describes m included t described → f described = g t.name)
    : tables.map f = (chosen.map (·.name)).map g := by
  rw [List.map_map, ← List.forall₂_eq_eq_eq, List.forall₂_map_left_iff,
    List.forall₂_map_right_iff]
  exact (aligned.imp own).flip

/-- The names of the columns of a description. -/
theorem Describes.columnNames {t : Table ε} {described : Polystore.Table}
    (h : n.Describes m included t described)
    : described.columnNames = t.columnNames.map n.apiName := by
  rw [Polystore.Table.columnNames, Table.columnNames, List.map_map, ← List.forall₂_eq_eq_eq,
    List.forall₂_map_left_iff, List.forall₂_map_right_iff]
  exact (h.columns.imp fun _ _ column => column.apiName).flip

/-- A document of one database with the tables that describe declared tables of different names. -/
def documentOf (home : Database) (tables : List Polystore.Table) (federation : Bool) : Document :=
  ⟨[home], tables, [], [], [], federation⟩

/-- Tables of metadata that describe the included tables, all of them and no others. -/
structure Covers (n : Naming) (m : MetaData ε) (included : Option (List String))
    (tables : List Polystore.Table)
    : Prop where
  all
    : ∀ t ∈ m.tables,
        IncludedBy included t → ∃ described ∈ tables, n.Describes m included t described
  only
    : ∀ described ∈ tables,
        ∃ t ∈ m.tables, IncludedBy included t ∧ n.Describes m included t described

/-- The descriptions of the chosen tables cover the included ones. -/
theorem covers_of_aligned
    (perm : chosen.Perm (m.tables.filter fun t => included.all (·.contains t.name)))
    (aligned : List.Forall₂ (n.Describes m included) chosen tables)
    : n.Covers m included tables := by
  have chosen_iff (t : Table ε) : t ∈ chosen ↔ t ∈ m.tables ∧ IncludedBy included t := by
    rw [perm.mem_iff, List.mem_filter, includedBy_iff]
  constructor
  case all =>
    intro t declares listed
    exact Outcome.exists_of_mem_found aligned.flip ((chosen_iff t).mpr ⟨declares, listed⟩)
  case only =>
    intro described there
    obtain ⟨t, listed, describes⟩ := Outcome.exists_of_mem_found aligned there
    obtain ⟨declares, listed⟩ := (chosen_iff t).mp listed
    exact ⟨t, declares, listed, describes⟩

section Tables

variable {home : Database} {federation : Bool} (covers : n.Covers m included tables)

include covers

/-- Where a document of the descriptions is well formed, the column of a relation is one of the
table that the relation leads to, and so is that of the foreign key.
-/
theorem targetsBelong_of_wellFormed (api : n.apiName.Injective)
    (wellFormed : (documentOf home tables federation).WellFormed)
    : m.TargetsBelong included := by
  intro t declares listed key keys target leads other declares' listed' same
  obtain ⟨described, there, describes⟩ := covers.all t declares listed
  obtain ⟨described', there', describes'⟩ := covers.all other declares' listed'
  have related : n.relation key target ∈ described.relations :=
    (describes.relations _).mpr ⟨key, keys, target, leads, ⟨other, declares', listed', same⟩, rfl⟩
  obtain ⟨_, found, foundThere, id, column⟩ :=
    (wellFormed.tables described there).relations _ related
  -- The table of the relation's id is the description of the table of the target's name.
  obtain rfl : found = described' := by
    refine List.inj_on_of_nodup_map wellFormed.tableIds foundThere there' ?_
    rw [id, describes'.id, same]
    rfl
  rw [describes'.columnNames, List.mem_map] at column
  obtain ⟨name, member, is⟩ := column
  exact api is ▸ member

/-- Where the columns that foreign keys point at belong to the tables that they point at, every
description is in order.
-/
theorem tableFits_of_targetsBelong (lawful : m.Lawful) (api : n.apiName.Injective)
    (is : home.id = n.database) (belong : m.TargetsBelong included)
    {described : Polystore.Table} (member : described ∈ tables)
    : (documentOf home tables federation).TableFits described := by
  obtain ⟨t, declares, listed, describes⟩ := covers.only described member
  constructor
  case home => exact ⟨home, List.mem_singleton_self _, is.trans describes.database.symm⟩
  case columns =>
    rw [describes.columnNames]
    exact (lawful.columns t declares).map api
  case key =>
    intro name key
    rw [describes.primaryKey] at key
    obtain ⟨own, member, rfl⟩ := List.mem_map.mp key
    rw [describes.columnNames]
    exact List.mem_map_of_mem (lawful.keys t declares own member)
  case relations =>
    intro r member
    obtain ⟨key, keys, target, leads, ⟨other, declares', listed', same⟩, rfl⟩ :=
      (describes.relations r).mp member
    obtain ⟨described', there, describes'⟩ := covers.all other declares' listed'
    refine ⟨?_, described', there, ?_, ?_⟩
    · rw [describes.columnNames]
      exact List.mem_map_of_mem (lawful.parents t declares key keys)
    · rw [describes'.id, same]
      rfl
    · rw [describes'.columnNames]
      exact List.mem_map_of_mem
        (belong t declares listed key keys target leads other declares' listed' same)

end Tables

/-- A document of one database is well formed if the naming tells names apart, exactly where the
columns that foreign keys point at belong to the tables that they point at.
-/
theorem wellFormed_documentOf_iff (lawful : m.Lawful) (names : (m.tables.map (·.name)).Nodup)
    (api : n.apiName.Injective) (ids : n.tableId.Injective)
    (perm : chosen.Perm (m.tables.filter fun t => included.all (·.contains t.name)))
    (aligned : List.Forall₂ (n.Describes m included) chosen tables) {home : Database}
    (is : home.id = n.database) (federation : Bool)
    : (documentOf home tables federation).WellFormed ↔ m.TargetsBelong included := by
  have covers := covers_of_aligned perm aligned
  have distinct : (chosen.map (·.name)).Nodup :=
    (perm.map _).nodup_iff.mpr (names.sublist (List.filter_sublist.map _))
  refine ⟨targetsBelong_of_wellFormed covers api, fun belong => ?_⟩
  exact {
    databaseIds := List.nodup_singleton _
    tableIds := map_described aligned (fun _ _ h => h.id) ▸ distinct.map ids
    tableNames := map_described aligned (fun _ _ h => h.apiName) ▸ distinct.map api
    roleIds := .nil
    tables := fun _ => tableFits_of_targetsBelong covers lawful api is belong
    syncs := nofun
    apart := .nil
    caches := nofun
    rules := nofun }

/-- A relation is found between two tables in whichever order they are named. -/
theorem mem_relationsBetween (catalog : Catalog) {owner target : Polystore.Table} {r : Relation}
    (owns : owner ∈ catalog.tables) (targets : target ∈ catalog.tables)
    (member : r ∈ owner.relations) (leads : r.targetTable = target.id)
    : (owner, r) ∈ Catalog.relationsBetween owner target
      ∧ (owner, r) ∈ Catalog.relationsBetween target owner := by
  have listed
      : (owner, r)
        ∈ (owner.relations.filter fun r => r.targetTable == target.id).map (owner, ·) :=
    List.mem_map_of_mem (List.mem_filter.mpr ⟨member, by simpa using leads⟩)
  refine ⟨List.mem_append_left _ listed, ?_⟩
  by_cases same : owner.id = target.id
  · -- A table that refers to itself is one table by its id.
    obtain rfl : owner = target := Catalog.table_eq_of_id owns targets same
    exact List.mem_append_left _ listed
  · refine List.mem_append_right _ ?_
    rw [if_neg (by simpa using Ne.symm same)]
    exact listed

/-- A catalog in which a foreign key to a table of an included name is a relation between the two
tables, whichever of them one starts from.
-/
def Relates (n : Naming) (catalog : Catalog) (t other : Table ε) (key : ForeignKey ε)
    (target : Target)
    : Prop :=
  ∃ owner ends,
    catalog.table? (n.apiName t.name) = some owner
    ∧ catalog.table? (n.apiName other.name) = some ends
    ∧ (owner, n.relation key target) ∈ Catalog.relationsBetween owner ends
    ∧ (owner, n.relation key target) ∈ Catalog.relationsBetween ends owner

/-- In a catalog of the descriptions, a foreign key between included tables is a relation. -/
theorem relates_of_covers {catalog : Catalog} (covers : n.Covers m included catalog.tables)
    {t other : Table ε} (declares : t ∈ m.tables) (listed : IncludedBy included t)
    {key : ForeignKey ε} (keys : key ∈ t.foreignKeys) {target : Target}
    (leads : key.target = .ok target) (declares' : other ∈ m.tables)
    (listed' : IncludedBy included other) (same : other.name = target.table)
    : n.Relates catalog t other key target := by
  obtain ⟨owner, owns, describes⟩ := covers.all t declares listed
  obtain ⟨ends, there, describes'⟩ := covers.all other declares' listed'
  have related : n.relation key target ∈ owner.relations :=
    (describes.relations _).mpr ⟨key, keys, target, leads, ⟨other, declares', listed', same⟩, rfl⟩
  have id : (n.relation key target).targetTable = ends.id := by
    rw [describes'.id, same]
    rfl
  have named := catalog.findsNamed.tableNames
  exact ⟨owner, ends, (named _ _).mpr ⟨owns, describes.apiName⟩,
    (named _ _).mpr ⟨there, describes'.apiName⟩,
    mem_relationsBetween catalog owns there related id⟩

end Document

end Naming

-----------------------------------------------------------------------------------------
-- A schema with composite keys and a table that refers to itself
-----------------------------------------------------------------------------------------

namespace Sample

open Memory (Declared LeadsTo)

def column (name : String) (isKey : Bool) : Memory.Column :=
  ⟨name, [.integer], .bool isKey, none, .null, .null⟩

def companies : Memory.Table := ⟨"companies", none, [column "id" true], []⟩

def audits : Memory.Table := ⟨"audits", none, [column "id" true], []⟩

/-- Employees are numbered by company, and have managers in the same company. -/
def employees : Memory.Table :=
  ⟨"employees", none,
    [column "company" true, column "number" true, column "manager" false, column "audit" false],
    [⟨["company"], [⟨"companies.id"⟩]⟩,
      ⟨["company", "manager"], [⟨"employees.company"⟩, ⟨"employees.number"⟩]⟩,
      ⟨["audit"], [⟨"audits.id"⟩]⟩]⟩

def staff : List Memory.Table := [employees, companies, audits]

def home : Database := ⟨"main", .postgres, none, none⟩

theorem staff_declared : Declared staff := by
  have first : Memory.declare [] employees = .ok [employees] := by cbv
  have second : Memory.declare [employees] companies = .ok [employees, companies] := by cbv
  have third : Memory.declare [employees, companies] audits = .ok staff := by cbv
  exact .next (.next (.next .none first) second) third

theorem staff_linked : ∀ t ∈ staff, ∀ link ∈ t.links, ∃ other, LeadsTo staff link other := by
  have distinct := staff_declared.consistent.1
  have followed : ∀ t ∈ staff, ∀ link ∈ t.links,
      (Memory.follow staff t link.1 link.2).isOk = true := by
    decide +kernel
  intro t member link links
  have ok := followed t member link links
  cases found : Memory.follow staff t link.1 link.2 with
  | ok other => exact ⟨other, (Memory.follow_eq_ok distinct).mp found⟩
  | error defect => rw [found] at ok; cases ok

/-- The columns of the staff are plainly keys or none. -/
theorem staff_flagged {t : Table Memory.Defect} (member : t ∈ (Memory.metaData staff).tables)
    {c : Column} (columns : c ∈ t.columns)
    : c.Flagged := by
  have plain : ∀ t ∈ (Memory.metaData staff).tables, ∀ c ∈ t.columns,
      c.primaryKey = .bool true ∨ c.primaryKey = .bool false := by
    simp [Memory.metaData, Memory.Table.described, Memory.Column.described, staff, employees,
      companies, audits, column]
  rcases plain t member c columns with is | is
  · exact .inr ⟨true, by rw [is]; rfl⟩
  · exact .inr ⟨false, by rw [is]; rfl⟩

end Sample

end Polystore.Schema
