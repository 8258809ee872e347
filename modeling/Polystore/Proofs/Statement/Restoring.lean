import Polystore.Proofs.Entries.Firsts
import Polystore.Proofs.Entries.Lookup
import Polystore.Statement.Basic

/-! Rows that already have their values by label. Where the labels of the selected columns are
distinct, restoring such a row leaves it as it is: a physical name can only stand for a label
that has its value.
-/

namespace Polystore

namespace Entries

variable {κ α : Type} [BEq κ] [LawfulBEq κ]

omit [LawfulBEq κ] in
theorem mem_of_mem_putNew {entries : Entries κ α} {key : κ} {value : α} {e : κ × α}
    (member : e ∈ entries.putNew key value)
    : e = (key, value) ∨ e ∈ entries := by
  unfold putNew at member
  split at member
  · exact .inr member
  · rcases List.mem_append.mp member with before | new
    · exact .inr before
    · exact .inl (List.mem_singleton.mp new)

/-- A known key gets no other value. -/
theorem putNew_of_mem {entries : Entries κ α} {key : κ} (known : key ∈ entries.keys) (value : α)
    : entries.putNew key value = entries := by
  have present : (entries.any (·.1 == key)) = true := by
    obtain ⟨e, member, rfl⟩ := List.mem_map.mp known
    exact List.any_eq_true.mpr ⟨e, member, beq_self_eq_true _⟩
  rw [putNew, if_pos present]

/-- A new key is put behind the others. -/
theorem putNew_of_not_mem {entries : Entries κ α} {key : κ} (new : key ∉ entries.keys) (value : α)
    : entries.putNew key value = entries ++ [(key, value)] := by
  have absent : (entries.any (·.1 == key)) = false := by
    rw [List.any_eq_false]
    intro e member same
    exact new (List.mem_map.mpr ⟨e, member, eq_of_beq same⟩)
  rw [putNew, if_neg (by simp [absent])]

/-- A new key gets its value, and a known one keeps what it has. -/
theorem lookup_putNew (entries : Entries κ α) (key other : κ) (value : α)
    : (entries.putNew key value).lookup other
      = (entries.lookup other).or (if other == key then some value else none) := by
  by_cases known : key ∈ entries.keys
  · rw [putNew_of_mem known]
    cases here : other == key with
    | false => rw [if_neg Bool.false_ne_true, Option.or_none]
    | true =>
        obtain ⟨found, looked⟩ := lookup_of_mem_keys known
        rw [eq_of_beq here, looked, Option.some_or]
  · rw [putNew_of_not_mem known, List.lookup_append, List.lookup_cons]
    cases other == key <;> rfl

end Entries

namespace Statement

variable {s : Statement String}

/-- Names for labels, and the names that stand for the label of one more column. -/
def withNames (found : Entries String String) (c : ColumnName String) : Entries String String :=
  (found.putNew c.physicalName c.label).put (Nominal.ofText c.path) c.label

theorem labelsByName_eq (s : Statement String)
    : s.labelsByName = s.resultColumns.foldl withNames [] :=
  rfl

/-- Names stand for labels of columns only, by induction on the columns. -/
theorem label_mem_of_labelsByName {e : String × String} (member : e ∈ s.labelsByName)
    : e.2 ∈ s.resultColumns.map (·.label) := by
  have added (columns : List (ColumnName String)) (found : Entries String String)
      (member : e ∈ columns.foldl withNames found)
      : e ∈ found ∨ e.2 ∈ columns.map (·.label) := by
    induction columns generalizing found with
    | nil => exact .inl member
    | cons column rest ih =>
        rcases ih (withNames found column) member with before | later
        · rcases Entries.mem_of_mem_put before with rfl | before
          · exact .inr (List.mem_cons_self ..)
          · rcases Entries.mem_of_mem_putNew before with rfl | before
            · exact .inr (List.mem_cons_self ..)
            · exact .inl before
        · exact .inr (List.mem_cons_of_mem _ later)
  exact (added s.resultColumns [] member).resolve_left List.not_mem_nil

/-- A row of the result has one value for each label. -/
theorem keys_restore (s : Statement String) (row : Row)
    : (s.restore row).keys = s.labels.eraseDups := by
  simp [restore, Entries.keys, Function.comp_def]

/-- A statement for the values of columns, whose labels are distinct. -/
structure SelectsColumns (s : Statement String) : Prop where
  mode : s.mode = .rows
  groupBy : s.groupBy = []
  aggregates : s.aggregates = []
  distinct : (s.columns.map (·.label)).Nodup

theorem SelectsColumns.labels_eq (h : s.SelectsColumns)
    : s.labels = s.columns.map (·.label) := by
  simp [labels, h.mode, h.groupBy, h.aggregates]

/-- A name stands for a label of the result. -/
theorem SelectsColumns.label_mem (h : s.SelectsColumns) {name label : String}
    (found : s.labelOf? name = some label)
    : label ∈ s.labels := by
  obtain ⟨listed, _⟩ := Option.filter_eq_some_iff.mp found
  have member := label_mem_of_labelsByName (Entries.mem_of_lookup listed)
  rw [h.labels_eq]
  simpa [resultColumns, h.groupBy] using member

/-- A row with exactly the labels of the result is restored as it is. -/
theorem SelectsColumns.restore_eq_self (h : s.SelectsColumns) {row : Row}
    (labelled : row.keys = s.labels)
    : s.restore row = row := by
  have distinct : row.keys.Nodup := by
    rw [labelled, h.labels_eq]
    exact h.distinct
  have byLabel : s.labels.filterMap (fun label => (row.lookup label).map (label, ·)) = row := by
    rw [← labelled, Entries.keys, List.filterMap_map,
      List.filterMap_congr fun e member => by
        rw [Function.comp_apply, Entries.lookup_of_mem distinct member, Option.map_some],
      List.filterMap_some]
  simp only [restore, byLabel]
  rw [List.foldl_fixed']
  · rw [← labelled, eraseDups_of_nodup distinct,
      Entries.map_lookup_keys distinct fun label value => (label, value.getD .null)]
    simp
  · intro cell
    cases found : s.labelOf? cell.1 with
    | none => rfl
    | some label =>
        apply Entries.putNew_of_mem
        rw [labelled]
        exact h.label_mem found

end Statement

end Polystore
