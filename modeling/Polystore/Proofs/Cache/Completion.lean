import Polystore.Proofs.Cache.Mirroring
import Polystore.Proofs.Planning.CacheHits

/-! Rows of the cache completed by rows of the database. Where cached rows stand for the stored
rows of their ids, they and the rows fetched for all other ids are, up to order, the rows that
the database alone has for all ids, and none of them is taken for another.
-/

namespace Polystore.Cache

open Semantics Planning

variable {v : Conventions} {c : Catalog} {context : Context} {name : String} {rows : List Row}

-----------------------------------------------------------------------------------------
-- The stored rows of ids
-----------------------------------------------------------------------------------------

variable (v c context name) in
/-- Whether a stored row is a visible one whose key is equal to an id. -/
def sought (id : Value) (row : Row) : Bool :=
  id.equals (row.cell (c.keyName name)) && visible v c context name row

variable (v c context name) in
/-- The visible rows that some ids lead to, in the order in which they are stored. -/
def soughtRows (rows : List Row) (ids : List Value) : List Row :=
  rows.filter fun row =>
    ids.any (·.equals (row.cell (c.keyName name))) && visible v c context name row

/-- Ids that are equal to the same value are the same. -/
theorem same_of_equals {a b x : Value} (plain : b.isCollection = false)
    (ha : a.equals x = true) (hb : b.equals x = true)
    : a.same b = true :=
  Value.same_trans a x b (Value.equals_iff.mp ha).2
    (Value.same_symm plain (Value.equals_iff.mp hb).2)

/-- The visible rows that ids lead to are, up to order, those of one id after the other. -/
theorem soughtRows_perm {keys : List (Value × String)} (apart : Apart keys) (rows : List Row)
    : (soughtRows v c context name rows (keys.map Prod.fst)).Perm
        (keys.flatMap fun e => rows.filter (sought v c context name e.1)) := by
  have each (row : Row)
      : ((keys.map Prod.fst).any (·.equals (row.cell (c.keyName name)))
          && visible v c context name row)
        = keys.any fun e => sought v c context name e.1 row := by
    rw [List.any_map]
    cases shown : visible v c context name row <;> simp [sought, shown, Function.comp_def]
  simp only [soughtRows, each]
  refine filter_any_perm (apart.distinct.imp_of_mem fun {a b} ha hb different row _ sa => ?_)
  cases sb : sought v c context name b.1 row with
  | false => rfl
  | true =>
      simp only [sought, Bool.and_eq_true] at sa sb
      simp [same_of_equals (apart.scalars b hb) sa.1 sb.1] at different

/-- A stored row whose key is equal to an id is the only one that the id can lead to. -/
theorem filter_sought_eq (keyed : Keyed (c.keyName name) rows) {id : Value}
    (plain : id.isCollection = false) {stored : Row} (member : stored ∈ rows)
    (equal : id.equals (stored.cell (c.keyName name)) = true)
    : rows.filter (sought v c context name id)
      = if visible v c context name stored then [stored] else [] := by
  have only : rows.filter (fun row => id.equals (row.cell (c.keyName name))) = [stored] := by
    refine filter_eq_singleton member equal (keyed.apart.imp fun {a b} different ha => ?_)
    cases hb : id.equals (b.cell (c.keyName name)) with
    | false => rfl
    | true => simp [Value.equals_trans (Value.equals_symm plain ha) hb] at different
  have split : rows.filter (sought v c context name id)
      = (rows.filter fun row => id.equals (row.cell (c.keyName name))).filter
          (visible v c context name) := by
    rw [List.filter_filter]
    exact List.filter_congr fun row _ => Bool.and_comm ..
  rw [split, only, List.filter_singleton]
  cases visible v c context name stored <;> rfl

-----------------------------------------------------------------------------------------
-- Cached rows for stored ones
-----------------------------------------------------------------------------------------

variable {nesting : Nat} {selection : List ColumnRef} {key : String}
  {values : Entries String Value}

/-- A held row takes the place of the stored row of its id: it meets the row rules exactly when
the stored row is visible, agrees with it when cut to the selection, and has its key.
-/
structure Replaces (v : Conventions) (c : Catalog) (context : Context) (name : String)
    (selection : List ColumnRef) (key : String) (id : Value) (row stored : Row)
    : Prop where
  equal : id.equals (stored.cell (c.keyName name)) = true
  meets : row.meets (c.rowConditions context name) = .ok (visible v c context name stored)
  agrees : Row.Agrees (projectCached selection row) (c.projected selection stored)
  key : (row.cell key).Equal (stored.cell (c.keyName name))

variable (nesting v c context name rows selection key values) in
/-- Keys under which only rows are held that take the place of stored ones. -/
def Replacing (keys : List (Value × String)) : Prop :=
  ∀ e ∈ keys,
    ∀ row ∈ heldRow nesting values (c.rowConditions context name) e.2,
      ∃ stored ∈ rows, Replaces v c context name selection key e.1 row stored

/-- The held row that is shown is one whose stored row is visible. -/
theorem Replaces.shownRow_eq {id : Value} {row stored : Row}
    (h : Replaces v c context name selection key id row stored) {cacheKey : String}
    (held : heldRow nesting values (c.rowConditions context name) cacheKey = some row)
    : shownRow nesting values (c.rowConditions context name) cacheKey
      = if visible v c context name stored then some row else none := by
  rw [shownRow, held, Option.filter, h.meets]

/-- The rows that keys show agree with the visible rows of the ids whose rows are held, by
induction on the keys.
-/
theorem shown_agree (keyed : Keyed (c.keyName name) rows) {keys : List (Value × String)}
    (scalars : ∀ e ∈ keys, e.1.isCollection = false)
    (replacing : Replacing v c context name rows nesting selection key values keys)
    : List.Forall₂ Row.Agrees
        ((keys.filterMap fun e => shownRow nesting values (c.rowConditions context name) e.2).map
          (projectCached selection))
        (((keys.filter fun e =>
            (heldRow nesting values (c.rowConditions context name) e.2).isSome).flatMap
          fun e => rows.filter (sought v c context name e.1)).map
          (c.projected selection)) := by
  induction keys with
  | nil => exact .nil
  | cons e rest ih =>
      have behind := ih (fun a member => scalars a (List.mem_cons_of_mem _ member))
        fun a member => replacing a (List.mem_cons_of_mem _ member)
      cases held : heldRow nesting values (c.rowConditions context name) e.2 with
      | none =>
          have shown : shownRow nesting values (c.rowConditions context name) e.2 = none := by
            rw [shownRow, held]
            rfl
          simp only [List.filterMap_cons, shown]
          rwa [List.filter_cons_of_neg (by simp [held])]
      | some row =>
          obtain ⟨stored, member, replaces⟩ := replacing e (List.mem_cons_self ..) row held
          have shown := replaces.shownRow_eq held
          rw [List.filter_cons_of_pos (by simp [held]), List.flatMap_cons, List.map_append,
            filter_sought_eq keyed (scalars e (List.mem_cons_self ..)) member replaces.equal]
          simp only [List.filterMap_cons, shown]
          cases visible v c context name stored with
          | false => exact behind
          | true => exact .cons replaces.agrees behind

-----------------------------------------------------------------------------------------
-- Merging
-----------------------------------------------------------------------------------------

/-- What a lookup makes of a stored row has its values under the labels. -/
theorem cell_projected (distinct : (selection.map (·.label)).Nodup) {ref : ColumnRef}
    (member : ref ∈ selection) (row : Row)
    : Row.cell (c.projected selection row) ref.label
      = row.cell (c.columnName ref).physicalName := by
  have listed : (c.projected selection row).lookup ref.label
      = some (row.cell (c.columnName ref).physicalName) := by
    refine Entries.lookup_of_mem ?_ (List.mem_map_of_mem member)
    rwa [Entries.keys, Catalog.projected, List.map_map]
  rw [Row.cell, listed, Option.getD_some]

/-- Rows that are already cut to the selection are merged as they are. -/
theorem projectFetched_projected (distinct : (selection.map (·.label)).Nodup) (row : Row)
    : projectFetched selection (c.projected selection row) = c.projected selection row := by
  have pairs : selection.map (fun ref =>
        (ref.label, Row.cell (c.projected selection row) ref.label))
      = c.projected selection row :=
    List.map_congr_left fun ref member => by rw [cell_projected distinct member]
  rw [projectFetched, ofList_labelled distinct, pairs]

/-- A value that is no collection is found by itself. -/
theorem keyOf_eq {x : Value} (plain : x.isCollection = false) : keyOf x = x := by
  rw [keyOf, plain]
  rfl

/-- An id that is equal to a value is a collection where that is one. -/
theorem isCollection_of_equals {a x : Value} (plain : a.isCollection = false)
    (h : a.equals x = true)
    : x.isCollection = false := by
  rw [← Value.isCollection_of_same (Value.equals_iff.mp h).2, plain]

/-- The key of a row that is shown is equal to an id whose row is held. -/
theorem exists_of_mem_shown {keys : List (Value × String)}
    (replacing : Replacing v c context name rows nesting selection key values keys) {row : Row}
    (shown
      : row ∈ keys.filterMap fun e => shownRow nesting values (c.rowConditions context name) e.2)
    : ∃ e ∈ keys,
        (heldRow nesting values (c.rowConditions context name) e.2).isSome
        ∧ e.1.equals (row.cell key) = true := by
  obtain ⟨e, member, shown⟩ := List.mem_filterMap.mp shown
  have held := (shownRow_eq_some.mp shown).1
  obtain ⟨stored, _, replaces⟩ := replacing e member row held
  exact ⟨e, member, by rw [held]; rfl, Value.equals_trans replaces.equal replaces.key.back⟩

variable (nesting c context name rows selection values) in
/-- A row that is fetched for an id whose row is not held. -/
def Missing (keys : List (Value × String)) (row : Row) : Prop :=
  ∃ e ∈ keys, ∃ stored ∈ rows,
    heldRow nesting values (c.rowConditions context name) e.2 = none
    ∧ e.1.equals (stored.cell (c.keyName name)) = true
    ∧ row = c.projected selection stored

/-- Rows are merged where all of their keys can be found. -/
theorem merged_eq_ok {cached fetched found : List Row}
    : merged cached fetched selection key = .ok found
      ↔ (mergeKeys cached fetched selection key).all isFindable = true
        ∧ merge cached fetched selection key = found := by
  unfold merged
  split <;> simp_all

/-- Rows whose keys are no collections are told apart by them. -/
theorem merged_of_scalars {cached fetched : List Row}
    (plain : ∀ x ∈ mergeKeys cached fetched selection key, x.isCollection = false)
    : merged cached fetched selection key = .ok (merge cached fetched selection key) :=
  merged_eq_ok.mpr
    ⟨List.all_eq_true.mpr fun x member => by simp [isFindable, plain x member], rfl⟩

section Merging

variable {keys : List (Value × String)} {fetched : List Row}

/-- What a lookup makes of a stored row has its key under the label of the key. -/
theorem cell_keyLabel (distinct : (selection.map (·.label)).Nodup)
    (named
      : ∀ ref ∈ selection,
          ref.column = key → (c.columnName ref).physicalName = c.keyName name)
    {label : String} (labelled : keyLabel? selection key = some label) (stored : Row)
    : Row.cell (c.projected selection stored) label = stored.cell (c.keyName name) := by
  obtain ⟨ref, found, rfl⟩ := Option.map_eq_some_iff.mp labelled
  have column : ref.column = key := by simpa using List.find?_some found
  have selected := List.mem_of_find?_eq_some found
  rw [cell_projected distinct selected, named ref selected column]

/-- The keys of the rows that are shown, and of those that are fetched, are no collections. -/
theorem scalar_mergeKeys (distinct : (selection.map (·.label)).Nodup)
    (named
      : ∀ ref ∈ selection,
          ref.column = key → (c.columnName ref).physicalName = c.keyName name)
    (apart : Apart keys)
    (replacing : Replacing v c context name rows nesting selection key values keys)
    (missing : ∀ row ∈ fetched, Missing c context name rows nesting selection values keys row)
    : ∀ x ∈ mergeKeys
          (keys.filterMap fun e => shownRow nesting values (c.rowConditions context name) e.2)
          fetched selection key,
        x.isCollection = false := by
  intro x member
  rcases List.mem_append.mp member with cached | fetched
  · obtain ⟨row, shown, rfl⟩ := List.mem_map.mp cached
    obtain ⟨e, member, _, equal⟩ := exists_of_mem_shown replacing shown
    exact isCollection_of_equals (apart.scalars e member) equal
  · cases labelled : keyLabel? selection key with
    | none => simp [labelled] at fetched
    | some label =>
        rw [labelled] at fetched
        obtain ⟨row, listed, rfl⟩ := List.mem_map.mp fetched
        obtain ⟨e, he, stored, _, _, equal, rfl⟩ := missing row listed
        rw [cell_keyLabel distinct named labelled]
        exact isCollection_of_equals (apart.scalars e he) equal

/-- Nothing that is fetched is left out: no row of another id has the key of a cached row. -/
theorem merged_eq_append (distinct : (selection.map (·.label)).Nodup)
    (named
      : ∀ ref ∈ selection,
          ref.column = key → (c.columnName ref).physicalName = c.keyName name)
    (apart : Apart keys)
    (replacing : Replacing v c context name rows nesting selection key values keys)
    (missing : ∀ row ∈ fetched, Missing c context name rows nesting selection values keys row)
    : merged (keys.filterMap fun e => shownRow nesting values (c.rowConditions context name) e.2)
        fetched selection key
      = .ok
          ((keys.filterMap fun e =>
              shownRow nesting values (c.rowConditions context name) e.2).map
            (projectCached selection)
          ++ fetched) := by
  have scalars := scalar_mergeKeys distinct named apart replacing missing
  rw [merged_of_scalars scalars, merge, List.filter_eq_self.mpr]
  · congr 2
    calc
      fetched.map (projectFetched selection)
        = fetched.map id := by
          refine List.map_congr_left fun row member => ?_
          obtain ⟨_, _, stored, _, _, _, rfl⟩ := missing row member
          exact projectFetched_projected distinct stored
      _ = fetched := List.map_id _
  · intro row member
    obtain ⟨e, he, stored, _, none, equal, rfl⟩ := missing row member
    cases labelled : keyLabel? selection key with
    | none => rfl
    | some label =>
        have plain := isCollection_of_equals (apart.scalars e he) equal
        simp only [cell_keyLabel distinct named labelled, keyOf_eq plain, Bool.not_eq_true']
        rw [Value.isAmong, List.any_map, List.any_eq_false]
        intro shown seen same
        obtain ⟨other, hother, held, equal'⟩ := exists_of_mem_shown replacing seen
        rw [Function.comp_apply,
          keyOf_eq (isCollection_of_equals (apart.scalars other hother) equal')] at same
        have equal'' : other.1.equals (stored.cell (c.keyName name)) = true :=
          Value.equals_trans equal' (Value.equals_iff.mpr ⟨by
            rw [← Value.isUndefined_of_same (Value.equals_iff.mp equal').2,
              (Value.equals_iff.mp equal').1], same⟩)
        have is := apart.eq_of_same hother he (same_of_equals (apart.scalars e he) equal'' equal)
        rw [is, none] at held
        cases held

end Merging

/-- Asking for an id again leads to no other rows. -/
theorem soughtRows_distinct {ids : List Value} (scalars : ∀ id ∈ ids, id.isCollection = false)
    (rows : List Row)
    : soughtRows v c context name rows (Value.distinct ids)
      = soughtRows v c context name rows ids := by
  refine List.filter_congr fun row _ => ?_
  congr 1
  rw [Bool.eq_iff_iff, List.any_eq_true, List.any_eq_true]
  constructor
  · rintro ⟨id, member, equal⟩
    exact ⟨id, Value.mem_of_mem_distinct member, equal⟩
  · rintro ⟨id, member, equal⟩
    obtain ⟨first, kept, same⟩ := Value.same_of_mem_distinct (scalars id member) member
    obtain ⟨defined, equal⟩ := Value.equals_iff.mp equal
    refine ⟨first, kept, Value.equals_iff.mpr ⟨?_, Value.same_trans _ _ _ same equal⟩⟩
    rw [Value.isUndefined_of_same same, defined]

/-- The rows that keys lead to are those of the keys whose rows are held and those of all others. -/
theorem soughtRows_divided {keys : List (Value × String)} (apart : Apart keys)
    (held : Value × String → Bool) (rows : List Row)
    : ((keys.filter held).flatMap (fun e => rows.filter (sought v c context name e.1))
        ++ soughtRows v c context name rows ((keys.filter fun e => !held e).map Prod.fst)).Perm
          (soughtRows v c context name rows (keys.map Prod.fst)) := by
  have rest : Apart (keys.filter fun e => !held e) :=
    ⟨fun e member => apart.scalars e (List.mem_filter.mp member).1,
      apart.distinct.sublist List.filter_sublist⟩
  refine ((soughtRows_perm rest rows).append_left _).trans ?_
  rw [← List.flatMap_append]
  exact ((List.filter_append_perm held keys).flatMap_right _).trans
    (soughtRows_perm apart rows).symm

/-- What a lookup makes of the rows of ids whose rows are not held is what was missing. -/
theorem missing_of_mem_soughtRows {keys : List (Value × String)} {row : Row}
    (member
      : row ∈ (soughtRows v c context name rows
            ((keys.filter fun e =>
              !(heldRow nesting values (c.rowConditions context name) e.2).isSome).map
                Prod.fst)).map
          (c.projected selection))
    : Missing c context name rows nesting selection values keys row := by
  obtain ⟨stored, sought, rfl⟩ := List.mem_map.mp member
  obtain ⟨hstored, met⟩ := List.mem_filter.mp sought
  simp only [Bool.and_eq_true, List.any_eq_true] at met
  obtain ⟨⟨id, hid, equal⟩, _⟩ := met
  obtain ⟨e, he, rfl⟩ := List.mem_map.mp hid
  obtain ⟨he, none⟩ := List.mem_filter.mp he
  exact ⟨e, he, stored, hstored, by simpa using none, equal, rfl⟩

/-- The rows that keys show and those fetched for all other ids are, merged, the rows that all
ids together lead to.
-/
theorem merged_sameRows (keyed : Keyed (c.keyName name) rows)
    (distinct : (selection.map (·.label)).Nodup)
    (named
      : ∀ ref ∈ selection,
          ref.column = key → (c.columnName ref).physicalName = c.keyName name)
    {keys : List (Value × String)} (apart : Apart keys)
    (replacing : Replacing v c context name rows nesting selection key values keys)
    {fetched : List Row}
    (others
      : fetched.Perm
          ((soughtRows v c context name rows
              ((keys.filter fun e =>
                !(heldRow nesting values (c.rowConditions context name) e.2).isSome).map
                  Prod.fst)).map
            (c.projected selection)))
    : ∃ found,
        merged (keys.filterMap fun e => shownRow nesting values (c.rowConditions context name) e.2)
          fetched selection key
          = .ok found
        ∧ SameRows found
            ((soughtRows v c context name rows (keys.map Prod.fst)).map
              (c.projected selection)) := by
  have missing
      : ∀ row ∈ fetched, Missing c context name rows nesting selection values keys row :=
    fun row member => missing_of_mem_soughtRows (others.mem_iff.mp member)
  refine ⟨_, merged_eq_append distinct named apart replacing missing, _, ?_,
    List.rel_append (shown_agree keyed apart.scalars replacing)
    (List.forall₂_same.mpr fun row _ => row.agrees_self)⟩
  refine (others.append_left _).trans ?_
  rw [← List.map_append]
  exact (soughtRows_divided apart _ rows).map _

end Polystore.Cache
