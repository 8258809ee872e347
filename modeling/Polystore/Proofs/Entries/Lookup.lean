import Mathlib.Data.List.Forall2
import Mathlib.Data.List.Induction
import Mathlib.Data.List.Nodup
import Polystore.Entries

/-! Looking up entries by key. An entry that is found is one of the entries, and where no key
occurs twice every entry is found by its key.
-/

namespace Polystore.Entries

variable {κ α β : Type} [BEq κ] [LawfulBEq κ]

/-- A value found under a key is that of an entry with the key. -/
theorem mem_of_lookup {entries : Entries κ α} {key : κ} {value : α}
    (found : entries.lookup key = some value)
    : (key, value) ∈ entries := by
  obtain ⟨before, after, same, _⟩ := List.lookup_eq_some_iff.mp found
  rw [same]
  simp

/-- Where no key occurs twice, an entry's value is found under its key. -/
theorem lookup_of_mem {entries : Entries κ α} (distinct : entries.keys.Nodup) {key : κ}
    {value : α} (member : (key, value) ∈ entries)
    : entries.lookup key = some value := by
  induction entries with
  | nil => simp at member
  | cons first rest ih =>
      obtain ⟨k, v⟩ := first
      obtain ⟨new, later⟩ := List.nodup_cons.mp distinct
      rcases List.mem_cons.mp member with same | behind
      · cases same
        exact List.lookup_cons_self
      · have different : key ≠ k := by
          intro same
          exact new (List.mem_map.mpr ⟨_, behind, same⟩)
        rw [List.lookup_cons, beq_false_of_ne different]
        exact ih later behind

/-- A key of some entry has a value. -/
theorem lookup_of_mem_keys {entries : Entries κ α} {key : κ} (member : key ∈ entries.keys)
    : ∃ value, entries.lookup key = some value := by
  obtain ⟨⟨k, v⟩, hm, rfl⟩ := List.mem_map.mp member
  apply Option.isSome_iff_exists.mp
  rw [List.lookup_isSome_iff]
  exact ⟨_, hm, by simp⟩

/-- What is found among entries is found with others behind them. -/
theorem lookup_append_of_mem {entries more : Entries κ α} {key : κ} (known : key ∈ entries.keys)
    : (entries ++ more).lookup key = entries.lookup key := by
  obtain ⟨value, found⟩ := lookup_of_mem_keys known
  rw [List.lookup_append, found, Option.some_or]

/-- An entry behind others is found where none of them has its key. -/
theorem lookup_append_new {entries : Entries κ α} {key : κ} {value : α}
    (new : key ∉ entries.keys)
    : (entries ++ [(key, value)]).lookup key = some value := by
  have none : entries.lookup key = none := by
    rw [List.lookup_eq_none_iff]
    intro e member
    simpa using fun same => new (List.mem_map.mpr ⟨e, member, same.symm⟩)
  rw [List.lookup_append, none, Option.none_or, List.lookup_cons_self]

/-- A put changes what is found under its key only, by induction on the entries. -/
theorem lookup_put (entries : Entries κ α) (key other : κ) (value : α)
    : (entries.put key value).lookup other
      = if other == key then some value else entries.lookup other := by
  induction entries with
  | nil =>
      rw [put, List.lookup_cons]
      cases other == key <;> rfl
  | cons first rest ih =>
      obtain ⟨k, v⟩ := first
      unfold put
      by_cases known : k = key
      · subst known
        rw [if_pos (beq_self_eq_true k), List.lookup_cons, List.lookup_cons]
        cases other == k <;> rfl
      · rw [beq_false_of_ne known, if_neg Bool.false_ne_true, List.lookup_cons, List.lookup_cons,
          ih]
        by_cases here : other = k
        · subst here
          rw [beq_self_eq_true, beq_false_of_ne known]
          rfl
        · rw [beq_false_of_ne here]

/-- A value that stands under a key after a put was put there or was there before. -/
theorem mem_of_mem_put {entries : Entries κ α} {key : κ} {value : α} {e : κ × α}
    (member : e ∈ entries.put key value)
    : e = (key, value) ∨ e ∈ entries := by
  induction entries with
  | nil => exact .inl (List.mem_singleton.mp member)
  | cons first rest ih =>
      obtain ⟨k, v⟩ := first
      unfold put at member
      split at member
      next same =>
        rcases List.mem_cons.mp member with rfl | later
        · exact .inl (by rw [eq_of_beq same])
        · exact .inr (List.mem_cons_of_mem _ later)
      · rcases List.mem_cons.mp member with rfl | later
        · exact .inr (List.mem_cons_self ..)
        · exact (ih later).imp_right (List.mem_cons_of_mem _)

/-- What keys are mapped to is found under each of them, by induction on the keys. -/
theorem lookup_map_self {keys : List κ} {key : κ} (f : κ → α) (member : key ∈ keys)
    : (keys.map fun k => (k, f k)).lookup key = some (f key) := by
  induction keys with
  | nil => cases member
  | cons k rest ih =>
      rw [List.map_cons, List.lookup_cons]
      by_cases same : key = k
      · subst same
        rw [beq_self_eq_true]
      · rw [beq_false_of_ne same]
        exact ih ((List.mem_cons.mp member).resolve_left same)

omit [LawfulBEq κ] in
/-- Looking up mapped values is mapping the value that is looked up. -/
theorem lookup_map (entries : Entries κ α) (f : α → β) (key : κ)
    : (entries.map fun e => (e.1, f e.2)).lookup key = (entries.lookup key).map f := by
  induction entries with
  | nil => rfl
  | cons first rest ih =>
      obtain ⟨k, v⟩ := first
      simp only [List.map_cons, List.lookup_cons, ih]
      cases key == k <;> rfl

omit [BEq κ] [LawfulBEq κ] in
/-- Entries that are aligned with keys have exactly these keys. -/
theorem keys_of_forall₂ {R : κ → κ × α → Prop} {keys : List κ} {entries : Entries κ α}
    (aligned : List.Forall₂ (fun key e => e.1 = key ∧ R key e) keys entries)
    : entries.keys = keys := by
  induction aligned with
  | nil => rfl
  | cons head _ ih => exact congrArg₂ List.cons head.1 ih

omit [BEq κ] [LawfulBEq κ] in
/-- What holds of entries aligned with keys holds of each of them, by induction on the entries. -/
theorem of_mem_of_forall₂ {R : κ → α → Prop} {keys : List κ} {entries : Entries κ α}
    (aligned : List.Forall₂ (fun key e => e.1 = key ∧ R key e.2) keys entries) {e : κ × α}
    (member : e ∈ entries)
    : e.1 ∈ keys ∧ R e.1 e.2 := by
  induction aligned with
  | nil => simp at member
  | cons head _ ih =>
      rcases List.mem_cons.mp member with rfl | later
      · obtain ⟨rfl, holds⟩ := head
        exact ⟨List.mem_cons_self .., holds⟩
      · exact ⟨List.mem_cons_of_mem _ (ih later).1, (ih later).2⟩

/-- What holds of entries aligned with keys holds of a value that is found under a key. -/
theorem of_lookup_of_forall₂ {R : κ → α → Prop} {keys : List κ} {entries : Entries κ α}
    (aligned : List.Forall₂ (fun key e => e.1 = key ∧ R key e.2) keys entries) {key : κ}
    {value : α} (found : entries.lookup key = some value)
    : key ∈ keys ∧ R key value :=
  of_mem_of_forall₂ aligned (mem_of_lookup found)

/-- Where entries are aligned with named items, each name is found with the value of an item, by
induction on the items.
-/
theorem exists_lookup_of_forall₂ {τ : Type} {name : τ → κ} {R : τ → α → Prop} {items : List τ}
    {entries : Entries κ α}
    (aligned : List.Forall₂ (fun t e => e.1 = name t ∧ R t e.2) items entries) {key : κ}
    (member : key ∈ items.map name)
    : ∃ t ∈ items, ∃ value, entries.lookup key = some value ∧ R t value := by
  induction aligned with
  | nil => cases member
  | @cons t e items entries head _ ih =>
      obtain ⟨k, v⟩ := e
      obtain ⟨rfl, related⟩ := head
      by_cases same : key = name t
      · subst same
        exact ⟨t, List.mem_cons_self .., v, List.lookup_cons_self, related⟩
      · have later : key ∈ items.map name := (List.mem_cons.mp member).resolve_left same
        obtain ⟨other, listed, value, found, related⟩ := ih later
        refine ⟨other, List.mem_cons_of_mem _ listed, value, ?_, related⟩
        rw [List.lookup_cons, beq_false_of_ne same]
        exact found

/-- What is found among the entries of some keys is found among all of them. -/
theorem lookup_of_lookup_among {entries : Entries κ α} {asked : List κ} {key : κ} {value : α}
    (found : (entries.among asked).lookup key = some value)
    : entries.lookup key = some value := by
  obtain ⟨other, _, same⟩ := List.mem_filterMap.mp (mem_of_lookup found)
  obtain ⟨_, known, same⟩ := Option.map_eq_some_iff.mp same
  cases same
  exact known

/-- Going through the keys and looking each up is going through the entries. -/
theorem map_lookup_keys {entries : Entries κ α} (distinct : entries.keys.Nodup)
    (f : κ → Option α → β)
    : entries.keys.map (fun key => f key (entries.lookup key))
      = entries.map fun e => f e.1 (some e.2) := by
  rw [keys, List.map_map]
  refine List.map_congr_left fun e member => ?_
  rw [Function.comp_apply, lookup_of_mem distinct member]

/-- A new key is put at the end. -/
theorem put_of_not_mem {entries : Entries κ α} {key : κ} (new : key ∉ entries.keys) (value : α)
    : entries.put key value = entries ++ [(key, value)] := by
  induction entries with
  | nil => rfl
  | cons first rest ih =>
      obtain ⟨k, v⟩ := first
      have different : k ≠ key := fun same => new (by simp [keys, same])
      have later : key ∉ keys rest := fun member => new (List.mem_cons_of_mem _ member)
      simp only [put, beq_false_of_ne different, ih later, Bool.false_eq_true, if_false,
        List.cons_append]

/-- A key that is put again stays where it is. -/
theorem keys_put_of_mem {entries : Entries κ α} {key : κ} (known : key ∈ entries.keys) (value : α)
    : (entries.put key value).keys = entries.keys := by
  induction entries with
  | nil => cases known
  | cons first rest ih =>
      obtain ⟨k, v⟩ := first
      unfold put
      split
      next => rfl
      next other =>
        have later : key ∈ keys rest := (List.mem_cons.mp known).resolve_left fun same =>
          other (beq_iff_eq.mpr same.symm)
        exact congrArg (k :: ·) (ih later)

theorem nodup_keys_put {entries : Entries κ α} (distinct : entries.keys.Nodup) (key : κ) (value : α)
    : (entries.put key value).keys.Nodup := by
  by_cases known : key ∈ entries.keys
  · rwa [keys_put_of_mem known]
  · rw [put_of_not_mem known, keys, List.map_append]
    exact List.Nodup.append distinct (List.nodup_singleton key)
      (List.disjoint_singleton.mpr known)

/-- Pairs whose keys are distinct are left as they are, by induction on the pairs. -/
theorem ofList_eq_self {pairs : List (κ × α)} (distinct : (keys pairs).Nodup)
    : ofList pairs = pairs := by
  have added (before : Entries κ α) (distinct : (keys (before ++ pairs)).Nodup)
      : pairs.foldl (fun entries p => entries.put p.1 p.2) before = before ++ pairs := by
    induction pairs generalizing before with
    | nil => simp
    | cons p rest ih =>
        have new : p.1 ∉ keys before := by
          intro member
          rw [keys, List.map_append] at distinct
          exact List.disjoint_of_nodup_append distinct member (by simp)
        rw [List.foldl_cons, put_of_not_mem new,
          ih (by simp only [keys, List.map_cons, List.nodup_cons] at *; tauto) _
            (by simpa using distinct),
          List.append_assoc, List.singleton_append]
  exact added [] distinct

/-- Items that are put under their keys, one after the other. -/
def noted (items : List α) (key : α → κ) : Entries κ α := ofList (items.map fun a => (key a, a))

/-- Under a key is the last item of that key, by induction from the last item on. -/
theorem lookup_noted (items : List α) (key : α → κ) (name : κ)
    : (noted items key).lookup name = items.reverse.find? fun a => key a == name := by
  induction items using List.reverseRecOn with
  | nil => rfl
  | append_singleton items last ih =>
      have put : noted (items ++ [last]) key = (noted items key).put (key last) last := by
        simp [noted, ofList]
      rw [put, lookup_put, ih, List.reverse_append, List.reverse_singleton, List.singleton_append,
        List.find?_cons, BEq.comm]
      cases key last == name <;> rfl

/-- What is put for each of some keys by itself is found there, also where keys repeat, by induction
from the last key on.
-/
theorem lookup_ofList_map_self {keys : List κ} {key : κ} (f : κ → α) (member : key ∈ keys)
    : (ofList (keys.map fun k => (k, f k))).lookup key = some (f key) := by
  induction keys using List.reverseRecOn with
  | nil => cases member
  | append_singleton keys last ih =>
      rw [List.map_append, ofList, List.foldl_append]
      refine (lookup_put ..).trans ?_
      split
      next same => rw [eq_of_beq same]
      next other =>
        refine ih ((List.mem_append.mp member).resolve_right fun is => other ?_)
        exact beq_iff_eq.mpr (List.mem_singleton.mp is)

/-- What is looked up for each of some keys is found under them, by induction on the keys. -/
theorem lookup_filterMap_lookup {keys : List κ} {key : κ} (entries : Entries κ α)
    (member : key ∈ keys)
    : (keys.filterMap fun k => (entries.lookup k).map (k, ·)).lookup key = entries.lookup key := by
  cases found : entries.lookup key with
  | none =>
      rw [List.lookup_eq_none_iff]
      intro e listed
      obtain ⟨k, _, same⟩ := List.mem_filterMap.mp listed
      obtain ⟨value, looked, rfl⟩ := Option.map_eq_some_iff.mp same
      refine bne_iff_ne.mpr fun same => ?_
      subst same
      rw [found] at looked
      cases looked
  | some value =>
      induction keys with
      | nil => cases member
      | cons k rest ih =>
          rw [List.filterMap_cons]
          by_cases same : key = k
          · subst same
            rw [found]
            exact List.lookup_cons_self
          · have later := ih ((List.mem_cons.mp member).resolve_left same)
            cases entries.lookup k with
            | none => exact later
            | some other =>
                rw [Option.map_some, List.lookup_cons, beq_false_of_ne same]
                exact later

end Polystore.Entries
