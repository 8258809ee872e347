import Polystore.Proofs.Cache.Completion
import Polystore.Proofs.Json.Canonical

/-! Merging as a union by key. A fetched row is left out when its key is found among the cached
ones, and collections are found by their texts. So keys that are no collections are found where
they count as the same; a collection is found where it is identical, not where it is only equal,
and also where a text shows it.
-/

namespace Polystore.Cache

variable {c f : Value} {cached fetched : List Row} {selection : List ColumnRef} {key label : String}

-----------------------------------------------------------------------------------------
-- Finding keys
-----------------------------------------------------------------------------------------

/-- A fetched key is found by a cached one. -/
inductive Found : Value → Value → Prop where
  | scalar {c f : Value} (plain : c.isCollection = false) (plain' : f.isCollection = false)
      (same : c.same f = true)
      : Found c f
  | itself {c : Value} (collection : c.isCollection = true) : Found c c
  | shown {c : Value} (collection : c.isCollection = true) : Found c (.text c.inspect)
  | shows {f : Value} (collection : f.isCollection = true) : Found (.text f.inspect) f

theorem keyOf_collection (collection : c.isCollection = true) : keyOf c = .text c.inspect :=
  if_pos collection

/-- A key is found by what it is, a collection by the text that shows it. -/
theorem same_keyOf_iff (canonical : c.Canonical) (canonical' : f.Canonical)
    : (keyOf c).same (keyOf f) = true ↔ Found c f := by
  constructor
  · intro same
    cases hc : c.isCollection with
    | false =>
        rw [keyOf_eq hc] at same
        cases hf : f.isCollection with
        | false =>
            rw [keyOf_eq hf] at same
            exact .scalar hc hf same
        | true =>
            rw [keyOf_collection hf] at same
            cases Value.same_text_iff.mp (Value.same_symm hc same)
            exact .shows hf
    | true =>
        rw [keyOf_collection hc, Value.same_text_iff] at same
        cases hf : f.isCollection with
        | false =>
            rw [keyOf_eq hf] at same
            subst same
            exact .shown hc
        | true =>
            rw [keyOf_collection hf, Value.text.injEq,
              Value.inspect_inj canonical canonical'] at same
            subst same
            exact .itself hc
  · intro found
    cases found with
    | scalar plain plain' same => rwa [keyOf_eq plain, keyOf_eq plain']
    | itself collection | shown collection | shows collection =>
        rw [keyOf_collection collection]
        exact Value.same_text_iff.mpr rfl

-----------------------------------------------------------------------------------------
-- Finding and being equal
-----------------------------------------------------------------------------------------

/-- Two keys of which one finds the other though they are not equal, or does not though they are. -/
inductive Confused : Value → Value → Prop where
  | undefined : Confused (.float .nan) (.float .nan)
  | shown {c : Value} (collection : c.isCollection = true) : Confused c (.text c.inspect)
  | shows {f : Value} (collection : f.isCollection = true) : Confused (.text f.inspect) f
  | forms {c f : Value} (collection : c.isCollection = true) (equal : c.equals f = true)
      (other : c ≠ f)
      : Confused c f

/-- Of two keys that are confused, one finds the other and is not equal to it, or the reverse. -/
theorem Confused.disagree (confused : Confused c f) : ¬ (Found c f ↔ c.equals f = true) := by
  intro agrees
  cases confused with
  | undefined => exact Bool.false_ne_true (agrees.mp (.scalar rfl rfl (Value.same_self rfl)))
  | shown collection =>
      rw [(Value.equals_text collection _).1] at agrees
      exact Bool.false_ne_true (agrees.mp (.shown collection))
  | shows collection =>
      rw [(Value.equals_text collection _).2] at agrees
      exact Bool.false_ne_true (agrees.mp (.shows collection))
  | forms collection equal other =>
      cases agrees.mpr equal with
      | scalar plain => rw [plain] at collection; cases collection
      | itself => exact other rfl
      | shown => rw [(Value.equals_text collection _).1] at equal; cases equal
      | shows => cases collection

theorem equals_of_found (canonical : c.Canonical) (clear : ¬ Confused c f) (found : Found c f)
    : c.equals f = true := by
  cases found with
  | scalar plain plain' same =>
      refine Value.equals_iff.mpr ⟨Bool.eq_false_iff.mpr fun noNumber => clear ?_, same⟩
      rw [Value.eq_nan_of_isUndefined noNumber,
        Value.eq_nan_of_isUndefined ((Value.isUndefined_of_same same).symm.trans noNumber)]
      exact .undefined
  | itself collection =>
      exact Value.equals_iff.mpr
        ⟨Value.isUndefined_of_collection collection, canonical.same_self⟩
  | shown collection => exact absurd (.shown collection) clear
  | shows collection => exact absurd (.shows collection) clear

theorem found_of_equals (clear : ¬ Confused c f) (equal : c.equals f = true) : Found c f := by
  have same := (Value.equals_iff.mp equal).2
  cases hc : c.isCollection with
  | false => exact .scalar hc (Value.isCollection_of_same same ▸ hc) same
  | true =>
      have is : c = f := by
        by_contra other
        exact clear (.forms hc equal other)
      subst is
      exact .itself hc

/-- Keys that are not confused are found exactly where they are equal. -/
theorem found_iff_equals_iff (canonical : c.Canonical)
    : (Found c f ↔ c.equals f = true) ↔ ¬ Confused c f :=
  ⟨fun agrees confused => confused.disagree agrees,
    fun clear => ⟨equals_of_found canonical clear, found_of_equals clear⟩⟩

-----------------------------------------------------------------------------------------
-- The union
-----------------------------------------------------------------------------------------

/-- The cached rows, then the fetched rows whose key is not equal to that of any cached row; where
the key is not selected, all of them.
-/
def union (cached fetched : List Row) (selection : List ColumnRef) (key : String) : List Row :=
  let isServed (v : Value) : Bool := cached.any fun row => (row.cell key).equals v
  let isNew (row : Row) : Bool :=
    match keyLabel? selection key with
    | none => true
    | some label => !isServed (row.cell label)
  cached.map (projectCached selection) ++ (fetched.filter isNew).map (projectFetched selection)

theorem mem_labels_of_keyLabel? (labelled : keyLabel? selection key = some label)
    : label ∈ selection.map (·.label) := by
  obtain ⟨ref, found, rfl⟩ := Option.map_eq_some_iff.mp labelled
  exact List.mem_map_of_mem (List.mem_of_find?_eq_some found)

/-- A fetched row that is cut to the selection keeps what it has under the labels. -/
theorem cell_projectFetched (selected : label ∈ selection.map (·.label)) (row : Row)
    : (projectFetched selection row).cell label = row.cell label := by
  have found := Entries.lookup_ofList_map_self row.cell selected
  rw [List.map_map] at found
  exact congrArg (·.getD .null) found

/-- Rows that are chosen by their key are the same only if the same keys are chosen. -/
theorem chosen_eq_iff (selected : label ∈ selection.map (·.label)) {p q : Value → Bool}
    : (fetched.filter fun row => p (row.cell label)).map (projectFetched selection)
        = (fetched.filter fun row => q (row.cell label)).map (projectFetched selection)
      ↔ ∀ row ∈ fetched, p (row.cell label) = q (row.cell label) := by
  have chosen {p q : Value → Bool}
      (h
        : (fetched.filter fun row => p (row.cell label)).map (projectFetched selection)
          = (fetched.filter fun row => q (row.cell label)).map (projectFetched selection))
      {row : Row} (member : row ∈ fetched) (chosen : p (row.cell label) = true)
      : q (row.cell label) = true := by
    have listed : projectFetched selection row
        ∈ (fetched.filter fun row => p (row.cell label)).map (projectFetched selection) :=
      List.mem_map_of_mem (List.mem_filter.mpr ⟨member, chosen⟩)
    rw [h] at listed
    obtain ⟨other, kept, same⟩ := List.mem_map.mp listed
    rw [← cell_projectFetched selected, ← same, cell_projectFetched selected]
    exact (List.mem_filter.mp kept).2
  constructor
  · intro h row member
    rw [Bool.eq_iff_iff]
    exact ⟨chosen h member, chosen h.symm member⟩
  · intro agree
    rw [List.filter_congr agree]

/-- A key is among the cached ones if one of them finds it. -/
theorem isAmong_seen_iff (canonical : ∀ row ∈ cached, (row.cell key).Canonical)
    (canonical' : f.Canonical)
    : (keyOf f).isAmong (cached.map fun row => keyOf (row.cell key)) = true
      ↔ ∃ c ∈ cached, Found (c.cell key) f := by
  rw [Value.isAmong, List.any_map, List.any_eq_true]
  refine exists_congr fun row => and_congr_right fun member => ?_
  exact same_keyOf_iff (canonical row member) canonical'

/-- Rows are merged as a union by key exactly if each fetched key that is found by a cached one is
equal to a cached one, and the other way round.
-/
theorem merge_eq_union_iff_found (canonical : ∀ row ∈ cached, (row.cell key).Canonical)
    (canonical'
      : ∀ label ∈ keyLabel? selection key, ∀ row ∈ fetched, (row.cell label).Canonical)
    : merge cached fetched selection key = union cached fetched selection key
      ↔ ∀ label ∈ keyLabel? selection key, ∀ row ∈ fetched,
          (∃ c ∈ cached, Found (c.cell key) (row.cell label))
          ↔ ∃ c ∈ cached, (c.cell key).equals (row.cell label) = true := by
  unfold merge union
  dsimp only
  rw [List.append_cancel_left_eq]
  cases labelled : keyLabel? selection key with
  | none => simp
  | some label =>
      dsimp only
      rw [chosen_eq_iff (mem_labels_of_keyLabel? labelled)
        (p := fun v => !(keyOf v).isAmong (cached.map fun row => keyOf (row.cell key)))
        (q := fun v => !cached.any fun row => (row.cell key).equals v)]
      have each {row : Row} (member : row ∈ fetched) :
          ((!(keyOf (row.cell label)).isAmong (cached.map fun row => keyOf (row.cell key)))
            = !cached.any fun c => (c.cell key).equals (row.cell label))
          ↔ ((∃ c ∈ cached, Found (c.cell key) (row.cell label))
            ↔ ∃ c ∈ cached, (c.cell key).equals (row.cell label) = true) := by
        rw [Bool.not_inj_iff, Bool.eq_iff_iff, List.any_eq_true,
          isAmong_seen_iff canonical (canonical' label labelled row member)]
      simp only [Option.mem_def, Option.some.injEq, forall_eq']
      exact forall₂_congr fun row member => each member

/-- Some cached key finds a key if and only if some is equal to it, exactly where both are so as
soon as one is confused with it.
-/
theorem exists_found_iff (canonical : ∀ row ∈ cached, (row.cell key).Canonical) (f : Value)
    : ((∃ c ∈ cached, Found (c.cell key) f) ↔ ∃ c ∈ cached, (c.cell key).equals f = true)
      ↔ ∀ c ∈ cached, Confused (c.cell key) f →
          (∃ d ∈ cached, Found (d.cell key) f) ∧ ∃ d ∈ cached, (d.cell key).equals f = true := by
  constructor
  · intro agrees c member confused
    rw [agrees, and_self]
    by_contra none
    have unfound : ¬ ∃ d ∈ cached, Found (d.cell key) f := fun found => none (agrees.mp found)
    have same : Found (c.cell key) f ↔ (c.cell key).equals f = true :=
      iff_of_false (fun found => unfound ⟨c, member, found⟩) fun equal => none ⟨c, member, equal⟩
    exact (found_iff_equals_iff (canonical c member)).mp same confused
  · intro both
    by_cases some : ∃ c ∈ cached, Confused (c.cell key) f
    · obtain ⟨c, member, confused⟩ := some
      obtain ⟨found, equal⟩ := both c member confused
      exact iff_of_true found equal
    · refine exists_congr fun c => and_congr_right fun member => ?_
      exact (found_iff_equals_iff (canonical c member)).mpr fun confused =>
        some ⟨c, member, confused⟩

/-- Rows are merged as a union by key exactly if a fetched key that is confused with a cached one is
all the same found by a cached key, and equal to one.
-/
theorem merge_eq_union_iff (canonical : ∀ row ∈ cached, (row.cell key).Canonical)
    (canonical'
      : ∀ label ∈ keyLabel? selection key, ∀ row ∈ fetched, (row.cell label).Canonical)
    : merge cached fetched selection key = union cached fetched selection key
      ↔ ∀ label ∈ keyLabel? selection key, ∀ row ∈ fetched, ∀ c ∈ cached,
          Confused (c.cell key) (row.cell label)
          → (∃ d ∈ cached, Found (d.cell key) (row.cell label))
            ∧ ∃ d ∈ cached, (d.cell key).equals (row.cell label) = true := by
  rw [merge_eq_union_iff_found canonical canonical']
  exact forall₂_congr fun label _ => forall₂_congr fun row _ => exists_found_iff canonical _

/-- A row that is read from a JSON text. -/
def IsRead (nesting : Nat) (row : Row) : Prop :=
  ∃ source : String,
    Json.Unmarked source.toList ∧ Json.parse nesting source = .ok (.object row)

/-- Cached rows and fetched rows that are read from JSON texts are merged as a union by key under
the same condition, as their keys are in canonical form.
-/
theorem merge_eq_union_iff_of_read {nesting : Nat} (cachedRead : ∀ row ∈ cached, IsRead nesting row)
    (fetchedRead : ∀ row ∈ fetched, IsRead nesting row)
    : merge cached fetched selection key = union cached fetched selection key
      ↔ ∀ label ∈ keyLabel? selection key, ∀ row ∈ fetched, ∀ c ∈ cached,
          Confused (c.cell key) (row.cell label)
          → (∃ d ∈ cached, Found (d.cell key) (row.cell label))
            ∧ ∃ d ∈ cached, (d.cell key).equals (row.cell label) = true := by
  have canonical (row : Row) (member : row ∈ cached) : (row.cell key).Canonical := by
    obtain ⟨_, unmarked, read⟩ := cachedRead row member
    exact Json.canonical_cell unmarked read key
  have canonical' (label : String) (_ : label ∈ keyLabel? selection key) (row : Row)
      (member : row ∈ fetched)
      : (row.cell label).Canonical := by
    obtain ⟨_, unmarked, read⟩ := fetchedRead row member
    exact Json.canonical_cell unmarked read label
  rw [merge_eq_union_iff_found canonical canonical']
  exact forall₂_congr fun label _ => forall₂_congr fun row _ => exists_found_iff canonical _

end Polystore.Cache

namespace Polystore.Sample

open Cache

/-- A row with a key and a name. -/
def keyedRow (key : Value) (name : String) : Row := [("id", key), ("name", .text name)]

def keyedSelection : List ColumnRef := [⟨"users", "id", false⟩, ⟨"users", "name", false⟩]

def listRow : Row := keyedRow (.list [.int 1]) "Ann"

/-- A row whose key is the text of a list. -/
def textRow : Row := keyedRow (.text "[1]") "Bob"

/-- A row whose key is a list that is equal to another, but has another text. -/
def floatRow : Row := keyedRow (.list [.float (.finite false 0x10000000000000 (-52))]) "Cid"

/-- A cached list leaves out the row whose key is its text, and not the one whose key is equal. -/
theorem listKey_mistaken
    : merge [listRow] [textRow] keyedSelection "id" ≠ union [listRow] [textRow] keyedSelection "id"
      ∧ merge [listRow] [floatRow] keyedSelection "id"
        ≠ union [listRow] [floatRow] keyedSelection "id" := by
  constructor
  · intro same
    exact absurd (congrArg List.length same) (by decide +kernel)
  · intro same
    exact absurd (congrArg List.length same) (by decide +kernel)

theorem kept_textKey : Text.Kept "[1]".toList := ⟨"[1]".toList.map Char.toNat, by decide, by decide⟩

/-- Where the text of a list is a cached key as well, the row of that key is rightly left out. -/
theorem textKey_served
    : (∀ row ∈ [listRow, textRow], (row.cell "id").Canonical)
      ∧ (∀ label ∈ keyLabel? keyedSelection "id", ∀ row ∈ [textRow], (row.cell label).Canonical)
      ∧ merge [listRow, textRow] [textRow] keyedSelection "id"
        = union [listRow, textRow] [textRow] keyedSelection "id" := by
  have list : (Row.cell listRow "id").Canonical := .list (by simpa using Value.Canonical.int 1)
  have text : (Row.cell textRow "id").Canonical := .text kept_textKey
  have canonical : ∀ row ∈ [listRow, textRow], (row.cell "id").Canonical := by
    simpa using ⟨list, text⟩
  have canonical' : ∀ label ∈ keyLabel? keyedSelection "id", ∀ row ∈ [textRow],
      (row.cell label).Canonical := by
    rintro label ⟨⟩ row member
    obtain rfl := List.mem_singleton.mp member
    exact text
  refine ⟨canonical, canonical', (merge_eq_union_iff canonical canonical').mpr ?_⟩
  rintro label ⟨⟩ row member c _ _
  obtain rfl := List.mem_singleton.mp member
  exact ⟨⟨textRow, by simp, .scalar rfl rfl rfl⟩, ⟨textRow, by simp, rfl⟩⟩

end Polystore.Sample
