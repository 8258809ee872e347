import Polystore.Cache.CachedRow
import Polystore.Proofs.Cache.Keys

/-! When the cache can be asked at all. Keys are made of a pattern unless it cannot be parsed or
filled in, and a cached value is told to hold a row or none unless its octets are no text, or its
text is well-formed JSON beyond the limits. All other trouble counts as a miss.
-/

namespace Polystore

/-- A fault of a key that cannot be made, or of a cached value that cannot be read. -/
def Fault.OfCache : Fault → Prop
  | template _ => True
  | noKey => True
  | unreadableText _ => True
  | unreadableJson _ => True
  | _ => False

/-- A failure that is a fault of the cache. -/
def Failure.OfCache : Failure → Prop
  | .fault f => f.OfCache
  | .refused _ => False

namespace Cache

variable {objects : Template.Objects} {pattern : String} {context : Row} {ids : List Value}
  {names : List String} {fault : Fault}

-----------------------------------------------------------------------------------------
-- Keys that can be made
-----------------------------------------------------------------------------------------

/-- A well-formed pattern that either lacks the value of a field, or can be filled in for each of
some ids, none of which is a collection.
-/
def Keyable (objects : Template.Objects) (pattern : String) (context : Row) (ids : List Value)
    : Prop :=
  ∃ names,
    Template.fieldNames pattern = .ok names
    ∧ (Lacks context names
        ∨ ∀ id ∈ ids, id.isCollection = false ∧ ∃ text, key objects pattern id context = .ok text)

variable (objects) in
theorem key_of_lacks (listed : Template.fieldNames pattern = .ok names)
    (lacks : Lacks context names) (id : Value)
    : ∃ name, key objects pattern id context = .error (.missingField name) := by
  obtain ⟨complete, _⟩ | ⟨_, name, missing⟩ := fieldValues_cases context id names
  · exact absurd lacks complete
  · exact ⟨name, by simp only [key, listed, missing]; rfl⟩

/-- Keys are not made where a field lacks its value, or else for a fault of the pattern or of an
id, by induction on the ids.
-/
theorem keys_error (h : keys objects pattern context ids = .error fault)
    : (∃ names name,
        Template.fieldNames pattern = .ok names
        ∧ Lacks context names
        ∧ fault = .missingField name)
      ∨ fault.OfCache := by
  induction ids with
  | nil => cases h
  | cons id rest ih =>
      unfold keys at h
      cases made : key objects pattern id context with
      | error other =>
          rw [made] at h
          cases h
          exact (key_error made).imp_right fun ⟨_, is⟩ => is ▸ trivial
      | ok text =>
          rw [made, Outcome.ok_bind] at h
          split at h
          · cases h
            exact .inr trivial
          · cases later : keys objects pattern context rest with
            | ok found => simp [later] at h
            | error other =>
                rw [later] at h
                cases h
                exact ih later

/-- Keys are made where each id has one and is no collection, by induction on the ids. -/
theorem exists_keys_iff
    : (∃ found, keys objects pattern context ids = .ok found)
      ↔ ∀ id ∈ ids,
          id.isCollection = false ∧ ∃ text, key objects pattern id context = .ok text := by
  induction ids with
  | nil => simp [keys]
  | cons id rest ih =>
      rw [List.forall_mem_cons, ← ih, keys, Outcome.exists_bind_eq_ok]
      constructor
      · rintro ⟨text, made, _, h⟩
        split at h
        · cases h
        next scalar =>
          obtain ⟨later, found, _⟩ := Outcome.bind_eq_ok.mp h
          exact ⟨⟨by simpa using scalar, text, made⟩, later, found⟩
      · rintro ⟨⟨scalar, text, made⟩, later, found⟩
        exact ⟨text, made, (id, text) :: later, by simp [scalar, found]⟩

/-- A pattern is keyable for ids exactly when nothing but a lacking value keeps it from giving
them keys.
-/
theorem keyable_iff (some : ids ≠ [])
    : Keyable objects pattern context ids
      ↔ ∀ fault,
          keys objects pattern context ids = .error fault
          → ∃ name, fault = .missingField name := by
  obtain ⟨id, rest, rfl⟩ := List.exists_cons_of_ne_nil some
  constructor
  · rintro ⟨names, listed, lacks | each⟩ fault failed
    · obtain ⟨name, missing⟩ := key_of_lacks objects listed lacks id
      simp only [keys, missing] at failed
      cases failed
      exact ⟨name, rfl⟩
    · obtain ⟨found, made⟩ := exists_keys_iff.mpr each
      rw [made] at failed
      cases failed
  · intro only
    cases listed : Template.fieldNames pattern with
    | error defect =>
        have failed : keys objects pattern context (id :: rest)
            = .error (.template (.malformed defect)) := by
          simp only [keys, key, listed]
          rfl
        obtain ⟨name, same⟩ := only _ failed
        cases same
    | ok names =>
        refine ⟨names, listed, ?_⟩
        cases made : keys objects pattern context (id :: rest) with
        | ok found => exact .inr (exists_keys_iff.mp ⟨found, made⟩)
        | error fault =>
            rcases keys_error made with ⟨_, _, listed', lacks, _⟩ | of
            · cases listed.symm.trans listed'
              exact .inl lacks
            · obtain ⟨name, rfl⟩ := only _ made
              cases of

/-- A pattern that lacks a value, or whose fields are bare names with values that can be written,
whichever of some ids is asked for.
-/
def Spells (pattern : String) (context : Row) (ids : List Value) : Prop :=
  ∃ found,
    Template.pieces pattern.toList = .ok found
    ∧ (Lacks context (found.filterMap Template.Piece.name?)
        ∨ ∀ id ∈ ids, ∀ piece ∈ found, piece.Fills (valueOf id context))

/-- A pattern of simple fields is keyable for ids that are no collections exactly if it spells their
keys.
-/
theorem keyable_iff_spells (simple : Template.Simple pattern)
    (scalars : ∀ id ∈ ids, id.isCollection = false)
    : Keyable objects pattern context ids ↔ Spells pattern context ids := by
  obtain ⟨found, formed, each⟩ := simple
  have listed : Template.fieldNames pattern = .ok (found.filterMap Template.Piece.name?) := by
    rw [Template.fieldNames, formed, Outcome.map_ok]
  have keyed (complete : ¬ Lacks context (found.filterMap Template.Piece.name?)) (id : Value)
      : (∃ text, key objects pattern id context = .ok text)
        ↔ ∀ piece ∈ found, piece.Fills (valueOf id context) := by
    simp only [key_eq_ok formed each, complete, not_false_eq_true, true_and]
    constructor
    · rintro ⟨_, fills, _⟩
      exact fills
    · intro fills
      exact ⟨_, fills, rfl⟩
  simp only [Keyable, Spells, listed, formed, Except.ok.injEq, exists_eq_left']
  by_cases lacks : Lacks context (found.filterMap Template.Piece.name?)
  · exact iff_of_true (.inl lacks) (.inl lacks)
  · rw [or_iff_right lacks, or_iff_right lacks]
    exact forall₂_congr fun id member => by
      rw [keyed lacks id, and_iff_right (scalars id member)]

-----------------------------------------------------------------------------------------
-- Values that can be read
-----------------------------------------------------------------------------------------

/-- A text that is no JSON document only because it is malformed, if it is none. -/
def LegibleText (nesting : Nat) (s : String) : Prop :=
  ∀ failure,
    Json.parse nesting s = .error failure → ∃ cause position, failure = .malformed cause position

/-- A cached value that is told to hold a row or none: where it is a text, or the octets of one,
its integers and its nesting are within the limits.
-/
def Legible (nesting : Nat) : Value → Prop
  | .text s => LegibleText nesting s
  | .octets bytes => ∃ s, Text.Utf8.decode bytes = .ok s ∧ LegibleText nesting s
  | _ => True

variable {nesting : Nat}

theorem exists_rowOfText_iff {s : String}
    : (∃ row, rowOfText nesting s = .ok row) ↔ LegibleText nesting s := by
  unfold rowOfText LegibleText
  cases Json.parse nesting s with
  | ok v => cases v <;> simp
  | error failure => cases failure <;> simp

/-- Whether a value holds a row is told exactly when it is legible. -/
theorem exists_row?_iff {v : Value}
    : (∃ row, row? nesting v = .ok row) ↔ Legible nesting v := by
  cases v with
  | text s => exact exists_rowOfText_iff
  | octets bytes =>
      cases decoded : Text.Utf8.decode bytes with
      | error failure => simp [row?, Legible, decoded]
      | ok s => simpa [row?, Legible, decoded] using exists_rowOfText_iff
  | _ => simp [row?, Legible]

theorem ofCache_of_rowOfText {s : String} (h : rowOfText nesting s = .error fault)
    : fault.OfCache := by
  unfold rowOfText at h
  split at h
  · cases h
  · cases h
  · cases h
  · cases h
    trivial

theorem ofCache_of_row? {v : Value} (h : row? nesting v = .error fault) : fault.OfCache := by
  unfold row? at h
  split at h
  · cases h
  · exact ofCache_of_rowOfText h
  · split at h
    · exact ofCache_of_rowOfText h
    · cases h
      trivial
  · cases h

end Cache

end Polystore
