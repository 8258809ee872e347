import Mathlib.Data.List.TakeWhile
import Polystore.Cache.Key
import Polystore.Proofs.Entries.Lookup
import Polystore.Proofs.Trace.Outcomes
import Polystore.Proofs.Value.Writing

/-! Keys of cached rows that follow a pattern of simple fields. Where no field lacks its value, all
that can stand in the way of a key is a field that is a position, or a value that cannot be written.
-/

namespace Polystore

-----------------------------------------------------------------------------------------
-- Templates of simple fields
-----------------------------------------------------------------------------------------

namespace Template

/-- A field that is neither converted nor laid out and whose name is taken as a whole. -/
structure Field.Simple (f : Field) : Prop where
  unconverted : f.conversion = none
  noLayout : f.layout = []
  oneStep : ∀ c ∈ f.name, beginsStep c = false

/-- A simple field that is a bare name, and no position. -/
structure Field.Plain (f : Field) : Prop extends f.Simple where
  named : f.name ≠ []
  noPosition : position? f.name = .ok none

/-- A well-formed template whose fields are simple. -/
def Simple (template : String) : Prop :=
  ∃ found, pieces template.toList = .ok found ∧ ∀ f, .field f ∈ found → f.Simple

variable {objects : Objects} {values : Row} {f : Field} {found : List Piece}
  (expand : List Char → Except Fault (List Char))

/-- The name of a simple field is one step. -/
theorem Field.Simple.takeStep_eq (simple : f.Simple) : takeStep f.name = (f.name, []) := by
  have bare : ∀ c ∈ f.name, (!beginsStep c) = true := fun c member => by
    rw [simple.oneStep c member, Bool.not_false]
  rw [takeStep, List.takeWhile_eq_self_iff.mpr bare, List.dropWhile_eq_nil_iff.mpr bare]

/-- A bare name leads to the value of that name. -/
theorem find_of_plain (plain : f.Plain) {v : Value}
    (known : values.lookup (String.ofList f.name) = some v)
    : find objects values f.name = .ok (.value v) := by
  have named : f.name.isEmpty = false := by simpa using plain.named
  simp only [find, plain.takeStep_eq, plain.noPosition, Outcome.ok_bind, named, Bool.false_eq_true,
    if_false, known, follow]

/-- Only a bare name leads anywhere. -/
theorem plain_of_find (simple : f.Simple) {r : Referent} (h : find objects values f.name = .ok r)
    : f.Plain := by
  rw [find, simple.takeStep_eq] at h
  obtain ⟨position, noPosition, h⟩ := Outcome.bind_eq_ok.mp h
  cases position with
  | some n => cases h
  | none =>
      refine { toSimple := simple, named := ?_, noPosition }
      intro empty
      simp [empty] at h

/-- A simple field is replaced by what is written for its value, if it is a bare name. -/
theorem fillField_eq_ok (simple : f.Simple)
    (known : f.name ≠ [] → ∃ v, values.lookup (String.ofList f.name) = some v) {cs : List Char}
    : fillField objects expand values f = .ok cs
      ↔ f.Plain ∧ (values.cell (String.ofList f.name)).write = .ok (String.ofList cs) := by
  have filled (plain : f.Plain)
      : fillField objects expand values f
        = (String.toList <$> (values.cell (String.ofList f.name)).write).mapError .unwritable := by
    obtain ⟨v, given⟩ := known plain.named
    simp only [fillField, find_of_plain plain given, simple.unconverted, simple.noLayout, convert,
      layOut, Referent.display, Row.cell, given, Outcome.ok_bind, Option.getD_some]
    cases v.write <;> rfl
  have written (plain : f.Plain)
      : fillField objects expand values f = .ok cs
        ↔ (values.cell (String.ofList f.name)).write = .ok (String.ofList cs) := by
    rw [filled plain]
    cases (values.cell (String.ofList f.name)).write with
    | ok s => simp [Except.mapError, ← String.toList_inj]
    | error failure => simp [Except.mapError]
  constructor
  · intro h
    have plain : f.Plain := by
      obtain ⟨r, leads, _⟩ := Outcome.bind_eq_ok.mp h
      exact plain_of_find simple leads
    exact ⟨plain, (written plain).mp h⟩
  · exact fun ⟨plain, h⟩ => (written plain).mpr h

/-- The characters of a piece, in which a field shows the value of its name. -/
def Piece.shown (value : String → Value) : Piece → List Char
  | .text cs => cs
  | .field f => (value (String.ofList f.name)).display.toList

/-- Whether a piece is a text, or a bare name whose value can be written. -/
def Piece.Fills (value : String → Value) : Piece → Prop
  | .text _ => True
  | .field f => f.Plain ∧ (value (String.ofList f.name)).isWritable = true

/-- Pieces whose fields are simple and have values show these values, if each of the fields is a
bare name with a value that can be written, and otherwise cannot be filled in, by induction on the
pieces.
-/
theorem fillPieces_eq_ok (simple : ∀ f, .field f ∈ found → f.Simple)
    (known
      : ∀ f, .field f ∈ found
        → f.name ≠ [] → ∃ v, values.lookup (String.ofList f.name) = some v)
    {cs : List Char}
    : fillPieces objects expand values found = .ok cs
      ↔ (∀ piece ∈ found, piece.Fills values.cell) ∧ cs = found.flatMap (·.shown values.cell) := by
  induction found generalizing cs with
  | nil => simp [fillPieces, eq_comm]
  | cons piece rest ih =>
      have ih {cs : List Char} := @ih
        (fun f member => simple f (List.mem_cons_of_mem _ member))
        (fun f member => known f (List.mem_cons_of_mem _ member)) cs
      rw [List.forall_mem_cons, List.flatMap_cons]
      cases piece with
      | text text =>
          simp only [fillPieces, Outcome.map_eq_ok, ih, Piece.Fills, Piece.shown, true_and]
          constructor
          · rintro ⟨later, ⟨fills, rfl⟩, rfl⟩
            exact ⟨fills, rfl⟩
          · rintro ⟨fills, rfl⟩
            exact ⟨_, ⟨fills, rfl⟩, rfl⟩
      | field f =>
          simp only [fillPieces, Outcome.bind_eq_ok, Outcome.map_eq_ok, ih, Piece.Fills,
            Piece.shown, Value.write_eq_ok,
            fillField_eq_ok expand (simple f (.head _)) (known f (.head _))]
          constructor
          · rintro ⟨first, ⟨plain, writable, shown⟩, later, ⟨fills, rfl⟩, rfl⟩
            exact ⟨⟨⟨plain, writable⟩, fills⟩, by rw [shown, String.toList_ofList]⟩
          · rintro ⟨⟨⟨plain, writable⟩, fills⟩, rfl⟩
            exact ⟨_, ⟨plain, writable, (String.ofList_toList).symm⟩, _, ⟨fills, rfl⟩, rfl⟩

/-- A template of simple fields that have values is filled in exactly where each of them is a bare
name with a value that can be written.
-/
theorem fill_eq_ok {template : String} (formed : pieces template.toList = .ok found)
    (simple : ∀ f, .field f ∈ found → f.Simple)
    (known : ∀ name ∈ found.filterMap Piece.name?, ∃ v, values.lookup name = some v) {s : String}
    : fill objects template values = .ok s
      ↔ (∀ piece ∈ found, piece.Fills values.cell)
        ∧ s = String.ofList (found.flatMap (·.shown values.cell)) := by
  have reading : read template.toList = ⟨found, none⟩ := by
    unfold pieces at formed
    split at formed
    · cases formed
    next whole =>
      cases formed
      exact whole
  have named : ∀ f, .field f ∈ found
      → f.name ≠ [] → ∃ v, values.lookup (String.ofList f.name) = some v := by
    intro f member named
    refine known _ (List.mem_filterMap.mpr ⟨_, member, ?_⟩)
    simp [Piece.name?, named]
  have within {cs : List Char}
      : fillWithin objects values 2 template.toList = .ok cs
        ↔ fillPieces objects (fillWithin objects values 1) values found = .ok cs := by
    rw [fillWithin, reading, Outcome.bind_eq_ok]
    simp
  simp only [fill, Outcome.map_eq_ok, within, fillPieces_eq_ok _ simple named]
  constructor
  · rintro ⟨_, ⟨fills, rfl⟩, rfl⟩
    exact ⟨fills, rfl⟩
  · rintro ⟨fills, rfl⟩
    exact ⟨_, ⟨fills, rfl⟩, rfl⟩

end Template

-----------------------------------------------------------------------------------------
-- Keys that follow a simple pattern
-----------------------------------------------------------------------------------------

namespace Cache

variable {objects : Template.Objects} {pattern : String} {context : Row} {ids : List Value}
  {names : List String}

/-- What a name in a pattern is replaced by. -/
def valueOf (id : Value) (context : Row) (name : String) : Value :=
  if name = "id" then id else context.cell name

/-- Some field of a pattern other than that for the id has no value. -/
def Lacks (context : Row) (names : List String) : Prop :=
  ∃ name ∈ names, name ≠ "id" ∧ context.lookup name = none

/-- Every field gets its value, unless one lacks it, by induction on the fields. -/
theorem fieldValues_cases (context : Row) (id : Value) (names : List String)
    : (¬ Lacks context names
        ∧ ∃ values,
            fieldValues id context names = .ok values
            ∧ ∀ name ∈ names, values.lookup name = some (valueOf id context name))
      ∨ Lacks context names
        ∧ ∃ name, fieldValues id context names = .error (.missingField name) := by
  induction names with
  | nil => exact .inl ⟨by simp [Lacks], [], rfl, nofun⟩
  | cons name rest ih =>
      -- Where the first field has its value, the others decide.
      have given (known : name = "id" ∨ context.lookup name ≠ none)
          (step
            : fieldValues id context (name :: rest)
              = ((name, valueOf id context name) :: ·) <$> fieldValues id context rest)
          : (¬ Lacks context (name :: rest)
              ∧ ∃ values,
                  fieldValues id context (name :: rest) = .ok values
                  ∧ ∀ other ∈ name :: rest, values.lookup other = some (valueOf id context other))
            ∨ Lacks context (name :: rest)
              ∧ ∃ other, fieldValues id context (name :: rest) = .error (.missingField other) := by
        have lacks : Lacks context (name :: rest) ↔ Lacks context rest := by
          simp only [Lacks, List.mem_cons, exists_eq_or_imp]
          refine or_iff_right ?_
          rintro ⟨other, none⟩
          exact known.elim other fun some => some none
        rw [lacks, step]
        rcases ih with ⟨complete, values, found, each⟩ | ⟨lacking, missing, failed⟩
        · refine .inl ⟨complete, _, congrArg _ found, fun other member => ?_⟩
          rw [List.lookup_cons]
          cases same : other == name with
          | true => rw [eq_of_beq same]
          | false =>
              exact each other ((List.mem_cons.mp member).resolve_left (ne_of_beq_false same))
        · exact .inr ⟨lacking, missing, congrArg _ failed⟩
      by_cases isId : name = "id"
      · exact given (.inl isId) (by rw [fieldValues, if_pos isId, valueOf, if_pos isId])
      · cases found : context.lookup name with
        | some v =>
            refine given (.inr (by simp [found])) ?_
            simp [fieldValues, isId, found, valueOf, Row.cell]
        | none =>
            refine .inr ⟨⟨name, List.mem_cons_self .., isId, found⟩, name, ?_⟩
            rw [fieldValues, if_neg isId, found]

/-- An id has a key by a pattern of simple fields exactly where no field lacks its value, and each
of them is a bare name whose value can be written.
-/
theorem key_eq_ok {found : List Template.Piece}
    (formed : Template.pieces pattern.toList = .ok found)
    (simple : ∀ f, .field f ∈ found → f.Simple) {id : Value} {text : String}
    : key objects pattern id context = .ok text
      ↔ ¬ Lacks context (found.filterMap Template.Piece.name?)
        ∧ (∀ piece ∈ found, piece.Fills (valueOf id context))
        ∧ text = String.ofList (found.flatMap (·.shown (valueOf id context))) := by
  have listed : Template.fieldNames pattern = .ok (found.filterMap Template.Piece.name?) := by
    rw [Template.fieldNames, formed, Outcome.map_ok]
  rcases fieldValues_cases context id (found.filterMap Template.Piece.name?)
    with ⟨complete, values, given, each⟩ | ⟨lacking, name, failed⟩
  · have filled : key objects pattern id context = .ok text
        ↔ Template.fill objects pattern values = .ok text := by
      simp only [key, listed, given, Outcome.ok_bind]
      cases Template.fill objects pattern values <;> simp
    have cell {f : Template.Field} (member : .field f ∈ found) (named : f.name ≠ [])
        : values.cell (String.ofList f.name) = valueOf id context (String.ofList f.name) := by
      have listed : String.ofList f.name ∈ found.filterMap Template.Piece.name? :=
        List.mem_filterMap.mpr ⟨_, member, by simp [Template.Piece.name?, named]⟩
      rw [Row.cell, each _ listed, Option.getD_some]
    have fills : (∀ piece ∈ found, piece.Fills values.cell)
        ↔ ∀ piece ∈ found, piece.Fills (valueOf id context) := by
      refine forall₂_congr fun piece member => ?_
      cases piece with
      | text cs => rfl
      | field f => exact and_congr_right fun plain => by rw [cell member plain.named]
    rw [filled, Template.fill_eq_ok formed simple fun name member => ⟨_, each name member⟩, fills,
      and_iff_right complete]
    refine and_congr_right fun fills => ?_
    have shown : found.flatMap (·.shown values.cell)
        = found.flatMap (·.shown (valueOf id context)) := by
      refine List.flatMap_congr fun piece member => ?_
      cases piece with
      | text cs => rfl
      | field f =>
          rw [Template.Piece.shown, Template.Piece.shown, cell member (fills _ member).1.named]
    rw [shown]
  · refine iff_of_false (fun h => ?_) fun h => h.1 lacking
    simp only [key, listed, failed] at h
    cases h

/-- A key is not made where a field lacks its value, or for a fault of the template. -/
theorem key_error {fault : Fault} {id : Value} (h : key objects pattern id context = .error fault)
    : (∃ names name,
        Template.fieldNames pattern = .ok names
        ∧ Lacks context names
        ∧ fault = .missingField name)
      ∨ ∃ reason, fault = .template reason := by
  unfold key at h
  split at h
  · cases h
    exact .inr ⟨_, rfl⟩
  next names listed =>
    rcases fieldValues_cases context id names with ⟨_, values, given, _⟩ | ⟨lacking, name, failed⟩
    · rw [given, Outcome.ok_bind] at h
      split at h
      · cases h
        exact .inr ⟨_, rfl⟩
      · cases h
    · rw [failed] at h
      cases h
      exact .inl ⟨names, name, listed, lacking, rfl⟩

/-- The keys of ids are those that the pattern gives them, in order, by induction on the ids. -/
theorem keys_eq_ok {ids : List Value} {found : List (Value × String)}
    (h : keys objects pattern context ids = .ok found)
    : List.Forall₂ (fun id e => e.1 = id ∧ key objects pattern id context = .ok e.2) ids found := by
  induction ids generalizing found with
  | nil => cases h; exact .nil
  | cons id rest ih =>
      obtain ⟨first, hfirst, h⟩ := Outcome.bind_eq_ok.mp h
      split at h
      · cases h
      · obtain ⟨later, hlater, h⟩ := Outcome.bind_eq_ok.mp h
        cases h
        exact .cons ⟨rfl, hfirst⟩ (ih hlater)

end Cache

end Polystore
