import Mathlib
import Polystore.Proofs.Cache.Usability

/-! Keys as texts. A pattern that is spelled from literal texts and bare names gives a key in which
the literals stand as they are and each name is replaced by the text of its value. Such keys tell
ids of different texts apart, whatever the literals and the other values are.
-/

namespace Polystore

-----------------------------------------------------------------------------------------
-- Spelling templates
-----------------------------------------------------------------------------------------

namespace Template

/-- What a template is spelled from: a text that stands for itself, or a name to be replaced. -/
inductive Segment where
  | literal (text : String)
  | field (name : String)

/-- A character that stands for itself. A brace is doubled. -/
def doubled (c : Char) : List Char := if c = '\x7b' ∨ c = '\x7d' then [c, c] else [c]

namespace Segment

/-- The field of a name that is neither converted nor laid out. -/
abbrev bareField (name : String) : Field := ⟨name.toList, none, []⟩

/-- The characters of a segment in a template. -/
def spell : Segment → List Char
  | literal text => text.toList.flatMap doubled
  | field name => '\x7b' :: name.toList ++ ['\x7d']

/-- Whether a segment is a literal, or a name that is taken whole: it is no position, leads on to
nothing, and does not end before its closing brace.
-/
def Bare : Segment → Prop
  | literal _ => True
  | field name => (bareField name).Plain ∧ ∀ c ∈ name.toList, c ∉ ['\x7b', '\x7d', ':', '!']

/-- The characters of a segment whose name shows a value. -/
def shown (value : String → Value) : Segment → List Char
  | literal text => text.toList
  | field name => (value name).display.toList

end Segment

/-- The template that segments spell. -/
def spelled (segments : List Segment) : String :=
  String.ofList (segments.flatMap Segment.spell)

/-- The piece of the characters of a text, if there are any; they are in reverse. -/
def textPiece (read : List Char) : List Piece := if read.isEmpty then [] else [.text read.reverse]

/-- The pieces that segments are read as behind a text. Texts one behind the other are one piece. -/
def piecesBehind (read : List Char) : List Segment → List Piece
  | [] => textPiece read
  | .literal text :: rest => piecesBehind (text.toList.reverse ++ read) rest
  | .field name :: rest =>
    textPiece read ++ .field (Segment.bareField name) :: piecesBehind [] rest

-----------------------------------------------------------------------------------------
-- Reading what is spelled
-----------------------------------------------------------------------------------------

theorem beforeText_eq (read : List Char) (reading : Reading)
    : Reading.beforeText read reading
      = { reading with pieces := textPiece read ++ reading.pieces } := by
  unfold Reading.beforeText textPiece
  split <;> rfl

/-- What stands for itself is read as it is, by induction on the characters. -/
theorem readFrom_doubled (read cs rest : List Char)
    : readFrom (.text read) (cs.flatMap doubled ++ rest)
      = readFrom (.text (cs.reverse ++ read)) rest := by
  induction cs generalizing read with
  | nil => rfl
  | cons c cs ih =>
      have step (rest : List Char)
          : readFrom (.text read) (doubled c ++ rest) = readFrom (.text (c :: read)) rest := by
        by_cases opens : c = '\x7b'
        · subst opens
          simp [doubled, readFrom]
        by_cases closes : c = '\x7d'
        · subst closes
          simp [doubled, readFrom]
        · simp [doubled, readFrom, opens, closes]
      rw [List.flatMap_cons, List.append_assoc, step, ih, List.reverse_cons, List.append_assoc,
        List.singleton_append]

/-- A bare name is read up to its closing brace, by induction on its characters. -/
theorem readFrom_name (read cs rest : List Char)
    (bare : ∀ c ∈ cs, beginsStep c = false ∧ c ∉ ['\x7b', '\x7d', ':', '!'])
    : readFrom (.name read false) (cs ++ '\x7d' :: rest)
      = (readFrom (.text []) rest).before (.field ⟨read.reverse ++ cs, none, []⟩) := by
  induction cs generalizing read with
  | nil => simp [readFrom]
  | cons c cs ih =>
      obtain ⟨⟨one, ends⟩, later⟩ := List.forall_mem_cons.mp bare
      simp only [beginsStep, Bool.or_eq_false_iff, decide_eq_false_iff_not] at one
      simp only [List.mem_cons, List.not_mem_nil, or_false, not_or] at ends
      have step : readFrom (.name read false) (c :: (cs ++ '\x7d' :: rest))
          = readFrom (.name (c :: read) false) (cs ++ '\x7d' :: rest) := by
        simp [readFrom, ends, beq_false_of_ne one.2]
      rw [List.cons_append, step, ih _ later, List.reverse_cons, List.append_assoc,
        List.singleton_append]

/-- A bare name in braces is read as its field, behind the text before it. -/
theorem readFrom_field {name : String} (bare : (Segment.field name).Bare) (read rest : List Char)
    : readFrom (.text read) ((Segment.field name).spell ++ rest)
      = Reading.beforeText read
          ((readFrom (.text []) rest).before (.field (Segment.bareField name))) := by
  obtain ⟨plain, ends⟩ := bare
  obtain ⟨c, more, spelling⟩ := List.exists_cons_of_ne_nil plain.named
  simp only at spelling
  have opens : c ≠ '\x7b' := by
    rintro rfl
    exact ends '\x7b' (spelling ▸ List.mem_cons_self ..) (List.mem_cons_self ..)
  have begun : readFrom (.text read) ((Segment.field name).spell ++ rest)
      = Reading.beforeText read
          (readFrom (.name [] false) (name.toList ++ '\x7d' :: rest)) := by
    simp [Segment.spell, spelling, readFrom, opens]
  rw [begun, readFrom_name [] _ rest fun c member => ⟨plain.oneStep c member, ends c member⟩,
    List.reverse_nil, List.nil_append]

/-- Segments are read as their pieces, by induction on the segments. -/
theorem readFrom_segments (read : List Char) {segments : List Segment}
    (bare : ∀ s ∈ segments, s.Bare)
    : readFrom (.text read) (segments.flatMap Segment.spell)
      = ⟨piecesBehind read segments, none⟩ := by
  induction segments generalizing read with
  | nil => rw [List.flatMap_nil, readFrom, beforeText_eq, piecesBehind, List.append_nil]
  | cons s rest ih =>
      obtain ⟨first, later⟩ := List.forall_mem_cons.mp bare
      rw [List.flatMap_cons]
      cases s with
      | literal text => rw [Segment.spell, readFrom_doubled, ih _ later, piecesBehind]
      | field name =>
          rw [readFrom_field first, ih _ later, beforeText_eq, piecesBehind, Reading.before]

/-- The pieces of a spelled template. -/
theorem pieces_spelled {segments : List Segment} (bare : ∀ s ∈ segments, s.Bare)
    : pieces (spelled segments).toList = .ok (piecesBehind [] segments) := by
  rw [pieces, spelled, String.toList_ofList, read, readFrom_segments [] bare]

/-- The fields of the pieces of segments are those of the names, by induction on the segments. -/
theorem mem_piecesBehind {read : List Char} {segments : List Segment} {f : Field}
    : .field f ∈ piecesBehind read segments
      ↔ ∃ name, .field name ∈ segments ∧ f = Segment.bareField name := by
  have front (read : List Char) : Piece.field f ∉ textPiece read := by
    unfold textPiece
    split <;> simp
  induction segments generalizing read with
  | nil => simp [piecesBehind, front]
  | cons s rest ih =>
      cases s with
      | literal text => simp [piecesBehind, ih]
      | field name =>
          simp only [piecesBehind, List.mem_append, front, false_or, List.mem_cons, ih,
            Piece.field.injEq, Segment.field.injEq]
          constructor
          · rintro (rfl | ⟨other, member, rfl⟩)
            · exact ⟨name, .inl rfl, rfl⟩
            · exact ⟨other, .inr member, rfl⟩
          · rintro ⟨other, rfl | member, rfl⟩
            · exact .inl rfl
            · exact .inr ⟨other, member, rfl⟩

/-- The names of the pieces of segments are the names among the segments. -/
theorem mem_names_piecesBehind {segments : List Segment} (bare : ∀ s ∈ segments, s.Bare)
    {name : String}
    : name ∈ (piecesBehind [] segments).filterMap Piece.name? ↔ .field name ∈ segments := by
  rw [List.mem_filterMap]
  constructor
  · rintro ⟨piece, member, named⟩
    cases piece with
    | text cs => cases named
    | field f =>
        obtain ⟨other, listed, rfl⟩ := mem_piecesBehind.mp member
        simp only [Piece.name?, String.ofList_toList] at named
        split at named
        · cases named
        · cases named
          exact listed
  · intro listed
    refine ⟨_, mem_piecesBehind.mpr ⟨name, listed, rfl⟩, ?_⟩
    have named : name.toList ≠ [] := (bare _ listed).1.named
    simpa [Piece.name?] using named

/-- The pieces of segments show what the segments show, by induction on the segments. -/
theorem shown_piecesBehind (value : String → Value) (read : List Char) (segments : List Segment)
    : (piecesBehind read segments).flatMap (·.shown value)
      = read.reverse ++ segments.flatMap (·.shown value) := by
  have front (read : List Char)
      : (textPiece read).flatMap (·.shown value) = read.reverse := by
    cases read with
    | nil => rfl
    | cons c read => simp [textPiece, Piece.shown]
  induction segments generalizing read with
  | nil => rw [piecesBehind, front, List.flatMap_nil, List.append_nil]
  | cons s rest ih =>
      rw [List.flatMap_cons]
      cases s with
      | literal text =>
          rw [piecesBehind, ih, List.reverse_append, List.reverse_reverse, Segment.shown,
            List.append_assoc]
      | field name =>
          rw [piecesBehind, List.flatMap_append, front, List.flatMap_cons, ih, Piece.shown,
            String.ofList_toList, Segment.shown, List.reverse_nil, List.nil_append]

/-- The pieces of segments can be filled in where the values of all names can be written. -/
theorem fills_piecesBehind {segments : List Segment} (bare : ∀ s ∈ segments, s.Bare)
    {value : String → Value}
    : (∀ piece ∈ piecesBehind [] segments, piece.Fills value)
      ↔ ∀ name, .field name ∈ segments → (value name).isWritable = true := by
  constructor
  · intro fills name listed
    have here := fills _ (mem_piecesBehind.mpr ⟨name, listed, rfl⟩)
    simpa using here.2
  · intro writable piece member
    cases piece with
    | text cs => trivial
    | field f =>
        obtain ⟨name, listed, rfl⟩ := mem_piecesBehind.mp member
        exact ⟨(bare _ listed).1, by simpa using writable name listed⟩

-----------------------------------------------------------------------------------------
-- Templates in which one value is exchanged
-----------------------------------------------------------------------------------------

section Exchange

variable {value other : String → Value} {name : String}

theorem length_shown_field (value : String → Value) (name : String)
    : ((Segment.field name).shown value).length = (value name).display.length :=
  String.length_toList

/-- A segment shows the same text unless it is the field of the name. -/
theorem shown_congr (alike : ∀ n, n ≠ name → value n = other n) {s : Segment}
    (elsewhere : s ≠ .field name)
    : s.shown value = s.shown other := by
  cases s with
  | literal text => rfl
  | field n => rw [Segment.shown, Segment.shown, alike n fun is => elsewhere (is ▸ rfl)]

/-- Exchanging the value of one name lengthens what segments show by the same number of characters
wherever the name stands, by induction on the segments.
-/
theorem length_shown_exchanged (alike : ∀ n, n ≠ name → value n = other n)
    (segments : List Segment)
    : ∃ times,
        (.field name ∈ segments → 0 < times)
        ∧ (segments.flatMap (·.shown value)).length
            + times * (other name).display.length
          = (segments.flatMap (·.shown other)).length
            + times * (value name).display.length := by
  induction segments with
  | nil => exact ⟨0, by simp, by simp⟩
  | cons s rest ih =>
      obtain ⟨times, occurs, lengths⟩ := ih
      simp only [List.flatMap_cons, List.length_append]
      by_cases here : s = .field name
      · subst here
        refine ⟨times + 1, fun _ => Nat.succ_pos _, ?_⟩
        simp only [length_shown_field, Nat.add_mul, Nat.one_mul]
        omega
      · have behind (member : .field name ∈ s :: rest) : 0 < times :=
          occurs ((List.mem_cons.mp member).resolve_left (here ·.symm))
        refine ⟨times, behind, ?_⟩
        rw [shown_congr alike here]
        omega

/-- Segments among which a name occurs show different texts for values of the name that have
different texts. The lengths of the texts have to be the same first, since the name may occur more
than once; then the first place where it stands shows both texts, by induction on the segments.
-/
theorem display_eq_of_shown_eq (alike : ∀ n, n ≠ name → value n = other n)
    {segments : List Segment} (named : .field name ∈ segments)
    (same : segments.flatMap (·.shown value) = segments.flatMap (·.shown other))
    : (value name).display = (other name).display := by
  have lengths : (value name).display.length = (other name).display.length := by
    obtain ⟨times, occurs, lengths⟩ := length_shown_exchanged alike segments
    rw [same, Nat.add_left_cancel_iff] at lengths
    exact (Nat.eq_of_mul_eq_mul_left (occurs named) lengths).symm
  induction segments with
  | nil => cases named
  | cons s rest ih =>
      simp only [List.flatMap_cons] at same
      by_cases here : s = .field name
      · subst here
        have texts := List.append_inj same (by simpa only [length_shown_field] using lengths)
        exact String.toList_inj.mp texts.1
      · rw [shown_congr alike here, List.append_cancel_left_eq] at same
        exact ih ((List.mem_cons.mp named).resolve_left (here ·.symm)) same

end Exchange

end Template

-----------------------------------------------------------------------------------------
-- Keys by spelled patterns
-----------------------------------------------------------------------------------------

namespace Cache

open Template

variable {objects : Objects} {context other : Row} {names : List String} {pattern : String}
  {segments : List Segment}

/-- The values of fields do not depend on what the context holds under other names, by induction on
the fields.
-/
theorem fieldValues_congr
    (alike : ∀ name ∈ names, name ≠ "id" → other.lookup name = context.lookup name) (id : Value)
    : fieldValues id other names = fieldValues id context names := by
  induction names with
  | nil => rfl
  | cons name rest ih =>
      have behind := ih fun later member => alike later (List.mem_cons_of_mem _ member)
      by_cases isId : name = "id"
      · rw [fieldValues, fieldValues, if_pos isId, if_pos isId, behind]
      · rw [fieldValues, fieldValues, if_neg isId, if_neg isId, alike name (.head _) isId, behind]

/-- A key does not depend on what the context holds under names that are not in the pattern. -/
theorem key_congr
    (alike
      : ∀ names,
          fieldNames pattern = .ok names
          → ∀ name ∈ names, name ≠ "id" → other.lookup name = context.lookup name)
    (id : Value)
    : key objects pattern id other = key objects pattern id context := by
  unfold key
  cases listed : fieldNames pattern with
  | error defect => rfl
  | ok names =>
      dsimp only
      rw [fieldValues_congr (alike names listed) id]

/-- Where the context has a value for each other name, an id has a key by a spelled pattern exactly
if the values of its names can be written: the literals stand as they are, and each name is replaced
by the text of its value.
-/
theorem key_spelled_eq_ok (bare : ∀ s ∈ segments, s.Bare)
    (supplied : ∀ name, .field name ∈ segments → name ≠ "id" → ∃ v, context.lookup name = some v)
    {id : Value} {text : String}
    : key objects (spelled segments) id context = .ok text
      ↔ (∀ name, .field name ∈ segments → (valueOf id context name).isWritable = true)
        ∧ text = String.ofList (segments.flatMap (·.shown (valueOf id context))) := by
  have simple : ∀ f, .field f ∈ piecesBehind [] segments → f.Simple := by
    intro f member
    obtain ⟨name, listed, rfl⟩ := mem_piecesBehind.mp member
    exact (bare _ listed).1.toSimple
  have complete : ¬ Lacks context ((piecesBehind [] segments).filterMap Template.Piece.name?) := by
    rintro ⟨name, member, notId, none⟩
    obtain ⟨v, given⟩ := supplied name ((mem_names_piecesBehind bare).mp member) notId
    cases none.symm.trans given
  rw [key_eq_ok (pieces_spelled bare) simple, and_iff_right complete, fills_piecesBehind bare,
    shown_piecesBehind, List.reverse_nil, List.nil_append]

/-- The keys by a pattern with the id in it, spelled from literals and bare names, where the context
has a value for each other name. An id has a key exactly if the values of all names can be written,
ids with one key have one text, and the key does not depend on what else the context holds, not even
under the name of the id.
-/
theorem key_tells_ids_apart (bare : ∀ s ∈ segments, s.Bare) (named : .field "id" ∈ segments)
    (supplied : ∀ name, .field name ∈ segments → name ≠ "id" → ∃ v, context.lookup name = some v)
    : (∀ id,
        (∃ text, key objects (spelled segments) id context = .ok text)
        ↔ ∀ name, .field name ∈ segments → (valueOf id context name).isWritable = true)
      ∧ (∀ i j text,
          key objects (spelled segments) i context = .ok text
          → key objects (spelled segments) j context = .ok text
          → i.display = j.display)
      ∧ ∀ other : Row,
          (∀ name,
            .field name ∈ segments → name ≠ "id" → other.lookup name = context.lookup name)
          → ∀ id,
              key objects (spelled segments) id other
              = key objects (spelled segments) id context := by
  refine ⟨fun id => ?keyed, fun i j text first second => ?apart, fun other alike id => ?unmoved⟩
  case keyed =>
    simp only [key_spelled_eq_ok bare supplied]
    exact ⟨fun ⟨_, writable, _⟩ => writable, fun writable => ⟨_, writable, rfl⟩⟩
  case apart =>
    have same := ((key_spelled_eq_ok bare supplied).mp first).2.symm.trans
      ((key_spelled_eq_ok bare supplied).mp second).2
    have exchanged : ∀ name, name ≠ "id" → valueOf i context name = valueOf j context name :=
      fun name other => by rw [valueOf, valueOf, if_neg other, if_neg other]
    simpa [valueOf] using display_eq_of_shown_eq exchanged named (String.ofList_inj.mp same)
  case unmoved =>
    refine key_congr (fun names listed name member => alike name ?_) id
    rw [fieldNames, pieces_spelled bare, Outcome.map_ok, Except.ok.injEq] at listed
    exact (mem_names_piecesBehind bare).mp (listed ▸ member)

end Cache

namespace Sample

open Template

/-- A pattern with the id in it twice, once within braces that stand for themselves. -/
def nestedPattern : List Segment := [
  .literal "\x7b", .field "id", .literal "\x7d:", .field "tenant", .literal ":", .field "id"]

theorem nestedPattern_bare : ∀ s ∈ nestedPattern, s.Bare := by
  have plain (name : String) (known : name = "id" ∨ name = "tenant")
      : (Segment.field name).Bare := by
    rcases known with rfl | rfl
    all_goals exact ⟨⟨⟨rfl, rfl, by simp [beginsStep]⟩, by simp, by cbv⟩, by simp⟩
  simp only [nestedPattern, List.forall_mem_cons]
  exact ⟨trivial, plain _ (.inl rfl), trivial, plain _ (.inr rfl), trivial, plain _ (.inl rfl),
    nofun⟩

/-- Values for the pattern, with one under the name of the id, which keys do not show. -/
def nestedContext : Row := [("id", .int 7), ("tenant", .text "acme")]

/-- The pattern tells ids apart whose texts hold its literals. -/
theorem nestedPattern_tells_ids_apart
    : spelled nestedPattern = "\x7b\x7b\x7bid\x7d\x7d\x7d:\x7btenant\x7d:\x7bid\x7d"
      ∧ Cache.key .none (spelled nestedPattern) (.text "1\x7d:acme") nestedContext
        = .ok "\x7b1\x7d:acme\x7d:acme:1\x7d:acme"
      ∧ (∀ i j text,
          Cache.key .none (spelled nestedPattern) i nestedContext = .ok text
          → Cache.key .none (spelled nestedPattern) j nestedContext = .ok text
          → i.display = j.display)
      ∧ ∀ id,
          Cache.key .none (spelled nestedPattern) id [("tenant", .text "acme"), ("region", .null)]
            = Cache.key .none (spelled nestedPattern) id nestedContext := by
  have supplied (name : String) (member : .field name ∈ nestedPattern) (other : name ≠ "id")
      : ∃ v, nestedContext.lookup name = some v := by
    obtain rfl : name = "tenant" := by simpa [nestedPattern, other] using member
    exact ⟨_, rfl⟩
  obtain ⟨_, apart, unmoved⟩ :=
    @Cache.key_tells_ids_apart .none nestedContext _ nestedPattern_bare (by simp [nestedPattern])
      supplied
  refine ⟨by decide +kernel, by cbv, apart, unmoved _ fun name member other => ?_⟩
  obtain rfl : name = "tenant" := by simpa [nestedPattern, other] using member
  rfl

end Sample

end Polystore
