import Polystore.Metadata.File
import Polystore.Proofs.Json.Limits
import Polystore.Proofs.Text.Utf8
import Polystore.Proofs.Trace.Outcomes

/-! Loading a catalog from a file. What is wrong with a document, with the form of its text or with
the path is told as such. Octets that are no text, and numbers that have too many digits, are not.
-/

namespace Polystore

/-- A catalog, or what is wrong with its metadata. -/
def Catalog.LoadsOrTells (loaded : Except Failure Catalog) : Prop :=
  (∃ c, loaded = .ok c) ∨ ∃ m, loaded = .error (.refused (.misconfigured m))

namespace Catalog

variable {nesting : Nat}

/-- Every value makes a catalog, or it is told what is wrong with it. -/
theorem ofValue_cases (v : Value)
    : (∃ c, ofValue v = .ok c) ∨ ∃ m, ofValue v = .error (.misconfigured m) := by
  unfold ofValue
  split
  · exact .inr ⟨_, rfl⟩
  next d _ =>
    cases ofDocument d with
    | ok c => exact .inl ⟨c, rfl⟩
    | error problems => exact .inr ⟨_, rfl⟩

/-- A value that is loaded from a file makes a catalog, or it is told what is wrong with it. -/
theorem loadsOrTells_of_loaded {path : String} {content : FileContent} {v : Value}
    (loaded : content.load nesting path = .ok v)
    : LoadsOrTells (ofFile nesting path content) := by
  unfold ofFile LoadsOrTells
  rw [loaded, Outcome.ok_bind]
  rcases ofValue_cases v with ⟨c, is⟩ | ⟨m, is⟩
  · exact .inl ⟨c, by rw [is]; rfl⟩
  · exact .inr ⟨m, by rw [is]; rfl⟩

/-- What fails before there is a value is told if it is told by the loading. -/
theorem loadsOrTells_of_failed {path : String} {content : FileContent} {failure : Failure}
    (failed : content.load nesting path = .error failure)
    : LoadsOrTells (ofFile nesting path content) ↔ ∃ m, failure = .refused (.misconfigured m) := by
  unfold ofFile LoadsOrTells
  rw [failed]
  simp [bind, Except.bind]

/-- A text makes a catalog, or it is told what is wrong with it, exactly if it is within the limits
of numbers and of nesting.
-/
theorem loadsOrTells_of_text {path source : String} {octets : List UInt8}
    (spells : Text.Utf8.decode octets = .ok source)
    : LoadsOrTells (ofFile nesting path (.octets octets))
      ↔ Json.DigitsWithin nesting (Text.unifyLineEnds source.toList)
        ∧ Json.NestsWithin nesting (Text.unifyLineEnds source.toList) := by
  rw [← String.toList_ofList (l := Text.unifyLineEnds source.toList), ← Json.parse_limit_iff]
  have load : (FileContent.octets octets).load nesting path
      = FileContent.parse nesting path (String.ofList (Text.unifyLineEnds source.toList)) := by
    rw [FileContent.load, spells]
  unfold FileContent.parse at load
  cases parsed : Json.parse nesting (String.ofList (Text.unifyLineEnds source.toList)) with
  | ok v =>
      rw [parsed] at load
      exact iff_of_true (loadsOrTells_of_loaded load) nofun
  | error failure =>
      rw [parsed] at load
      cases failure with
      | malformed cause position =>
          refine iff_of_true ((loadsOrTells_of_failed load).mpr ⟨_, rfl⟩) ?_
          rintro failure limit ⟨⟩
          exact limit
      | tooManyDigits count =>
          refine iff_of_false (fun loads => ?_)
            fun within => within (.tooManyDigits count) trivial rfl
          obtain ⟨_, ⟨⟩⟩ := (loadsOrTells_of_failed load).mp loads
      | tooDeep container =>
          refine iff_of_false (fun loads => ?_)
            fun within => within (.tooDeep container) trivial rfl
          obtain ⟨_, ⟨⟩⟩ := (loadsOrTells_of_failed load).mp loads

/-- Loading a metadata file gives a catalog or tells what is wrong, whatever the file holds, exactly
if it is no file of octets or these encode a text that is within the limits of numbers and of
nesting.
-/
theorem ofFile_loadsOrTells_iff (nesting : Nat) (path : String) (content : FileContent)
    : LoadsOrTells (ofFile nesting path content)
      ↔ ∀ octets,
          content = .octets octets
          → ∃ cs : List Char,
              octets = cs.flatMap String.utf8EncodeChar
              ∧ Json.DigitsWithin nesting (Text.unifyLineEnds (Text.keep cs))
              ∧ Json.NestsWithin nesting (Text.unifyLineEnds (Text.keep cs)) := by
  cases content with
  | nothing => exact iff_of_true ((loadsOrTells_of_failed rfl).mpr ⟨_, rfl⟩) nofun
  | directory => exact iff_of_true ((loadsOrTells_of_failed rfl).mpr ⟨_, rfl⟩) nofun
  | octets octets =>
      simp only [FileContent.octets.injEq, forall_eq']
      cases spells : Text.Utf8.decode octets with
      | ok source =>
          obtain ⟨cs, encodes, rfl⟩ := Text.Utf8.decode_eq_ok.mp spells
          rw [loadsOrTells_of_text spells, String.toList_ofList]
          constructor
          · exact fun within => ⟨cs, encodes, within⟩
          · rintro ⟨cs', encodes', within⟩
            have same := Text.Utf8.decode_eq_ok.mpr ⟨cs', encodes', rfl⟩
            rw [spells, Except.ok.injEq, String.ofList_inj] at same
            rwa [same]
      | error failure =>
          have load : (FileContent.octets octets).load nesting path
              = .error (.fault (.unreadableText failure)) := by
            rw [FileContent.load, spells]
          refine iff_of_false (fun loads => ?_) ?_
          · obtain ⟨_, ⟨⟩⟩ := (loadsOrTells_of_failed load).mp loads
          · rintro ⟨cs, encodes, _⟩
            cases spells.symm.trans (Text.Utf8.decode_eq_ok.mpr ⟨cs, encodes, rfl⟩)

end Catalog

-----------------------------------------------------------------------------------------
-- Files that are neither loaded nor told to be wrong
-----------------------------------------------------------------------------------------

namespace Sample

/-- A text of one integer with a digit too many. -/
def longNumber : List Char := List.replicate 4301 '1'

theorem longNumber_exceeds (nesting : Nat) : ¬ Json.DigitsWithin nesting longNumber := by
  intro within
  have ahead : Json.Token.IntegerAhead 4301 longNumber := by
    refine ⟨[], longNumber, [], by simp, .inl rfl, fun d member => ?_, ?_, ?_, nofun, rfl, rfl⟩
    · rw [List.eq_of_mem_replicate member]
      decide
    · simp [longNumber]
    · exact List.length_replicate
  have few := within .start 0 longNumber .here (.inl rfl) 4301 ahead
  revert few
  decide

/-- The octets of a long number, and an octet that begins no character, make no catalog, and it is
not told what is wrong with them.
-/
theorem longNumber_untold
    : ¬ Catalog.LoadsOrTells
          (Catalog.ofFile 1000 "metadata.json" (.octets (longNumber.flatMap String.utf8EncodeChar)))
      ∧ ¬ Catalog.LoadsOrTells (Catalog.ofFile 1000 "metadata.json" (.octets [0xFF])) := by
  constructor
  · have plain (n : Nat)
        : Text.unifyLineEnds (Text.keep (List.replicate n '1')) = List.replicate n '1' := by
      induction n with
      | zero => rfl
      | succ n ih =>
          change Text.unifyLineEnds ('1' :: Text.keep (List.replicate n '1')) = _
          simpa [Text.unifyLineEnds, List.replicate_succ] using ih
    rw [Catalog.loadsOrTells_of_text (Text.Utf8.decode_eq_ok.mpr ⟨longNumber, rfl, rfl⟩),
      String.toList_ofList, longNumber, plain]
    exact fun within => longNumber_exceeds _ within.1
  · rw [Catalog.loadsOrTells_of_failed rfl]
    rintro ⟨_, ⟨⟩⟩

end Sample

end Polystore
