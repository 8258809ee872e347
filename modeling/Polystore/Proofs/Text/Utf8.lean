import Mathlib.Tactic.SplitIfs
import Polystore.Proofs.Trace.Outcomes
import Polystore.Text.Utf8

/-! Octets are a UTF-8 text exactly if they are the encodings of some characters, one behind the
other. The reading of such octets gives those characters.
-/

namespace Polystore.Text.Utf8

/-- A code of a character is that character's code. -/
theorem toNat_ofNat {code : Nat} (valid : code.isValidChar) : (Char.ofNat code).toNat = code := by
  rw [Char.ofNat, dif_pos valid]
  rfl

-----------------------------------------------------------------------------------------
-- The octets of one character
-----------------------------------------------------------------------------------------

/-- What a first octet says, by its range. -/
theorem shape?_eq_some {first : UInt8} {count : Nat} {low high : UInt8}
    : shape? first = some (count, low, high)
      ↔ first.toNat < 0x80 ∧ (count, low, high) = (0, 0x80, 0xBF)
        ∨ 0xC2 ≤ first.toNat ∧ first.toNat < 0xE0 ∧ (count, low, high) = (1, 0x80, 0xBF)
        ∨ first.toNat = 0xE0 ∧ (count, low, high) = (2, 0xA0, 0xBF)
        ∨ first.toNat = 0xED ∧ (count, low, high) = (2, 0x80, 0x9F)
        ∨ 0xE1 ≤ first.toNat
          ∧ first.toNat < 0xF0
          ∧ first.toNat ≠ 0xED
          ∧ (count, low, high) = (2, 0x80, 0xBF)
        ∨ first.toNat = 0xF0 ∧ (count, low, high) = (3, 0x90, 0xBF)
        ∨ 0xF1 ≤ first.toNat ∧ first.toNat < 0xF4 ∧ (count, low, high) = (3, 0x80, 0xBF)
        ∨ first.toNat = 0xF4 ∧ (count, low, high) = (3, 0x80, 0x8F) := by
  unfold shape?
  simp only [UInt8.lt_iff_toNat_lt, ← UInt8.toNat_inj, UInt8.reduceToNat]
  split_ifs <;> grind

/-- The first octet of three says what the second one may be. -/
theorem shape?_of_three {code : Nat} (least : 0x800 ≤ code) (most : code < 0x10000)
    (scalar : code < 0xD800 ∨ 0xDFFF < code)
    : ∃ low high,
        shape? (UInt8.ofNat (code / 4096 % 16 + 0xE0)) = some (2, low, high)
        ∧ low.toNat ≤ code / 64 % 64 + 0x80
        ∧ code / 64 % 64 + 0x80 ≤ high.toNat := by
  simp only [shape?_eq_some, UInt8.toNat_ofNat']
  have lead : code / 4096 = 0 ∨ code / 4096 = 13 ∨ code / 4096 ≠ 0 ∧ code / 4096 ≠ 13 := by omega
  rcases lead with is | is | is
  · refine ⟨0xA0, 0xBF, .inr (.inr (.inl ⟨by omega, rfl⟩)), ?_⟩
    simp only [UInt8.reduceToNat]
    omega
  · refine ⟨0x80, 0x9F, .inr (.inr (.inr (.inl ⟨by omega, rfl⟩))), ?_⟩
    simp only [UInt8.reduceToNat]
    omega
  · refine ⟨0x80, 0xBF,
      .inr (.inr (.inr (.inr (.inl ⟨by omega, by omega, by omega, rfl⟩)))), ?_⟩
    simp only [UInt8.reduceToNat]
    omega

/-- The first octet of four says what the second one may be. -/
theorem shape?_of_four {code : Nat} (least : 0x10000 ≤ code) (most : code < 0x110000)
    : ∃ low high,
        shape? (UInt8.ofNat (code / 262144 % 8 + 0xF0)) = some (3, low, high)
        ∧ low.toNat ≤ code / 4096 % 64 + 0x80
        ∧ code / 4096 % 64 + 0x80 ≤ high.toNat := by
  simp only [shape?_eq_some, UInt8.toNat_ofNat']
  have lead : code / 262144 = 0 ∨ code / 262144 = 4 ∨ code / 262144 ≠ 0 ∧ code / 262144 ≠ 4 := by
    omega
  rcases lead with is | is | is
  · refine ⟨0x90, 0xBF, .inr (.inr (.inr (.inr (.inr (.inl ⟨by omega, rfl⟩))))), ?_⟩
    simp only [UInt8.reduceToNat]
    omega
  · refine ⟨0x80, 0x8F, .inr (.inr (.inr (.inr (.inr (.inr (.inr ⟨by omega, rfl⟩)))))), ?_⟩
    simp only [UInt8.reduceToNat]
    omega
  · refine ⟨0x80, 0xBF,
      .inr (.inr (.inr (.inr (.inr (.inr (.inl ⟨by omega, by omega, rfl⟩)))))), ?_⟩
    simp only [UInt8.reduceToNat]
    omega

/-- Tail octets are read one by one; the first of them has bounds of its own. -/
theorem tails_eq_ok {low high : UInt8} {code count read : Nat} {octets : List UInt8}
    : tails low high code (count + 1) octets = .ok read
      ↔ ∃ octet rest,
          octets = octet :: rest
          ∧ low.toNat ≤ octet.toNat
          ∧ octet.toNat ≤ high.toNat
          ∧ tails 0x80 0xBF (code * 0x40 + octet.toNat % 0x40) count rest = .ok read := by
  cases octets with
  | nil => simp [tails]
  | cons octet rest =>
      simp only [List.cons.injEq, ← UInt8.le_iff_toNat_le]
      rw [tails]
      by_cases bounds : low ≤ octet ∧ octet ≤ high
      · rw [if_pos bounds]
        constructor
        · intro reads
          refine ⟨octet, rest, ⟨rfl, rfl⟩, bounds.1, bounds.2, ?_⟩
          split at reads
          next found =>
            rw [found]
            exact reads
          · cases reads
        · rintro ⟨_, _, ⟨rfl, rfl⟩, _, _, reads⟩
          rw [reads]
      · rw [if_neg bounds]
        simp only [reduceCtorEq, false_iff]
        rintro ⟨_, _, ⟨rfl, rfl⟩, above, below, _⟩
        exact bounds ⟨above, below⟩

/-- Octets from which a code is read, and what stands behind them. -/
def ReadsCode (first : UInt8) (rest : List UInt8) (code : Nat) (behind : List UInt8) : Prop :=
  ∃ count low high,
    shape? first = some (count, low, high)
    ∧ tails low high (payload count first) count rest = .ok code
    ∧ rest.drop count = behind

/-- No code is read that is no character's. -/
theorem ReadsCode.valid {first : UInt8} {rest behind : List UInt8} {code : Nat}
    (h : ReadsCode first rest code behind)
    : code.isValidChar := by
  obtain ⟨count, low, high, shape, reads, _⟩ := h
  rw [shape?_eq_some] at shape
  rcases shape with ⟨range, is⟩ | ⟨least, most, is⟩ | ⟨range, is⟩ | ⟨range, is⟩
    | ⟨least, most, _, is⟩ | ⟨range, is⟩ | ⟨least, most, is⟩ | ⟨range, is⟩ <;>
    cases is <;>
    simp only [tails_eq_ok, tails, payload, Except.ok.injEq, UInt8.reduceToNat] at reads <;>
    unfold Nat.isValidChar <;>
    grind

/-- A character is read from its encoding only. -/
theorem ReadsCode.encoded {first : UInt8} {rest behind : List UInt8} {c : Char}
    (h : ReadsCode first rest c.toNat behind)
    : first :: rest = String.utf8EncodeChar c ++ behind := by
  obtain ⟨count, low, high, shape, reads, rfl⟩ := h
  have code : c.val.toNat = c.toNat := rfl
  unfold String.utf8EncodeChar
  rw [shape?_eq_some] at shape
  -- One octet, two octets, and three ways to have three or four octets.
  rcases shape with ⟨range, is⟩ | ⟨least, most, is⟩ | ⟨range, is⟩ | ⟨range, is⟩
    | ⟨least, most, _, is⟩ | ⟨range, is⟩ | ⟨least, most, is⟩ | ⟨range, is⟩ <;>
    cases is <;>
    simp only [tails_eq_ok, tails, payload, Except.ok.injEq, UInt8.reduceToNat] at reads
  · rw [if_pos (by omega), code, ← reads]
    simp
  · obtain ⟨second, rest, rfl, _, _, reads⟩ := reads
    rw [if_neg (by omega), if_pos (by omega)]
    simp only [List.drop_succ_cons, List.drop_zero, List.cons_append, List.nil_append,
      List.cons.injEq, and_true, ← UInt8.toNat_inj, UInt8.toNat_ofNat']
    omega
  iterate 3
    obtain ⟨second, _, rfl, _, _, third, rest, rfl, _, _, reads⟩ := reads
    rw [if_neg (by omega), if_neg (by omega), if_pos (by omega)]
    simp only [List.drop_succ_cons, List.drop_zero, List.cons_append, List.nil_append,
      List.cons.injEq, and_true, ← UInt8.toNat_inj, UInt8.toNat_ofNat']
    omega
  iterate 3
    obtain ⟨second, _, rfl, _, _, third, _, rfl, _, _, fourth, rest, rfl, _, _, reads⟩ := reads
    rw [if_neg (by omega), if_neg (by omega), if_neg (by omega)]
    simp only [List.drop_succ_cons, List.drop_zero, List.cons_append, List.nil_append,
      List.cons.injEq, and_true, ← UInt8.toNat_inj, UInt8.toNat_ofNat']
    omega

/-- A character is read from its encoding. -/
theorem readsCode_of_encoded {first : UInt8} {rest behind : List UInt8} {c : Char}
    (h : first :: rest = String.utf8EncodeChar c ++ behind)
    : ReadsCode first rest c.toNat behind := by
  have scalar : c.toNat < 0xD800 ∨ 0xDFFF < c.toNat ∧ c.toNat < 0x110000 := c.valid
  have code : c.val.toNat = c.toNat := rfl
  revert h
  unfold String.utf8EncodeChar
  simp only [code]
  split_ifs with one two three
  · rintro ⟨⟩
    refine ⟨0, 0x80, 0xBF, shape?_eq_some.mpr (.inl ⟨?_, rfl⟩), ?_, rfl⟩ <;>
      simp only [tails, payload, UInt8.toNat_ofNat', Except.ok.injEq] <;>
      omega
  · rintro ⟨⟩
    refine ⟨1, 0x80, 0xBF, shape?_eq_some.mpr (.inr (.inl ⟨?_, ?_, rfl⟩)),
      tails_eq_ok.mpr ⟨_, _, rfl, ?_, ?_, ?_⟩, rfl⟩ <;>
      simp only [tails, payload, UInt8.toNat_ofNat', Except.ok.injEq, UInt8.reduceToNat] <;>
      omega
  · rintro ⟨⟩
    obtain ⟨low, high, shape, above, below⟩ :=
      shape?_of_three (by omega : 0x800 ≤ c.toNat) (by omega) (by omega)
    refine ⟨2, low, high, shape, tails_eq_ok.mpr ⟨_, _, rfl, ?_, ?_,
      tails_eq_ok.mpr ⟨_, _, rfl, ?_, ?_, ?_⟩⟩, rfl⟩ <;>
      simp only [tails, payload, UInt8.toNat_ofNat', Except.ok.injEq, UInt8.reduceToNat] <;>
      omega
  · rintro ⟨⟩
    obtain ⟨low, high, shape, above, below⟩ :=
      shape?_of_four (by omega : 0x10000 ≤ c.toNat) (by omega)
    refine ⟨3, low, high, shape, tails_eq_ok.mpr ⟨_, _, rfl, ?_, ?_, tails_eq_ok.mpr ⟨_, _, rfl,
      ?_, ?_, tails_eq_ok.mpr ⟨_, _, rfl, ?_, ?_, ?_⟩⟩⟩, rfl⟩ <;>
      simp only [tails, payload, UInt8.toNat_ofNat', Except.ok.injEq, UInt8.reduceToNat] <;>
      omega

-----------------------------------------------------------------------------------------
-- The octets of a text
-----------------------------------------------------------------------------------------

/-- Where no octets belong to the character before, the next character is read. -/
theorem decodeFrom_cons {offset : Nat} {first : UInt8} {rest : List UInt8} {cs : List Char}
    : decodeFrom 0 offset (first :: rest) = .ok cs
      ↔ ∃ count low high code behind,
          shape? first = some (count, low, high)
          ∧ tails low high (payload count first) count rest = .ok code
          ∧ decodeFrom count (offset + 1) rest = .ok behind
          ∧ cs = Char.ofNat code :: behind := by
  rw [decodeFrom]
  cases shape : shape? first with
  | none => simp
  | some said =>
      obtain ⟨count, low, high⟩ := said
      dsimp only
      cases read : tails low high (payload count first) count rest with
      | error failed =>
          simp only [reduceCtorEq, Option.some.injEq, Prod.mk.injEq, false_iff]
          rintro ⟨_, _, _, _, _, ⟨rfl, rfl, rfl⟩, read', _⟩
          cases read.symm.trans read'
      | ok code =>
          rw [Outcome.map_eq_ok]
          constructor
          · rintro ⟨behind, follows, rfl⟩
            exact ⟨count, low, high, code, behind, rfl, read, follows, rfl⟩
          · rintro ⟨_, _, _, _, behind, ⟨⟩, read', follows, rfl⟩
            cases read.symm.trans read'
            exact ⟨behind, follows, rfl⟩

/-- Octets are read to characters that they encode, by induction on the octets. The first of them
may belong to the character before.
-/
theorem decodeFrom_eq_ok {skip offset : Nat} {octets : List UInt8} {cs : List Char}
    : decodeFrom skip offset octets = .ok cs
      ↔ octets.drop skip = cs.flatMap String.utf8EncodeChar := by
  induction octets generalizing skip offset cs with
  | nil =>
      have encodes (c : Char) : String.utf8EncodeChar c ≠ [] :=
        List.ne_nil_of_length_pos (by simpa using c.utf8Size_pos)
      cases cs <;> simp [decodeFrom, encodes]
  | cons first rest ih =>
      cases skip with
      | succ skip => exact ih
      | zero =>
          rw [decodeFrom_cons, List.drop_zero]
          simp only [ih]
          constructor
          · rintro ⟨count, low, high, code, behind, shape, read, follows, rfl⟩
            have reads : ReadsCode first rest code (rest.drop count) :=
              ⟨count, low, high, shape, read, rfl⟩
            rw [← toNat_ofNat reads.valid] at reads
            rw [List.flatMap_cons, ← follows]
            exact reads.encoded
          · intro encoded
            cases cs with
            | nil => cases encoded
            | cons c behind =>
                rw [List.flatMap_cons] at encoded
                obtain ⟨count, low, high, shape, read, follows⟩ := readsCode_of_encoded encoded
                exact ⟨count, low, high, c.toNat, behind, shape, read, follows,
                  by rw [Char.ofNat_toNat]⟩

/-- Octets spell the text of those characters that they encode. -/
theorem decode_eq_ok {octets : List UInt8} {s : String}
    : decode octets = .ok s
      ↔ ∃ cs, octets = cs.flatMap String.utf8EncodeChar ∧ s = String.ofList (keep cs) := by
  rw [decode, Outcome.map_eq_ok]
  simp only [decodeFrom_eq_ok, List.drop_zero, eq_comm (b := s)]

end Polystore.Text.Utf8
