import Polystore.Proofs.Decimal.Digits
import Polystore.Proofs.Text.Utf8
import Polystore.Text.Quoted

/-! Quotations are read back: where one ends is seen from the quotation itself, and different texts
have different ones.
-/

namespace Polystore.Text

-----------------------------------------------------------------------------------------
-- Texts as codes
-----------------------------------------------------------------------------------------

/-- A text that keeps codes, as every text does that is read. -/
def Kept (cs : List Char) : Prop :=
  ∃ codes : List Nat, (∀ code ∈ codes, code < 0x110000) ∧ cs = codes.flatMap ofCode

theorem Kept.append {cs ds : List Char} (kept : Kept cs) (kept' : Kept ds) : Kept (cs ++ ds) := by
  obtain ⟨codes, bound, rfl⟩ := kept
  obtain ⟨others, bound', rfl⟩ := kept'
  refine ⟨codes ++ others, fun code member => ?_, List.flatMap_append.symm⟩
  exact (List.mem_append.mp member).elim (bound code) (bound' code)

theorem kept_ofCode {code : Nat} (h : code < 0x110000) : Kept (ofCode code) :=
  ⟨[code], by simpa using h, by simp⟩

/-- A character that is not the mark is kept as it is. -/
theorem ofCode_toNat {c : Char} (plain : c ≠ keptMark) : ofCode c.toNat = [c] := by
  have valid : c.toNat.isValidChar := c.valid
  unfold ofCode
  rw [if_neg, if_neg, Char.ofNat_toNat]
  · exact fun same => plain (Char.toNat_inj.mp same)
  · simp only [isSurrogate, isHighSurrogate, isLowSurrogate, Bool.or_eq_true, Bool.and_eq_true,
      decide_eq_true_eq]
    unfold Nat.isValidChar at valid
    omega

theorem ne_keptMark {c : Char} (low : c.toNat < 0xD7FF) : c ≠ keptMark := by
  rintro rfl
  exact absurd low (lt_irrefl 0xD7FF)

/-- A text without the mark keeps its characters. -/
theorem kept_of_plain {cs : List Char} (plain : ∀ c ∈ cs, c ≠ keptMark) : Kept cs := by
  refine ⟨cs.map Char.toNat, fun code member => ?_, ?_⟩
  · obtain ⟨c, _, rfl⟩ := List.mem_map.mp member
    have valid : c.toNat.isValidChar := c.valid
    unfold Nat.isValidChar at valid
    omega
  · rw [List.flatMap_map, List.flatMap_congr fun c member => ofCode_toNat (plain c member)]
    exact (List.flatMap_singleton' cs).symm

/-- The characters of a code: a character by itself, or the mark and what stands for the code. -/
theorem ofCode_cases {code : Nat} (h : code < 0x110000)
    : (∃ c, ofCode code = [c] ∧ c ≠ keptMark ∧ c.toNat = code)
      ∨ ∃ kept, ofCode code = [keptMark, kept] ∧ codeOf [keptMark, kept] = code := by
  have mark : keptMark.toNat = 0xD7FF := rfl
  unfold ofCode
  split
  next half =>
    have high : (0x100000 + code).isValidChar := by
      simp only [isSurrogate, isHighSurrogate, isLowSurrogate, Bool.or_eq_true, Bool.and_eq_true,
        decide_eq_true_eq] at half
      unfold Nat.isValidChar
      omega
    have is := Utf8.toNat_ofNat high
    have other : Char.ofNat (0x100000 + code) ≠ keptMark := by
      intro same
      rw [same, mark] at is
      omega
    refine .inr ⟨_, rfl, ?_⟩
    rw [codeOf, if_neg other, is, Nat.add_sub_cancel_left]
  next whole =>
    split
    next same => exact .inr ⟨keptMark, rfl, by rw [codeOf, if_pos rfl, same]⟩
    next other =>
      have valid : code.isValidChar := by
        simp only [isSurrogate, isHighSurrogate, isLowSurrogate, Bool.or_eq_true, Bool.and_eq_true,
          decide_eq_true_eq] at whole
        unfold Nat.isValidChar
        omega
      have is := Utf8.toNat_ofNat valid
      exact .inl ⟨_, rfl, fun same => other (by rw [← is, same]), is⟩

/-- The characters of a code are one unit in front of any text. -/
theorem units_ofCode {code : Nat} (h : code < 0x110000) (rest : List Char)
    : units (ofCode code ++ rest) = ofCode code :: units rest := by
  rcases ofCode_cases h with ⟨c, is, plain, _⟩ | ⟨kept, is, _⟩
  · rw [is]
    cases rest with
    | nil => rfl
    | cons d rest => exact if_neg plain
  · rw [is]
    exact if_pos rfl

theorem units_flatMap_ofCode {codes : List Nat} (h : ∀ code ∈ codes, code < 0x110000)
    : units (codes.flatMap ofCode) = codes.map ofCode := by
  induction codes with
  | nil => rfl
  | cons code rest ih =>
      rw [List.flatMap_cons, units_ofCode (h code List.mem_cons_self), List.map_cons,
        ih fun other member => h other (List.mem_cons_of_mem _ member)]

-----------------------------------------------------------------------------------------
-- Reading a quotation back
-----------------------------------------------------------------------------------------

/-- The code that some digits in base sixteen show, and what stands behind them. -/
def readHex (width : Nat) (cs : List Char) : Nat × List Char :=
  (Decimal.ofDigits 16 (cs.take width), cs.drop width)

/-- The code that is shown in front of a text inside a quotation, and what stands behind it. -/
def readCode (quote : Char) : List Char → Option (Nat × List Char)
  | [] => none
  | '\\' :: 'n' :: rest => some ('\n'.toNat, rest)
  | '\\' :: 't' :: rest => some ('\t'.toNat, rest)
  | '\\' :: 'r' :: rest => some ('\r'.toNat, rest)
  | '\\' :: 'x' :: rest => some (readHex 2 rest)
  | '\\' :: 'u' :: rest => some (readHex 4 rest)
  | '\\' :: 'U' :: rest => some (readHex 8 rest)
  | '\\' :: c :: rest => some (c.toNat, rest)
  | c :: rest => if c = quote then none else some (c.toNat, rest)

/-- What a code is shown by inside a quotation. -/
def shownCode (shown : Char → Bool) (quote : Char) (code : Nat) : List Char :=
  match ofCode code with
  | [c] => escape shown quote c
  | unit => codeEscape (codeOf unit)

theorem length_hexDigits (width n : Nat) : (hexDigits width n).length = width := by
  induction width generalizing n with
  | zero => rfl
  | succ width ih => rw [hexDigits, List.length_append, ih, List.length_singleton]

theorem ofDigits_hexDigits {width n : Nat} (h : n < 16 ^ width)
    : Decimal.ofDigits 16 (hexDigits width n) = n := by
  induction width generalizing n with
  | zero => exact (Nat.lt_one_iff.mp h).symm
  | succ width ih =>
      rw [pow_succ] at h
      rw [hexDigits, Decimal.ofDigits_append_singleton, ih (by omega),
        Decimal.digitValue?_digitChar (by omega), Option.getD_some]
      omega

theorem readHex_hexDigits {width n : Nat} (h : n < 16 ^ width) (rest : List Char)
    : readHex width (hexDigits width n ++ rest) = (n, rest) := by
  rw [readHex, List.take_left' (length_hexDigits ..), List.drop_left' (length_hexDigits ..),
    ofDigits_hexDigits h]

theorem readCode_codeEscape (quote : Char) {code : Nat} (h : code < 0x110000) (rest : List Char)
    : readCode quote (codeEscape code ++ rest) = some (code, rest) := by
  unfold codeEscape
  split
  next byte => exact congrArg some (readHex_hexDigits byte rest)
  next =>
    split
    next word => exact congrArg some (readHex_hexDigits word rest)
    next => exact congrArg some (readHex_hexDigits (h.trans (by decide)) rest)

/-- A character that is no letter of an escape stands for itself behind a backslash. -/
theorem readCode_backslash {quote c : Char} (h : c = '\'' ∨ c = '"' ∨ c = '\\')
    (rest : List Char)
    : readCode quote ('\\' :: c :: rest) = some (c.toNat, rest) := by
  rcases h with rfl | rfl | rfl <;> rfl

theorem readCode_plain {quote c : Char} (quote_ne : c ≠ quote) (backslash_ne : c ≠ '\\')
    (rest : List Char)
    : readCode quote (c :: rest) = some (c.toNat, rest) := by
  unfold readCode
  split
  all_goals simp_all

variable {shown : Char → Bool} {quote : Char}

/-- Every code is read from what shows it. -/
theorem readCode_shownCode (quotes : quote = '\'' ∨ quote = '"') {code : Nat} (h : code < 0x110000)
    (rest : List Char)
    : readCode quote (shownCode shown quote code ++ rest) = some (code, rest) := by
  unfold shownCode
  rcases ofCode_cases h with ⟨c, is, _, value⟩ | ⟨kept, is, value⟩
  · rw [is]
    dsimp only
    subst value
    unfold escape
    split_ifs with self newline tab carriage
    · have letter : c = '\'' ∨ c = '"' ∨ c = '\\' := by
        rcases self with same | backslash
        · exact quotes.imp same.trans fun is => .inl (same.trans is)
        · exact .inr (.inr backslash)
      exact readCode_backslash letter rest
    · rw [newline]
      rfl
    · rw [tab]
      rfl
    · rw [carriage]
      rfl
    · exact readCode_plain (fun is => self (.inl is)) (fun is => self (.inr is)) rest
    · exact readCode_codeEscape quote h rest
  · rw [is]
    dsimp only
    rw [value]
    exact readCode_codeEscape quote h rest

theorem readCode_quote (quotes : quote = '\'' ∨ quote = '"') (rest : List Char)
    : readCode quote (quote :: rest) = none := by
  rcases quotes with rfl | rfl <;> rfl

-----------------------------------------------------------------------------------------
-- Telling quotations apart
-----------------------------------------------------------------------------------------

theorem quoteFor_eq (cs : List Char) : quoteFor cs = '\'' ∨ quoteFor cs = '"' := by
  unfold quoteFor
  split
  · exact .inr rfl
  · exact .inl rfl

/-- Inside a quotation, codes are shown one after the other. -/
theorem escapeAll_flatMap_ofCode {codes : List Nat} (h : ∀ code ∈ codes, code < 0x110000)
    : escapeAll shown quote (codes.flatMap ofCode) = codes.flatMap (shownCode shown quote) := by
  rw [escapeAll, units_flatMap_ofCode h, List.flatMap_map]
  rfl

/-- Codes that are shown in front of the quote are told apart, and where the quote is, by induction
on the codes.
-/
theorem shownCodes_inj (quotes : quote = '\'' ∨ quote = '"') {codes others : List Nat}
    (h : ∀ code ∈ codes, code < 0x110000) (h' : ∀ code ∈ others, code < 0x110000)
    {rest more : List Char}
    (same : codes.flatMap (shownCode shown quote) ++ quote :: rest
      = others.flatMap (shownCode shown quote) ++ quote :: more)
    : codes = others ∧ rest = more := by
  induction codes generalizing others with
  | nil =>
      cases others with
      | nil => exact ⟨rfl, (List.cons.inj same).2⟩
      | cons other others =>
          have read := congrArg (readCode quote) same
          rw [List.flatMap_nil, List.nil_append, readCode_quote quotes, List.flatMap_cons,
            List.append_assoc, readCode_shownCode quotes (h' other List.mem_cons_self)] at read
          nomatch read
  | cons code codes ih =>
      cases others with
      | nil =>
          have read := congrArg (readCode quote) same
          rw [List.flatMap_nil, List.nil_append, readCode_quote quotes, List.flatMap_cons,
            List.append_assoc, readCode_shownCode quotes (h code List.mem_cons_self)] at read
          nomatch read
      | cons other others =>
          have read := congrArg (readCode quote) same
          rw [List.flatMap_cons, List.append_assoc,
            readCode_shownCode quotes (h code List.mem_cons_self), List.flatMap_cons,
            List.append_assoc, readCode_shownCode quotes (h' other List.mem_cons_self)] at read
          obtain ⟨rfl, later⟩ := Prod.mk.inj (Option.some.inj read)
          obtain ⟨rfl, ends⟩ := ih (fun c member => h c (List.mem_cons_of_mem _ member))
            (fun c member => h' c (List.mem_cons_of_mem _ member)) later
          exact ⟨rfl, ends⟩

/-- Quotations in front of texts are told apart, and where they end. -/
theorem quoteWith_inj {cs ds : List Char} (kept : Kept cs) (kept' : Kept ds)
    {rest more : List Char} (h : quoteWith shown cs ++ rest = quoteWith shown ds ++ more)
    : cs = ds ∧ rest = more := by
  obtain ⟨codes, bound, is⟩ := kept
  obtain ⟨others, bound', is'⟩ := kept'
  have opened (cs rest : List Char) :
      quoteWith shown cs ++ rest
        = quoteFor cs :: (escapeAll shown (quoteFor cs) cs ++ quoteFor cs :: rest) := by
    simp [quoteWith]
  rw [opened, opened] at h
  obtain ⟨quote, inside⟩ := List.cons.inj h
  rw [← quote] at inside
  have quotes := quoteFor_eq cs
  generalize quoteFor cs = quote at inside quotes
  rw [is, is', escapeAll_flatMap_ofCode bound, escapeAll_flatMap_ofCode bound'] at inside
  obtain ⟨rfl, ends⟩ := shownCodes_inj quotes bound bound' inside
  exact ⟨is.trans is'.symm, ends⟩

end Polystore.Text
