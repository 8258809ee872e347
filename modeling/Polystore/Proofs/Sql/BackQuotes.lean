import Mathlib.Data.List.Count
import Polystore.Sql.Dialect

/-! Names in back quotes as a lexer reads them. Within such a name a backslash takes the next
character as it stands. A name is written with a backslash in front of each back quote but with
none in front of a backslash, so that it is read again exactly where it has no backslash.
-/

namespace Polystore

namespace Sql

-----------------------------------------------------------------------------------------
-- The reader
-----------------------------------------------------------------------------------------

/-- The name that characters behind an opening back quote spell, and what stands behind the
closing one. A name that is never closed is none.
-/
def readName : List Char → Option (List Char × List Char)
  | [] => none
  | '\x60' :: behind => some ([], behind)
  | '\\' :: c :: rest => (readName rest).map fun (name, behind) => (c :: name, behind)
  | c :: rest => (readName rest).map fun (name, behind) => (c :: name, behind)

/-- The name in back quotes that a text begins with, and the text behind it. -/
def backQuotedName? (text : String) : Option (String × String) :=
  match text.toList with
  | '\x60' :: rest =>
      (readName rest).map fun (name, behind) => (String.ofList name, String.ofList behind)
  | _ => none

/-- A character within a name in back quotes. -/
def slashed (c : Char) : List Char := if c = '\x60' then ['\\', '\x60'] else [c]

/-- A quoted name and the text behind it are read character by character. -/
theorem backQuotedName?_quote (s rest : String)
    : backQuotedName? (Dialect.clickhouse.quote s ++ rest)
      = (readName (s.toList.flatMap slashed ++ '\x60' :: rest.toList)).map
          fun (name, behind) => (String.ofList name, String.ofList behind) := by
  have chars : (Dialect.clickhouse.quote s ++ rest).toList
      = '\x60' :: (s.toList.flatMap slashed ++ '\x60' :: rest.toList) := by
    rw [String.toList_append]
    change (Dialect.backQuoted s).toList ++ _ = _
    rw [Dialect.backQuoted, String.toList_ofList]
    change '\x60' :: (s.toList.flatMap slashed ++ ['\x60']) ++ _ = _
    simp
  simp only [backQuotedName?, chars]

-----------------------------------------------------------------------------------------
-- Names without backslashes
-----------------------------------------------------------------------------------------

/-- A character that is neither a back quote nor a backslash is read as it stands. -/
theorem readName_cons {c : Char} (quote : c ≠ '\x60') (slash : c ≠ '\\') (rest : List Char)
    : readName (c :: rest)
      = (readName rest).map fun (name, behind) => (c :: name, behind) := by
  cases rest <;> simp [readName, slash]

/-- A name without backslashes is read back, by induction on the name. -/
theorem readName_slashed {name : List Char} (clean : '\\' ∉ name) (behind : List Char)
    : readName (name.flatMap slashed ++ '\x60' :: behind) = some (name, behind) := by
  induction name with
  | nil => simp [readName]
  | cons c name ih =>
      obtain ⟨slash, clean⟩ := List.ne_and_not_mem_of_not_mem_cons clean
      rw [List.flatMap_cons, List.append_assoc]
      by_cases quote : c = '\x60'
      · simp [slashed, quote, readName, ih clean]
      · simp [slashed, quote, readName_cons quote slash.symm, ih clean]

-----------------------------------------------------------------------------------------
-- Names with backslashes
-----------------------------------------------------------------------------------------

/-- The characters of a name that can only be read behind a backslash. -/
def specials (name : List Char) : Nat := name.count '\x60' + name.count '\\'

theorem specials_cons_of_ne {c : Char} (quote : c ≠ '\x60') (slash : c ≠ '\\')
    (name : List Char)
    : specials (c :: name) = specials name := by
  rw [specials, specials, List.count_cons_of_ne quote, List.count_cons_of_ne slash]

theorem specials_cons_le (c : Char) (name : List Char)
    : specials (c :: name) ≤ specials name + 1 := by
  by_cases quote : c = '\x60'
  · simp only [specials, quote, List.count_cons_self]
    rw [List.count_cons_of_ne (by decide)]
    omega
  · by_cases slash : c = '\\'
    · simp only [specials, slash, List.count_cons_self]
      rw [List.count_cons_of_ne (by decide)]
      omega
    · rw [specials_cons_of_ne quote slash]
      omega

/-- A name that is read takes a character of its own for each of its characters, one more for each
special one, and one to close it, by induction on the characters.
-/
theorem length_of_readName {cs name behind : List Char} (read : readName cs = some (name, behind))
    : name.length + specials name + 1 + behind.length ≤ cs.length := by
  fun_induction readName cs generalizing name behind with
  | case1 => cases read
  | case2 =>
      cases read
      simp [specials, Nat.add_comm]
  | case3 c rest ih =>
      obtain ⟨⟨later, _⟩, read, same⟩ := Option.map_eq_some_iff.mp read
      cases same
      have bound := ih read
      have one := specials_cons_le c later
      simp only [List.length_cons]
      omega
  | case4 c rest quote slash ih =>
      obtain ⟨⟨later, _⟩, read, same⟩ := Option.map_eq_some_iff.mp read
      cases same
      have bound := ih read
      have ordinary : c ≠ '\\' := by
        rintro rfl
        cases rest with
        | nil => cases read
        | cons c rest => exact slash c rest rfl rfl
      have same := specials_cons_of_ne quote ordinary later
      simp only [List.length_cons]
      omega

/-- A quoted name takes one more character for each of its back quotes only. -/
theorem length_slashed (name : List Char)
    : (name.flatMap slashed).length = name.length + name.count '\x60' := by
  induction name with
  | nil => rfl
  | cons c name ih =>
      rw [List.flatMap_cons, List.length_append, ih, List.length_cons]
      by_cases quote : c = '\x60'
      · subst quote
        rw [List.count_cons_self]
        change 2 + _ = _
        omega
      · rw [slashed, if_neg quote, List.count_cons_of_ne quote, List.length_singleton]
        omega

-----------------------------------------------------------------------------------------
-- Exactly the names that are read back
-----------------------------------------------------------------------------------------

/-- A quoted name in front of any text is read as the name that it is, and nothing of the text
with it, exactly where the name has no backslash: there would not be enough characters for one.
-/
theorem backQuotedName?_quote_eq_iff (s rest : String)
    : backQuotedName? (Dialect.clickhouse.quote s ++ rest) = some (s, rest)
      ↔ '\\' ∉ s.toList := by
  rw [backQuotedName?_quote]
  constructor
  · intro read
    obtain ⟨⟨name, behind⟩, read, same⟩ := Option.map_eq_some_iff.mp read
    cases same
    have bound := length_of_readName read
    simp only [String.toList_ofList, List.length_append, length_slashed, List.length_cons,
      specials] at bound
    rw [String.toList_ofList, ← List.count_eq_zero]
    omega
  · intro clean
    rw [readName_slashed clean]
    simp

end Sql

namespace Sample

/-- A name that ends with a backslash takes the closing back quote for one of its own, and goes
on into the text behind it.
-/
theorem trailing_backslash_not_read
    : Sql.backQuotedName? (Dialect.clickhouse.quote "n\\" ++ ", ") ≠ some ("n\\", ", ") := by
  rw [Sql.backQuotedName?_quote]
  decide

end Sample

end Polystore
