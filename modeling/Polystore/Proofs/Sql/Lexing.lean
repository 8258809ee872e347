import Mathlib.Data.List.Chain
import Polystore.Sql.Dialect

/-! Written SQL as a lexer reads it. The lexer knows names in double quotes and takes every other
character as it stands; it finds the names and the texts of pieces again as long as no text has a
quote and no name stands right behind another.
-/

namespace Polystore

namespace Sql

-----------------------------------------------------------------------------------------
-- The lexer
-----------------------------------------------------------------------------------------

/-- What the lexer tells apart: names, and the characters outside them. -/
inductive Token where
  | name (s : String)
  | char (c : Char)
  deriving DecidableEq

namespace Token

def name? : Token → Option String
  | name s => some s
  | char _ => none

/-- The character of a token; a name shows no more than that it is there. -/
def char? : Token → Option Char
  | name _ => none
  | char c => some c

end Token

/-- Where the lexer is: outside of all names, within one, or behind a quote that ends the name
unless another one follows. What has been read of the name is kept.
-/
inductive Reading where
  | outside
  | within (read : List Char)
  | behind (read : List Char)

/-- The tokens of characters. There are none if the characters end within a name. -/
def lexFrom : Reading → List Char → Option (List Token)
  | .outside, [] => some []
  | .within _, [] => none
  | .behind read, [] => some [.name (String.ofList read)]
  | .outside, c :: rest =>
      if c = '"' then lexFrom (.within []) rest
      else (lexFrom .outside rest).map (.char c :: ·)
  | .within read, c :: rest =>
      if c = '"' then lexFrom (.behind read) rest
      else lexFrom (.within (read ++ [c])) rest
  | .behind read, c :: rest =>
      if c = '"' then lexFrom (.within (read ++ ['"'])) rest
      else (lexFrom .outside rest).map (.name (String.ofList read) :: .char c :: ·)

/-- The tokens of a text, in which `"` begins a name, `""` within a name stands for one quote and
a single `"` ends the name.
-/
def lex (s : String) : Option (List Token) := lexFrom .outside s.toList

-----------------------------------------------------------------------------------------
-- Reading names
-----------------------------------------------------------------------------------------

/-- A character within a quoted name. -/
def doubled (c : Char) : List Char := if c = '"' then ['"', '"'] else [c]

theorem toList_doubleQuoted (s : String)
    : (Dialect.doubleQuoted s).toList = '"' :: (s.toList.flatMap doubled ++ ['"']) := by
  rw [Dialect.doubleQuoted, String.toList_ofList]
  rfl

/-- Doubled quotes are read as single ones, by induction on the name. -/
theorem lexFrom_within (read name rest : List Char)
    : lexFrom (.within read) (name.flatMap doubled ++ rest)
      = lexFrom (.within (read ++ name)) rest := by
  induction name generalizing read with
  | nil => simp
  | cons c name ih =>
      rw [List.flatMap_cons, List.append_assoc, List.append_cons read c name, ← ih]
      by_cases quote : c = '"'
      · simp [lexFrom, doubled, quote]
      · simp [lexFrom, doubled, quote]

/-- A name has ended where no other quote follows the last one. -/
theorem lexFrom_behind (read : List Char) {rest : List Char} (other : rest.head? ≠ some '"')
    : lexFrom (.behind read) rest
      = (lexFrom .outside rest).map (.name (String.ofList read) :: ·) := by
  cases rest with
  | nil => rfl
  | cons c rest =>
      have other : c ≠ '"' := by simpa using other
      simp [lexFrom, other, Function.comp_def]

/-- A quoted name is read as the name that it is, whatever characters it has. -/
theorem lexFrom_quoted (s : String) {rest : List Char} (other : rest.head? ≠ some '"')
    : lexFrom .outside ((Dialect.doubleQuoted s).toList ++ rest)
      = (lexFrom .outside rest).map (.name s :: ·) :=
  calc
    lexFrom .outside ((Dialect.doubleQuoted s).toList ++ rest)
      = lexFrom (.within []) (s.toList.flatMap doubled ++ '"' :: rest) := by
          simp [toList_doubleQuoted, lexFrom]
    _ = lexFrom (.within s.toList) ('"' :: rest) := lexFrom_within [] s.toList _
    _ = lexFrom (.behind s.toList) rest := by simp [lexFrom]
    _ = (lexFrom .outside rest).map (.name s :: ·) := by
          rw [lexFrom_behind _ other, String.ofList_toList]

-----------------------------------------------------------------------------------------
-- Reading texts
-----------------------------------------------------------------------------------------

/-- A text that is read character by character: it has characters, and no quotes. -/
structure Plain (s : String) : Prop where
  nonempty : s.toList ≠ []
  unquoted : '"' ∉ s.toList

instance (s : String) : Decidable (Plain s) :=
  decidable_of_iff (s.toList ≠ [] ∧ '"' ∉ s.toList)
    ⟨fun h => ⟨h.1, h.2⟩, fun plain => ⟨plain.nonempty, plain.unquoted⟩⟩

/-- Characters outside of names are read as they stand, by induction on them. -/
theorem lexFrom_plain {cs : List Char} (unquoted : '"' ∉ cs) (rest : List Char)
    : lexFrom .outside (cs ++ rest) = (lexFrom .outside rest).map (cs.map .char ++ ·) := by
  induction cs with
  | nil => simp
  | cons c cs ih =>
      obtain ⟨other, unquoted⟩ := List.ne_and_not_mem_of_not_mem_cons unquoted
      simp [lexFrom, other.symm, ih unquoted, Function.comp_def]

/-- A plain text ends a name that is in front of it. -/
theorem Plain.head?_ne {s : String} (plain : Plain s) (rest : List Char)
    : (s.toList ++ rest).head? ≠ some '"' := by
  obtain ⟨c, cs, chars⟩ := List.exists_cons_of_ne_nil plain.nonempty
  have unquoted := plain.unquoted
  rw [chars] at unquoted ⊢
  intro quote
  cases quote
  exact unquoted (List.mem_cons_self ..)

theorem Plain.append {s t : String} (hs : Plain s) (ht : '"' ∉ t.toList) : Plain (s ++ t) := by
  constructor
  · rw [String.toList_append]
    exact List.append_ne_nil_of_left_ne_nil hs.nonempty _
  · rw [String.toList_append, List.mem_append, not_or]
    exact ⟨hs.unquoted, ht⟩

/-- Whole numbers are written without quotes. -/
theorem unquoted_toString_nat (n : Nat) : '"' ∉ (toString n).toList := by
  intro member
  rw [Nat.toString_eq_repr, Nat.repr_eq_ofList_toDigits, String.toList_ofList] at member
  have digit := Nat.isDigit_of_mem_toDigits (by decide) (by decide) member
  simp at digit

theorem unquoted_toString_int (i : Int) : '"' ∉ (toString i).toList := by
  cases i with
  | ofNat n => exact unquoted_toString_nat n
  | negSucc n =>
      change '"' ∉ ("-" ++ toString (n + 1)).toList
      simpa using unquoted_toString_nat (n + 1)

-----------------------------------------------------------------------------------------
-- Reading pieces
-----------------------------------------------------------------------------------------

end Sql

/-- The name that a piece is, if it is one. -/
def Piece.name? : Piece → Option String
  | .name s => some s
  | _ => none

namespace Sql

/-- The names among pieces, in order. -/
def names (sql : Sql) : List String := sql.filterMap Piece.name?

/-- Whether of two neighbours one is no name. -/
def Apart (a b : Piece) : Prop := a.name? = none ∨ b.name? = none

/-- Pieces that the lexer finds again. -/
structure Readable (sql : Sql) : Prop where
  plain : ∀ s, Piece.text s ∈ sql → Plain s
  apart : sql.IsChain Apart

/-- The tokens of pieces, the slots numbered from a number on. -/
def tokensFrom (placeholder : String → String) : Nat → Sql → List Token
  | _, [] => []
  | n, .text s :: rest => s.toList.map .char ++ tokensFrom placeholder n rest
  | n, .name s :: rest => .name s :: tokensFrom placeholder n rest
  | n, .slot _ :: rest =>
      (placeholder (toString n)).toList.map .char ++ tokensFrom placeholder (n + 1) rest

theorem Readable.tail {piece : Piece} {sql : Sql} (h : Readable (piece :: sql)) : Readable sql :=
  ⟨fun s member => h.plain s (List.mem_cons_of_mem _ member), h.apart.tail⟩

variable {placeholder : String → String}

/-- Written pieces that do not begin with a name do not begin with a quote. -/
theorem Readable.head?_ne (plain : ∀ n : Nat, Plain (placeholder (toString n))) {sql : Sql}
    (readable : Readable sql) (other : ∀ piece ∈ sql.head?, piece.name? = none) (n : Nat)
    : (sql.renderFrom Dialect.doubleQuoted placeholder n).toList.head? ≠ some '"' := by
  cases sql with
  | nil => simp [renderFrom]
  | cons piece rest =>
      cases piece with
      | text s =>
          rw [renderFrom, String.toList_append]
          exact (readable.plain s (List.mem_cons_self ..)).head?_ne _
      | name s => simp [Piece.name?] at other
      | slot v =>
          rw [renderFrom, String.toList_append]
          exact (plain n).head?_ne _

/-- Written pieces are read as their tokens, by induction on the pieces. -/
theorem lexFrom_render (plain : ∀ n : Nat, Plain (placeholder (toString n))) {sql : Sql}
    (readable : Readable sql) (n : Nat)
    : lexFrom .outside (sql.renderFrom Dialect.doubleQuoted placeholder n).toList
      = some (tokensFrom placeholder n sql) := by
  induction sql generalizing n with
  | nil => rfl
  | cons piece rest ih =>
      have later := ih readable.tail
      cases piece with
      | text s =>
          have free := (readable.plain s (List.mem_cons_self ..)).unquoted
          rw [renderFrom, String.toList_append, lexFrom_plain free, later]
          rfl
      | name s =>
          have other : ∀ piece ∈ rest.head?, piece.name? = none := by
            intro piece first
            have apart := (List.isChain_cons.mp readable.apart).1 piece first
            exact apart.resolve_left (by simp [Piece.name?])
          rw [renderFrom, String.toList_append,
            lexFrom_quoted s (readable.tail.head?_ne plain other n), later]
          rfl
      | slot v =>
          rw [renderFrom, String.toList_append, lexFrom_plain (plain n).unquoted, later]
          rfl

/-- The names that are read are those of the pieces, by induction on the pieces. -/
theorem filterMap_tokensFrom (n : Nat) (sql : Sql)
    : (tokensFrom placeholder n sql).filterMap Token.name? = names sql := by
  have none (s : String) : (s.toList.map Token.char).filterMap Token.name? = [] := by
    simp [List.filterMap_map, Function.comp_def, Token.name?]
  induction sql generalizing n with
  | nil => rfl
  | cons piece rest ih =>
      cases piece with
      | text s => rw [tokensFrom, List.filterMap_append, none, ih]; rfl
      | name s => rw [tokensFrom, List.filterMap_cons, ih]; rfl
      | slot v => rw [tokensFrom, List.filterMap_append, none, ih]; rfl

end Sql

end Polystore
