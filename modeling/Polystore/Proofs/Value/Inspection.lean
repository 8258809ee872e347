import Polystore.Proofs.Json.Numbers
import Polystore.Proofs.Text.Quoted
import Polystore.Proofs.Value.Sameness
import Polystore.Value.Text

/-! Inspection tells values apart. The text that shows a value ends where the value does, whatever
stands behind it in a list or an object; so two values with the same text are one and the same.
Being equal is not enough: what is shown of a number is its type as well.
-/

namespace Polystore.Value

open Decimal

-----------------------------------------------------------------------------------------
-- Values in their one form
-----------------------------------------------------------------------------------------

/-- A value that has no other form: its doubles have full significands, its texts keep codes, and
its objects have one member of a name.
-/
inductive Canonical : Value → Prop where
  | null : Canonical null
  | bool (b : Bool) : Canonical (bool b)
  | int (i : Int) : Canonical (int i)
  | nan : Canonical (float .nan)
  | infinite (negative : Bool) : Canonical (float (.infinite negative))
  | finite {negative : Bool} {significand : Nat} {exponent : Int}
      (full : Binary64.Canonical significand exponent)
      : Canonical (float (.finite negative significand exponent))
  | text {s : String} (kept : Text.Kept s.toList) : Canonical (text s)
  | octets (bytes : List UInt8) : Canonical (octets bytes)
  | list {items : List Value} (each : ∀ x ∈ items, Canonical x) : Canonical (list items)
  | object {members : List (String × Value)} (distinct : (members.map (·.1)).Nodup)
      (kept : ∀ member ∈ members, Text.Kept member.1.toList)
      (each : ∀ member ∈ members, Canonical member.2)
      : Canonical (object members)

theorem canonical_list_iff {items : List Value}
    : Canonical (list items) ↔ ∀ x ∈ items, Canonical x := by
  refine ⟨fun canonical => ?_, .list⟩
  cases canonical with
  | list each => exact each

/-- A value whose names are apart at any depth is the same as itself. -/
theorem Canonical.same_self {v : Value} (canonical : Canonical v) : same v v = true := by
  induction canonical with
  | null | bool _ | int _ | nan | infinite _ | finite _ | text _ | octets _ =>
      exact Value.same_self rfl
  | list each ih => exact same_list_iff.mpr ⟨_, rfl, sameItems_self ih⟩
  | object distinct kept each ih =>
      refine same_object_iff.mpr ⟨_, rfl, rfl, sameMembers_of_lookup fun member listed => ?_⟩
      exact ⟨member.2, Entries.lookup_of_mem distinct listed, ih member listed⟩

/-- What may stand behind a value inside a list or an object, or at the end of the text. -/
def Closes (rest : List Char) : Prop :=
  ∀ c ∈ rest.head?, c = ',' ∨ c = ']' ∨ c = '\x7d'

variable {rest more : List Char}

theorem Closes.endsNumber (closes : Closes rest) : Json.Token.EndsNumber rest := by
  intro c head
  rcases closes c head with rfl | rfl | rfl <;> decide

-----------------------------------------------------------------------------------------
-- Numbers and other atoms
-----------------------------------------------------------------------------------------

/-- The number in front of a text, behind its sign. Digits alone are a whole number. -/
def readUnsigned (negative : Bool) (cs : List Char) : Value :=
  match cs.dropWhile Char.isDigit with
  | 'i' :: _ => float (.infinite negative)
  | 'n' :: _ => float .nan
  | '.' :: _ | 'e' :: _ =>
    match Json.Token.number? negative cs with
    | some (.literal v, _) => v
    | _ => null
  | _ =>
    let size : Int := ofDigits 10 (cs.takeWhile Char.isDigit)
    int (if negative then -size else size)

/-- The atom in front of a text. -/
def readAtom : List Char → Value
  | 'N' :: _ => null
  | 'T' :: _ => bool true
  | 'F' :: _ => bool false
  | '-' :: cs => readUnsigned true cs
  | cs => readUnsigned false cs

/-- A number behind a sign, if it has one. -/
def signed (negative : Bool) (cs : List Char) : List Char :=
  if negative then '-' :: cs else cs

theorem toList_intText (i : Int) : (intText i).toList = signed (i < 0) (digits i.natAbs) := by
  cases i with
  | ofNat n => exact Nat.toList_repr
  | negSucc n =>
      change ("-" ++ n.succ.repr).toList = _
      simp [signed, digits, Int.negSucc_lt_zero]

/-- Behind the digits of a number, the value ends or goes on with a mark. -/
theorem digits_front {whole tail : List Char} (digits : ∀ c ∈ whole, c.isDigit)
    (stops : ∀ c ∈ tail.head?, ¬ c.isDigit)
    : (whole ++ tail).takeWhile Char.isDigit = whole
      ∧ (whole ++ tail).dropWhile Char.isDigit = tail := by
  have front : (whole ++ tail).takeWhile Char.isDigit = whole :=
    Json.Token.takeWhile_eq_iff.mpr ⟨tail, rfl, digits, stops⟩
  have parts := List.takeWhile_append_dropWhile (p := Char.isDigit) (l := whole ++ tail)
  rw [front] at parts
  exact ⟨front, List.append_cancel_left parts⟩

theorem readUnsigned_digits (negative : Bool) (n : Nat) (closes : Closes rest)
    : readUnsigned negative (digits n ++ rest) = int (if negative then -(n : Int) else n) := by
  obtain ⟨front, behind⟩ := digits_front (fun c => isDigit_of_mem_digits (n := n))
    fun c head => (closes.endsNumber c head).1
  unfold readUnsigned
  rw [front, behind, ofDigits_digits]
  split
  · simp [Closes] at closes
  · simp [Closes] at closes
  · simp [Closes] at closes
  · simp [Closes] at closes
  · rfl

theorem readUnsigned_plain (negative : Bool) {significand : Nat} {exponent : Int}
    (full : Binary64.Canonical significand exponent) (closes : Closes rest)
    : readUnsigned negative (plain significand exponent ++ rest)
      = float (.finite negative significand exponent) := by
  obtain ⟨whole, mark, tail, is, _, digits, marks⟩ := plain_parts full
  have read : Json.Token.number? negative (plain significand exponent ++ rest) = _ :=
    Json.Token.number?_plain full closes.endsNumber
  have behind : (plain significand exponent ++ rest).dropWhile Char.isDigit
      = mark :: (tail ++ rest) := by
    rw [is, List.append_assoc]
    refine (digits_front digits ?_).2
    rintro c ⟨⟩
    rcases marks with rfl | rfl <;> decide
  unfold readUnsigned
  rw [behind, read]
  rcases marks with rfl | rfl <;> rfl

/-- What is seen of a value from the first character that shows it. -/
inductive Shape where
  | atom
  | text
  | octets
  | list
  | object
  deriving DecidableEq

def shape : Value → Shape
  | text _ => .text
  | octets _ => .octets
  | list _ => .list
  | object _ => .object
  | _ => .atom

/-- Where a text begins with a digit, a number is read, behind its sign. -/
theorem readAtom_signed (negative : Bool) {cs : List Char} {c : Char} (first : cs.head? = some c)
    (digit : c.isDigit)
    : readAtom (signed negative cs) = readUnsigned negative cs := by
  cases negative with
  | true => rfl
  | false =>
      cases cs with
      | nil => nomatch first
      | cons d cs =>
          cases first
          unfold signed readAtom
          split
          all_goals first | rfl | simp_all

theorem signed_append (negative : Bool) (cs : List Char)
    : signed negative cs ++ rest = signed negative (cs ++ rest) := by
  cases negative <;> rfl

theorem exists_head_digits (n : Nat) (rest : List Char)
    : ∃ c, (digits n ++ rest).head? = some c ∧ c.isDigit := by
  obtain ⟨c, cs, is⟩ := List.exists_cons_of_length_pos (length_digits_pos n)
  exact ⟨c, by rw [is]; rfl, isDigit_of_mem_digits (is ▸ List.mem_cons_self)⟩

theorem exists_head_plain {significand : Nat} {exponent : Int}
    (full : Binary64.Canonical significand exponent) (rest : List Char)
    : ∃ c, (plain significand exponent ++ rest).head? = some c ∧ c.isDigit := by
  obtain ⟨whole, mark, tail, is, some, digits, _⟩ := plain_parts full
  obtain ⟨c, cs, rfl⟩ := List.exists_cons_of_ne_nil some
  exact ⟨c, by rw [is]; rfl, digits c List.mem_cons_self⟩

/-- Atoms are read from what shows them. -/
theorem readAtom_inspect {v : Value} (canonical : Canonical v) (atom : v.shape = .atom)
    (closes : Closes rest)
    : readAtom (v.inspect.toList ++ rest) = v := by
  cases canonical with
  | null => rfl
  | bool b => cases b <;> rfl
  | int i =>
      obtain ⟨c, first, digit⟩ := exists_head_digits i.natAbs rest
      rw [inspect, toList_intText, signed_append, readAtom_signed _ first digit,
        readUnsigned_digits _ _ closes]
      congr 1
      simp only [decide_eq_true_eq]
      omega
  | nan => rfl
  | infinite negative => cases negative <;> rfl
  | @finite negative significand exponent full =>
      obtain ⟨c, first, digit⟩ := exists_head_plain full rest
      rw [inspect, Binary64.toText, String.toList_ofList]
      change readAtom (signed negative (plain significand exponent) ++ rest) = _
      rw [signed_append, readAtom_signed _ first digit, readUnsigned_plain _ full closes]
  | text _ | octets _ | list _ | object _ _ _ => nomatch atom

/-- Atoms in front of texts are told apart, and where they end. -/
theorem inspect_inj_of_atoms {v w : Value} (canonical : Canonical v) (canonical' : Canonical w)
    (atom : v.shape = .atom) (atom' : w.shape = .atom) (closes : Closes rest)
    (closes' : Closes more)
    (h : v.inspect.toList ++ rest = w.inspect.toList ++ more)
    : v = w ∧ rest = more := by
  have same : v = w := by
    rw [← readAtom_inspect canonical atom closes, h, readAtom_inspect canonical' atom' closes']
  subst same
  exact ⟨rfl, List.append_cancel_left h⟩

-----------------------------------------------------------------------------------------
-- Items and members
-----------------------------------------------------------------------------------------

section Items

variable {α : Type} (shown : α → List Char) (close : Char)

/-- Items behind others, up to the end of the collection. -/
def furtherItems : List α → List Char
  | [] => [close]
  | x :: xs => ',' :: ' ' :: (shown x ++ furtherItems xs)

/-- The items of a collection, up to its end. -/
def allItems : List α → List Char
  | [] => [close]
  | x :: xs => shown x ++ furtherItems shown close xs

theorem toList_intercalate (text : α → String) (items : List α)
    : (", ".intercalate (items.map text)).toList ++ [close]
      = allItems (fun x => (text x).toList) close items := by
  cases items with
  | nil => rfl
  | cons x xs =>
      induction xs generalizing x with
      | nil => simp [allItems, furtherItems]
      | cons y ys ih =>
          have later := ih y
          rw [List.map_cons] at later
          rw [List.map_cons, List.map_cons, String.intercalate_cons_cons, String.toList_append,
            String.toList_append, List.append_assoc, List.append_assoc, later]
          rfl

variable {shown} {close}

theorem closes_furtherItems (closing : close = ']' ∨ close = '\x7d') (xs : List α)
    : Closes (furtherItems shown close xs ++ rest) := by
  cases xs with
  | nil =>
      rintro c ⟨⟩
      exact .inr closing
  | cons x xs =>
      rintro c ⟨⟩
      exact .inl rfl

/-- Each of some items is told from each of others in front of what closes it. -/
def ToldApart (shown : α → List Char) (xs ys : List α) : Prop :=
  ∀ x ∈ xs, ∀ y ∈ ys, ∀ rest more, Closes rest → Closes more
    → shown x ++ rest = shown y ++ more → x = y ∧ rest = more

theorem ToldApart.tail {x y : α} {xs ys : List α} (told : ToldApart shown (x :: xs) (y :: ys))
    : ToldApart shown xs ys :=
  fun x member y member' =>
    told x (List.mem_cons_of_mem _ member) y (List.mem_cons_of_mem _ member')

/-- Items that are told apart are so in a row, by induction on the items. -/
theorem furtherItems_inj (closing : close = ']' ∨ close = '\x7d') {xs ys : List α}
    (told : ToldApart shown xs ys)
    (h : furtherItems shown close xs ++ rest = furtherItems shown close ys ++ more)
    : xs = ys ∧ rest = more := by
  have other : close ≠ ',' := by rcases closing with rfl | rfl <;> decide
  induction xs generalizing ys with
  | nil =>
      cases ys with
      | nil => exact ⟨rfl, (List.cons.inj h).2⟩
      | cons y ys => exact absurd (List.cons.inj h).1 other
  | cons x xs ih =>
      cases ys with
      | nil => exact absurd (List.cons.inj h).1.symm other
      | cons y ys =>
          simp only [furtherItems, List.cons_append, List.append_assoc] at h
          obtain ⟨rfl, later⟩ := told x List.mem_cons_self y List.mem_cons_self _ _
            (closes_furtherItems closing xs) (closes_furtherItems closing ys)
            (List.cons.inj (List.cons.inj h).2).2
          obtain ⟨rfl, ends⟩ := ih told.tail later
          exact ⟨rfl, ends⟩

theorem allItems_inj (closing : close = ']' ∨ close = '\x7d') {xs ys : List α}
    (told : ToldApart shown xs ys) (some : ∀ x ∈ xs ++ ys, ∃ c cs, shown x = c :: cs ∧ c ≠ close)
    (h : allItems shown close xs ++ rest = allItems shown close ys ++ more)
    : xs = ys ∧ rest = more := by
  cases xs with
  | nil =>
      cases ys with
      | nil => exact ⟨rfl, (List.cons.inj h).2⟩
      | cons y ys =>
          obtain ⟨c, cs, is, other⟩ := some y (by simp)
          rw [allItems, allItems, is] at h
          exact absurd (List.cons.inj h).1.symm other
  | cons x xs =>
      cases ys with
      | nil =>
          obtain ⟨c, cs, is, other⟩ := some x (by simp)
          rw [allItems, allItems, is] at h
          exact absurd (List.cons.inj h).1 other
      | cons y ys =>
          simp only [allItems, List.append_assoc] at h
          obtain ⟨rfl, later⟩ := told x List.mem_cons_self y List.mem_cons_self _ _
            (closes_furtherItems closing xs) (closes_furtherItems closing ys) h
          obtain ⟨rfl, ends⟩ := furtherItems_inj closing told.tail later
          exact ⟨rfl, ends⟩

end Items

-----------------------------------------------------------------------------------------
-- What shows a value
-----------------------------------------------------------------------------------------

/-- The characters that show a member of an object. -/
def shownMember (member : String × Value) : List Char :=
  (Text.quoted member.1 ++ ": " ++ inspect member.2).toList

theorem inspectItems_eq (items : List Value) : inspectItems items = items.map inspect := by
  induction items with
  | nil => rfl
  | cons x xs ih => rw [inspectItems, ih, List.map_cons]

theorem inspectMembers_eq (members : List (String × Value))
    : inspectMembers members
      = members.map fun member => Text.quoted member.1 ++ ": " ++ inspect member.2 := by
  induction members with
  | nil => rfl
  | cons member members ih => rw [inspectMembers, ih, List.map_cons]

theorem toList_quoted (s : String)
    : (Text.quoted s).toList = Text.quoteWith Text.isPrintable s.toList := by
  rw [Text.quoted, String.toList_ofList]

theorem toList_inspect_octets (bytes : List UInt8)
    : (octets bytes).inspect.toList = Text.quotedOctets bytes := by
  rw [inspect, String.toList_ofList]

theorem toList_inspect_list (items : List Value)
    : (list items).inspect.toList = '[' :: allItems (fun x => x.inspect.toList) ']' items := by
  rw [inspect, inspectItems_eq, ← toList_intercalate, String.append_assoc, String.toList_append,
    String.toList_append]
  rfl

theorem toList_inspect_object (members : List (String × Value))
    : (object members).inspect.toList = '\x7b' :: allItems shownMember '\x7d' members := by
  unfold shownMember
  rw [inspect, inspectMembers_eq, ← toList_intercalate, String.append_assoc, String.toList_append,
    String.toList_append]
  rfl

/-- The shape of the values that a character begins to show. What closes a collection shows none. -/
def shapeOf? : Char → Option Shape
  | '\'' | '"' => some .text
  | 'b' => some .octets
  | '[' => some .list
  | '\x7b' => some .object
  | ']' | '\x7d' => none
  | _ => some .atom

theorem shapeOf?_digit {c : Char} (digit : c.isDigit) : shapeOf? c = some .atom := by
  unfold shapeOf?
  split
  all_goals first | rfl | exact absurd digit (by decide)

theorem exists_head_quoteWith (shown : Char → Bool) (cs : List Char)
    : ∃ c rest, Text.quoteWith shown cs = c :: rest ∧ shapeOf? c = some .text := by
  refine ⟨Text.quoteFor cs, _, rfl, ?_⟩
  rcases Text.quoteFor_eq cs with is | is <;> rw [is] <;> rfl

theorem exists_head_signed (negative : Bool) {cs : List Char}
    (head : ∃ c, cs.head? = some c ∧ c.isDigit)
    : ∃ c rest, signed negative cs = c :: rest ∧ shapeOf? c = some .atom := by
  cases negative with
  | true => exact ⟨'-', cs, rfl, rfl⟩
  | false =>
      obtain ⟨c, first, digit⟩ := head
      obtain ⟨rest, rfl⟩ := List.head?_eq_some_iff.mp first
      exact ⟨c, rest, rfl, shapeOf?_digit digit⟩

/-- The first character that shows a value tells its shape. -/
theorem exists_head_inspect {v : Value} (canonical : Canonical v)
    : ∃ c rest, v.inspect.toList = c :: rest ∧ shapeOf? c = some v.shape := by
  cases canonical with
  | null => exact ⟨'N', _, rfl, rfl⟩
  | bool b => cases b with
    | true => exact ⟨'T', _, rfl, rfl⟩
    | false => exact ⟨'F', _, rfl, rfl⟩
  | int i =>
      rw [inspect, toList_intText]
      exact exists_head_signed _ (by simpa using exists_head_digits i.natAbs [])
  | nan => exact ⟨'n', _, rfl, rfl⟩
  | infinite negative => cases negative with
    | true => exact ⟨'-', _, rfl, rfl⟩
    | false => exact ⟨'i', _, rfl, rfl⟩
  | finite full =>
      rw [inspect, Binary64.toText, String.toList_ofList]
      exact exists_head_signed _ (by simpa using exists_head_plain full [])
  | text _ =>
      rw [inspect, toList_quoted]
      exact exists_head_quoteWith ..
  | octets bytes =>
      rw [toList_inspect_octets]
      exact ⟨'b', _, rfl, rfl⟩
  | list _ =>
      rw [toList_inspect_list]
      exact ⟨'[', _, rfl, rfl⟩
  | object _ _ _ =>
      rw [toList_inspect_object]
      exact ⟨'\x7b', _, rfl, rfl⟩

-----------------------------------------------------------------------------------------
-- Telling values apart
-----------------------------------------------------------------------------------------

/-- No value begins with what closes a collection. -/
theorem exists_head_ne {v : Value} (canonical : Canonical v) {close : Char}
    (closing : shapeOf? close = none)
    : ∃ c cs, v.inspect.toList = c :: cs ∧ c ≠ close := by
  obtain ⟨c, cs, is, shape⟩ := exists_head_inspect canonical
  refine ⟨c, cs, is, ?_⟩
  rintro rfl
  nomatch closing.symm.trans shape

theorem exists_head_shownMember (member : String × Value)
    : ∃ c cs, shownMember member = c :: cs ∧ c ≠ '\x7d' := by
  obtain ⟨c, cs, is, shape⟩ := exists_head_quoteWith Text.isPrintable member.1.toList
  refine ⟨c, cs ++ ": ".toList ++ member.2.inspect.toList, ?_, ?_⟩
  · rw [shownMember, String.toList_append, String.toList_append, toList_quoted, is,
      List.cons_append, List.cons_append]
  · rintro rfl
    nomatch shape

theorem shape_eq {v w : Value} (canonical : Canonical v) (canonical' : Canonical w)
    (h : v.inspect.toList ++ rest = w.inspect.toList ++ more)
    : v.shape = w.shape := by
  obtain ⟨c, cs, is, shape⟩ := exists_head_inspect canonical
  obtain ⟨d, ds, is', shape'⟩ := exists_head_inspect canonical'
  rw [is, is'] at h
  rw [(List.cons.inj h).1, shape'] at shape
  exact (Option.some.inj shape).symm

theorem toNat_ofNat_octet (o : UInt8) : (Char.ofNat o.toNat).toNat = o.toNat := by
  refine Text.Utf8.toNat_ofNat ?_
  have := o.toNat_lt
  unfold Nat.isValidChar
  omega

/-- No octet is shown by the mark. -/
theorem kept_octets (bytes : List UInt8)
    : Text.Kept (bytes.map fun o => Char.ofNat o.toNat) := by
  refine Text.kept_of_plain fun c member => ?_
  obtain ⟨o, _, rfl⟩ := List.mem_map.mp member
  have bound := o.toNat_lt
  refine Text.ne_keptMark ?_
  rw [toNat_ofNat_octet]
  omega

theorem quotedOctets_inj {bytes others : List UInt8}
    (h : Text.quotedOctets bytes ++ rest = Text.quotedOctets others ++ more)
    : bytes = others ∧ rest = more := by
  obtain ⟨same, ends⟩ := Text.quoteWith_inj (kept_octets bytes) (kept_octets others)
    (List.cons.inj h).2
  have injective : Function.Injective fun o : UInt8 => Char.ofNat o.toNat := by
    intro o p is
    rw [← UInt8.toNat_inj, ← toNat_ofNat_octet, ← toNat_ofNat_octet p]
    exact congrArg Char.toNat is
  exact ⟨List.map_injective_iff.mpr injective same, ends⟩

/-- Members are told apart by their names, or else by their values. -/
theorem toldApart_members {members others : List (String × Value)}
    (kept : ∀ member ∈ members, Text.Kept member.1.toList)
    (kept' : ∀ member ∈ others, Text.Kept member.1.toList)
    (values : ∀ member ∈ members, ∀ other ∈ others, ∀ rest more, Closes rest → Closes more →
      member.2.inspect.toList ++ rest = other.2.inspect.toList ++ more
      → member.2 = other.2 ∧ rest = more)
    : ToldApart shownMember members others := by
  intro member member_mem other other_mem rest more closes closes' h
  simp only [shownMember, String.toList_append, toList_quoted, List.append_assoc] at h
  obtain ⟨name, later⟩ := Text.quoteWith_inj (kept member member_mem) (kept' other other_mem) h
  obtain ⟨value, ends⟩ := values member member_mem other other_mem rest more closes closes'
    (List.append_cancel_left later)
  exact ⟨Prod.ext (String.toList_inj.mp name) value, ends⟩

/-- Values in front of texts are told apart, and where they end, by induction on one of them. -/
theorem inspect_append_inj {v : Value} (canonical : Canonical v) {w : Value}
    (canonical' : Canonical w) (closes : Closes rest) (closes' : Closes more)
    (h : v.inspect.toList ++ rest = w.inspect.toList ++ more)
    : v = w ∧ rest = more := by
  have shape := shape_eq canonical canonical' h
  induction canonical generalizing w rest more with
  | null | bool _ | int _ | nan | infinite _ | finite _ =>
      exact inspect_inj_of_atoms (by constructor <;> assumption) canonical' rfl shape.symm
        closes closes' h
  | text kept =>
      cases canonical' with
      | text kept' =>
          simp only [inspect, toList_quoted] at h
          obtain ⟨is, ends⟩ := Text.quoteWith_inj kept kept' h
          exact ⟨congrArg text (String.toList_inj.mp is), ends⟩
      | _ => nomatch shape
  | octets bytes =>
      cases canonical' with
      | octets others =>
          rw [toList_inspect_octets, toList_inspect_octets] at h
          obtain ⟨is, ends⟩ := quotedOctets_inj h
          exact ⟨congrArg octets is, ends⟩
      | _ => nomatch shape
  | @list items each ih =>
      cases canonical' with
      | @list others each' =>
          rw [toList_inspect_list, toList_inspect_list] at h
          have told : ToldApart (fun x : Value => x.inspect.toList) items others :=
            fun x member y member' rest more closes closes' same =>
              ih x member (each' y member') closes closes' same
                (shape_eq (each x member) (each' y member') same)
          have some : ∀ x ∈ items ++ others, ∃ c cs, x.inspect.toList = c :: cs ∧ c ≠ ']' :=
            fun x member => exists_head_ne ((List.mem_append.mp member).elim (each x) (each' x)) rfl
          obtain ⟨is, ends⟩ := allItems_inj (.inl rfl) told some (List.cons.inj h).2
          exact ⟨congrArg list is, ends⟩
      | _ => nomatch shape
  | @object members distinct kept each ih =>
      cases canonical' with
      | @object others distinct' kept' each' =>
          rw [toList_inspect_object, toList_inspect_object] at h
          have told : ToldApart shownMember members others :=
            toldApart_members kept kept'
              fun x member y member' rest more closes closes' same =>
                ih x member (each' y member') closes closes' same
                  (shape_eq (each x member) (each' y member') same)
          obtain ⟨is, ends⟩ := allItems_inj (.inr rfl) told
            (fun member _ => exists_head_shownMember member) (List.cons.inj h).2
          exact ⟨congrArg object is, ends⟩
      | _ => nomatch shape

/-- Values with the same text are one and the same. -/
theorem inspect_inj {v w : Value} (canonical : Canonical v) (canonical' : Canonical w)
    : v.inspect = w.inspect ↔ v = w := by
  refine ⟨fun same => ?_, congrArg inspect⟩
  have closes : Closes [] := nofun
  exact (inspect_append_inj canonical canonical' closes closes
    (congrArg (·.toList ++ []) same)).1

end Polystore.Value
