import Polystore.Proofs.Entries.Firsts
import Polystore.Proofs.Entries.Lookup
import Polystore.Value.Equality

/-! When values count as one. Being the same is transitive at all values and symmetric at those
that are no collections, so that among distinct values at most one is the same as a given one.
-/

namespace Polystore.Value

-----------------------------------------------------------------------------------------
-- Transitivity
-----------------------------------------------------------------------------------------

/-- A number is the same as the values of its quantity. -/
theorem same_of_quantity {x : Value} {p : Quantity} (hx : x.quantity? = some p) (y : Value)
    : same x y = (y.quantity? == some p) := by
  have compared : same x y = same.sameQuantity x y := by
    cases x with
    | bool _ | int _ | float _ => cases y <;> simp [same]
    | null | text _ | octets _ | list _ | object _ => simp [quantity?] at hx
  rw [compared, same.sameQuantity, hx]
  cases hy : y.quantity? with
  | none => rfl
  | some other => simp [eq_comm]

/-- Every double has a quantity. -/
theorem quantity_of_float (x : Binary64) : ∃ p, (float x).quantity? = some p := by
  cases x with
  | nan | infinite _ | finite _ _ _ => exact ⟨_, rfl⟩

theorem same_null_iff {y : Value} : same null y = true ↔ null = y := by
  cases y <;> simp [same]

theorem same_text_iff {s : String} {y : Value} : same (text s) y = true ↔ text s = y := by
  cases y <;> simp [same]

theorem same_octets_iff {bytes : List UInt8} {y : Value}
    : same (octets bytes) y = true ↔ octets bytes = y := by
  cases y <;> simp [same]

theorem same_list_iff {xs : List Value} {y : Value}
    : same (list xs) y = true ↔ ∃ ys, y = list ys ∧ sameItems xs ys = true := by
  cases y <;> simp [same]

theorem same_object_iff {xs : List (String × Value)} {y : Value}
    : same (object xs) y = true
      ↔ ∃ ys, y = object ys ∧ xs.length = ys.length ∧ sameMembers xs ys = true := by
  cases y <;> simp [same]

/-- Where every member has one that is the same among others, the members have, by name, by
induction on the members.
-/
theorem lookup_of_sameMembers {xs ys : List (String × Value)} (h : sameMembers xs ys = true)
    {name : String} {x : Value} (member : (name, x) ∈ xs)
    : ∃ y, ys.lookup name = some y ∧ same x y = true := by
  induction xs with
  | nil => simp at member
  | cons first rest ih =>
      obtain ⟨other, value⟩ := first
      simp only [sameMembers, Bool.and_eq_true] at h
      rcases List.mem_cons.mp member with is | later
      · cases is
        cases found : ys.lookup name with
        | none => simp [found] at h
        | some y => exact ⟨y, rfl, by simpa [found] using h.1⟩
      · exact ih h.2 later

theorem same_trans_of_quantity {x y z : Value} {p : Quantity} (hx : x.quantity? = some p)
    (hxy : same x y = true) (hyz : same y z = true)
    : same x z = true := by
  rw [same_of_quantity hx, beq_iff_eq] at hxy
  rw [same_of_quantity hxy] at hyz
  rwa [same_of_quantity hx]

mutual

/-- Being the same is transitive, by mutual induction on values, items and members. -/
theorem same_trans (x y z : Value) (hxy : same x y = true) (hyz : same y z = true)
    : same x z = true := by
  match x with
  | null => cases same_null_iff.mp hxy; exact hyz
  | text _ => cases same_text_iff.mp hxy; exact hyz
  | octets _ => cases same_octets_iff.mp hxy; exact hyz
  | bool _ | int _ => exact same_trans_of_quantity rfl hxy hyz
  | float x =>
      obtain ⟨p, hp⟩ := quantity_of_float x
      exact same_trans_of_quantity hp hxy hyz
  | list xs =>
      obtain ⟨ys, rfl, hxys⟩ := same_list_iff.mp hxy
      obtain ⟨zs, rfl, hyzs⟩ := same_list_iff.mp hyz
      exact same_list_iff.mpr ⟨zs, rfl, sameItems_trans xs ys zs hxys hyzs⟩
  | object xs =>
      obtain ⟨ys, rfl, hl, hxys⟩ := same_object_iff.mp hxy
      obtain ⟨zs, rfl, hl', hyzs⟩ := same_object_iff.mp hyz
      exact same_object_iff.mpr ⟨zs, rfl, hl.trans hl', sameMembers_trans xs ys zs hxys hyzs⟩

/-- Lists that are the same item by item are, through a third one. -/
theorem sameItems_trans (xs ys zs : List Value) (hxy : sameItems xs ys = true)
    (hyz : sameItems ys zs = true)
    : sameItems xs zs = true := by
  match xs, ys, zs with
  | [], [], _ => exact hyz
  | x :: xs, y :: ys, z :: zs =>
      simp only [sameItems, Bool.and_eq_true] at *
      exact ⟨same_trans x y z hxy.1 hyz.1, sameItems_trans xs ys zs hxy.2 hyz.2⟩
  | [], _ :: _, _ | _ :: _, [], _ => simp [sameItems] at hxy
  | _ :: _, _ :: _, [] => simp [sameItems] at hyz

/-- The partners that members have are members with partners of their own. -/
theorem sameMembers_trans (xs ys zs : List (String × Value)) (hxy : sameMembers xs ys = true)
    (hyz : sameMembers ys zs = true)
    : sameMembers xs zs = true := by
  match xs with
  | [] => rfl
  | (name, x) :: rest =>
      obtain ⟨y, hy, here⟩ := lookup_of_sameMembers hxy (List.mem_cons_self ..)
      obtain ⟨z, hz, there⟩ := lookup_of_sameMembers hyz (Entries.mem_of_lookup hy)
      simp only [sameMembers, Bool.and_eq_true] at hxy ⊢
      rw [hz]
      exact ⟨same_trans x y z here there, sameMembers_trans rest ys zs hxy.2 hyz⟩

end

-----------------------------------------------------------------------------------------
-- What values that are the same have in common
-----------------------------------------------------------------------------------------

variable {x y z : Value}

theorem isUndefined_iff : x.isUndefined = true ↔ x.quantity? = some .undefined := by
  cases x with
  | float d => cases d <;> simp [isUndefined, quantity?, Binary64.toDyadic?]
  | null | bool _ | int _ | text _ | octets _ | list _ | object _ =>
      simp [isUndefined, quantity?]

/-- Values that are the same have the same quantity, if they have one. -/
theorem quantity_of_same (h : same x y = true) : x.quantity? = y.quantity? := by
  cases hx : x.quantity? with
  | some p =>
      rw [same_of_quantity hx, beq_iff_eq] at h
      exact h.symm
  | none =>
      cases x with
      | null => cases same_null_iff.mp h; rfl
      | text _ => cases same_text_iff.mp h; rfl
      | octets _ => cases same_octets_iff.mp h; rfl
      | list _ => obtain ⟨_, rfl, _⟩ := same_list_iff.mp h; rfl
      | object _ => obtain ⟨_, rfl, _⟩ := same_object_iff.mp h; rfl
      | bool _ | int _ => simp [quantity?] at hx
      | float d =>
          obtain ⟨p, some⟩ := quantity_of_float d
          rw [hx] at some
          cases some

theorem isUndefined_of_same (h : same x y = true) : x.isUndefined = y.isUndefined := by
  rw [Bool.eq_iff_iff, isUndefined_iff, isUndefined_iff, quantity_of_same h]

theorem isNull_of_same (h : same x y = true) : x.isNull = y.isNull := by
  cases x <;> cases y <;> first | rfl | simp [same, same.sameQuantity, quantity?] at h

theorem isCollection_of_same (h : same x y = true) : x.isCollection = y.isCollection := by
  cases x <;> cases y <;> first | rfl | simp [same, same.sameQuantity, quantity?] at h

-----------------------------------------------------------------------------------------
-- Values that are no collections
-----------------------------------------------------------------------------------------

/-- A value that is no collection is the same as itself. -/
theorem same_self (plain : x.isCollection = false) : same x x = true := by
  cases x with
  | null => rfl
  | text _ => exact same_text_iff.mpr rfl
  | octets _ => exact same_octets_iff.mpr rfl
  | bool _ | int _ => rw [same_of_quantity rfl]; exact beq_self_eq_true _
  | float d =>
      obtain ⟨p, hp⟩ := quantity_of_float d
      rw [same_of_quantity hp, hp, beq_self_eq_true]
  | list _ | object _ => cases plain

/-- Being the same is symmetric at values that are no collections. -/
theorem same_symm (plain : x.isCollection = false) (h : same x y = true) : same y x = true := by
  have back : y.quantity? = x.quantity? := (quantity_of_same h).symm
  cases hx : x.quantity? with
  | some p => rw [same_of_quantity (back.trans hx), hx, beq_self_eq_true]
  | none =>
      cases x with
      | null => cases same_null_iff.mp h; rfl
      | text _ => cases same_text_iff.mp h; exact h
      | octets _ => cases same_octets_iff.mp h; exact h
      | list _ | object _ => cases plain
      | bool _ | int _ => simp [quantity?] at hx
      | float d =>
          obtain ⟨p, some⟩ := quantity_of_float d
          rw [hx] at some
          cases some

-----------------------------------------------------------------------------------------
-- Collections
-----------------------------------------------------------------------------------------

/-- Items that are the same as themselves are so in a row. -/
theorem sameItems_self {items : List Value} (each : ∀ x ∈ items, x.same x = true)
    : sameItems items items = true := by
  induction items with
  | nil => rfl
  | cons x xs ih =>
      rw [sameItems, each x List.mem_cons_self,
        ih fun y member => each y (List.mem_cons_of_mem _ member)]
      rfl

/-- Members have partners among others as soon as each is listed there with a value that is the
same.
-/
theorem sameMembers_of_lookup {members others : List (String × Value)}
    (each
      : ∀ member ∈ members, ∃ y, others.lookup member.1 = some y ∧ member.2.same y = true)
    : sameMembers members others = true := by
  induction members with
  | nil => rfl
  | cons member members ih =>
      obtain ⟨y, found, same⟩ := each member List.mem_cons_self
      rw [sameMembers, found]
      dsimp only
      rw [same, ih fun other later => each other (List.mem_cons_of_mem _ later)]
      rfl

-----------------------------------------------------------------------------------------
-- Values that are equal
-----------------------------------------------------------------------------------------

theorem equals_iff : x.equals y = true ↔ x.isUndefined = false ∧ same x y = true := by
  simp [equals]

theorem equals_trans (hxy : x.equals y = true) (hyz : y.equals z = true) : x.equals z = true :=
  have first := equals_iff.mp hxy
  equals_iff.mpr ⟨first.1, same_trans _ _ _ first.2 (equals_iff.mp hyz).2⟩

/-- Equality of a value that is no collection is symmetric. -/
theorem equals_symm (plain : x.isCollection = false) (h : x.equals y = true)
    : y.equals x = true := by
  obtain ⟨defined, same⟩ := equals_iff.mp h
  exact equals_iff.mpr ⟨by rw [← isUndefined_of_same same, defined], same_symm plain same⟩

/-- Two values that compare as equal either way round. -/
structure Equal (x y : Value) : Prop where
  forth : x.equals y = true
  back : y.equals x = true

namespace Equal

theorem isNull_eq (h : Equal x y) : x.isNull = y.isNull := isNull_of_same (equals_iff.mp h.forth).2

/-- Equal values are equal to the same values. -/
theorem equals_eq (h : Equal x y) (z : Value) : x.equals z = y.equals z := by
  rw [Bool.eq_iff_iff]
  exact ⟨equals_trans h.back, equals_trans h.forth⟩

/-- The same values are equal to equal values. -/
theorem eq_equals (h : Equal x y) (z : Value) : z.equals x = z.equals y := by
  rw [Bool.eq_iff_iff]
  exact ⟨fun same => equals_trans same h.forth, fun same => equals_trans same h.back⟩

end Equal

theorem eq_nan_of_isUndefined (noNumber : x.isUndefined = true) : x = float .nan := by
  cases x with
  | float x => cases x <;> first | rfl | nomatch noNumber
  | null | bool _ | int _ | text _ | octets _ | list _ | object _ => nomatch noNumber

theorem isUndefined_of_collection (collection : x.isCollection = true) : x.isUndefined = false := by
  cases x <;> first | rfl | nomatch collection

theorem equals_text (collection : x.isCollection = true) (s : String)
    : x.equals (text s) = false ∧ (text s).equals x = false := by
  cases x <;> first | exact ⟨rfl, rfl⟩ | nomatch collection

-----------------------------------------------------------------------------------------
-- Values without repetitions
-----------------------------------------------------------------------------------------

/-- No distinct value is the same as an earlier one. -/
theorem pairwise_distinct (values : List Value)
    : (distinct values).Pairwise fun x y => same x y = false :=
  pairwise_firsts values .nil

theorem mem_of_mem_distinct {values : List Value} (member : x ∈ distinct values)
    : x ∈ values :=
  (mem_of_mem_firsts values member).resolve_left List.not_mem_nil

/-- Distinct values that are no collections are the first ones of some values that are the same. -/
theorem firstsOf_distinct {values : List Value}
    (plain : ∀ x ∈ distinct values, x.isCollection = false)
    : FirstsOf same values (distinct values) := by
  have none : FirstsOf same ([] : List Value) [] := ⟨by simp, by simp, .nil⟩
  exact none.firsts same_trans values fun x member => same_self (plain x member)

/-- The first of some values is always kept. -/
theorem distinct_ne_nil {values : List Value} (some : values ≠ []) : distinct values ≠ [] := by
  obtain ⟨first, rest, rfl⟩ := List.exists_cons_of_ne_nil some
  exact List.ne_nil_of_mem (mem_firsts_of_mem rest (List.mem_singleton_self first))

/-- Every value that is no collection is the same as a distinct one. -/
theorem same_of_mem_distinct {values : List Value} (plain : x.isCollection = false)
    (member : x ∈ values)
    : ∃ first ∈ distinct values, same first x = true :=
  like_of_mem values (same_self plain) member

end Polystore.Value
