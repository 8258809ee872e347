import Mathlib.Algebra.Group.Nat.Defs
import Polystore.Metadata.Record
import Polystore.Value.Text

/-! Values that can be written. Only integers of too many digits cannot be, and what holds them;
whatever else there is in the place of a name, a word or a number is written as it is shown.
-/

namespace Polystore.Value

variable {v : Value}

/-- An integer can be written exactly if its size is below the power of ten that has one digit too
many.
-/
theorem fits_iff {i : Int} : fits i = true ↔ i.natAbs < 10 ^ Json.digitLimit := by
  rw [fits, decide_eq_true_eq, Nat.length_toDigits_le_iff (by decide) (by decide)]

/-- An optional number can be written where it has few enough digits. -/
theorem isWritable_ofOption {n : Option Int}
    : (ofOption int n).isWritable = true ↔ ∀ i ∈ n, i.natAbs < 10 ^ Json.digitLimit := by
  cases n with
  | none => simp [ofOption, isWritable]
  | some i => simp [ofOption, isWritable, fits_iff]

/-- What is written of a value is what shows it. -/
theorem write_eq_ok {s : String} : v.write = .ok s ↔ v.isWritable = true ∧ v.display = s := by
  unfold write ifWritable
  split <;> simp_all

/-- A number is written by its digits. -/
theorem write_int (i : Int)
    : (int i).write = if fits i then .ok (toString i) else .error .tooManyDigits := rfl

@[simp]
theorem write_text (s : String) : (text s).write = .ok s := rfl

end Polystore.Value
