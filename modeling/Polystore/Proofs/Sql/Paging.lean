import Polystore.Proofs.Statement.Words
import Polystore.Proofs.Trace.Outcomes
import Polystore.Proofs.Value.Writing
import Polystore.Sql.Dialect

/-! Lines for the pages of a statement. A line is the keyword and the digits of its number, and
whole numbers are paged by exactly if their digits can be written.
-/

namespace Polystore

open Outcome

namespace Dialect

variable {d : Dialect} {limit offset v : Value} {keyword line : String} {lines : List String}

/-- A line is written where the digits of its whole number can be. -/
theorem pagingLine_of_whole {i : Int} (whole : v.whole = .ok i)
    : pagingLine keyword v
      = if Value.fits i then .ok s!"{keyword} {i}" else .error (.unwritable .tooManyDigits) := by
  simp only [pagingLine, whole, Except.map, Value.write_int]
  cases Value.fits i <;> rfl

theorem pagingLine_eq_ok
    : pagingLine keyword v = .ok line
      ↔ ∃ i, v.whole = .ok i ∧ Value.fits i = true ∧ line = s!"{keyword} {i}" := by
  cases whole : v.whole with
  | error failure => simp [pagingLine, whole, Except.map]
  | ok i =>
      rw [pagingLine_of_whole whole]
      cases fits : Value.fits i with
      | true => simp [fits, eq_comm (a := line)]
      | false => simp [fits]

/-- A line for a whole number is not written only where its digits cannot be. -/
theorem failsOnly_pagingLine (i : Int)
    : FailsOnly (fun fault => fault = .unwritable .tooManyDigits ∧ Value.fits i = false)
        (pagingLine keyword (.int i)) := by
  rw [pagingLine_of_whole (i := i) rfl]
  cases Value.fits i with
  | true => exact failsOnly_ok _
  | false => exact failsOnly_error ⟨rfl, rfl⟩

/-- There are lines for a limit, and for an offset that is not nothing. -/
theorem paging_eq
    : ∃ pages : List (String × Value),
        d.paging limit offset = pages.mapM (fun (keyword, v) => pagingLine keyword v)
        ∧ ∀ page,
            page ∈ pages
            ↔ (page = ("LIMIT", limit) ∧ limit.isNull = false)
              ∨ (page = ("OFFSET", offset) ∧ offset.isPresent = true) := by
  refine ⟨_, rfl, fun page => ?_⟩
  cases limit.isNull <;> cases offset.isPresent <;> cases d.offsetFirst <;> simp [or_comm]

/-- A number that is counted in is nothing or can be written, where its line is. -/
theorem isWritable_of_pagingLine (counts : v.Counts)
    (written : v.isNull = false → v.isPresent = true → ∃ line, pagingLine keyword v = .ok line)
    : v.isWritable = true := by
  obtain ⟨n, rfl⟩ := counts
  cases n with
  | none => rfl
  | some i =>
      by_cases zero : i = 0
      · subst zero
        rfl
      · obtain ⟨line, h⟩ := written rfl (by simpa [Value.ofOption, Value.isPresent] using zero)
        obtain ⟨_, same, fits, _⟩ := pagingLine_eq_ok.mp h
        cases same
        exact fits

/-- Whole numbers that pages are counted in can be written where the pages are. -/
theorem isWritable_of_paging (limits : limit.Counts) (offsets : offset.Counts)
    (h : d.paging limit offset = .ok lines)
    : limit.isWritable = true ∧ offset.isWritable = true := by
  obtain ⟨pages, paged, each⟩ := @paging_eq d limit offset
  rw [paged] at h
  constructor
  · refine @isWritable_of_pagingLine limit "LIMIT" limits fun some _ => ?_
    obtain ⟨line, _, written⟩ := exists_of_mapM h ((each _).mpr (.inl ⟨rfl, some⟩))
    exact ⟨line, written⟩
  · refine @isWritable_of_pagingLine offset "OFFSET" offsets fun _ some => ?_
    obtain ⟨line, _, written⟩ := exists_of_mapM h ((each _).mpr (.inr ⟨rfl, some⟩))
    exact ⟨line, written⟩

/-- Pages that are counted in whole numbers are written, unless a number of theirs cannot be. -/
theorem failsOnly_paging (limits : limit.Counts) (offsets : offset.Counts)
    : FailsOnly
        (fun fault =>
          fault = .unwritable .tooManyDigits
          ∧ ¬ (limit.isWritable = true ∧ offset.isWritable = true))
        (d.paging limit offset) := by
  obtain ⟨pages, paged, each⟩ := @paging_eq d limit offset
  rw [paged]
  refine FailsOnly.mapM fun page member => ?_
  rcases (each page).mp member with ⟨rfl, some⟩ | ⟨rfl, some⟩
  · obtain ⟨_ | i, rfl⟩ := limits
    · cases some
    · refine (failsOnly_pagingLine i).imp ?_
      rintro fault ⟨is, unfit⟩
      refine ⟨is, fun fit => ?_⟩
      simp [Value.isWritable, Value.ofOption, unfit] at fit
  · obtain ⟨_ | i, rfl⟩ := offsets
    · cases some
    · refine (failsOnly_pagingLine i).imp ?_
      rintro fault ⟨is, unfit⟩
      refine ⟨is, fun fit => ?_⟩
      simp [Value.isWritable, Value.ofOption, unfit] at fit

end Dialect

end Polystore
