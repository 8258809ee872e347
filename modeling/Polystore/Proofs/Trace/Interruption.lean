import Polystore.Proofs.Trace.Recording

/-! Courses that heed the flag. Against the course that nobody cancels, one that may be cancelled
runs the same way, if the flag is unset whenever it looks, or the same way up to its first look at a
set flag, where it stops.
-/

namespace Polystore

variable {cancellation : Cancellation} {past trace rest : List Happening}

-----------------------------------------------------------------------------------------
-- Looks at the flag
-----------------------------------------------------------------------------------------

/-- Whether the flag is unset at every look of a trace that is recorded behind a past. -/
def Unset (cancellation : Cancellation) (past trace : List Happening) : Prop :=
  ∀ before stage after,
    trace = before ++ .looked stage :: after → cancellation (past ++ before) = false

theorem unset_of_no_look (none : trace.filterMap Happening.look? = [])
    : Unset cancellation past trace := by
  rintro before stage after rfl
  simp [Happening.look?] at none

theorem Unset.append (first : Unset cancellation past trace)
    (later : Unset cancellation (past ++ trace) rest)
    : Unset cancellation past (trace ++ rest) := by
  intro before stage after split
  -- The look is in the first part, or else at the beginning or further on in the second one.
  rcases List.append_eq_append_iff.mp split with ⟨between, rfl, behind⟩ | ⟨between, rfl, behind⟩
  · rw [← List.append_assoc]
    exact later between stage after behind
  · cases between with
    | nil => simpa using later [] stage after behind.symm
    | cons h between =>
        obtain ⟨rfl, rfl⟩ := List.cons.inj behind
        exact first before stage between rfl

-----------------------------------------------------------------------------------------
-- Courses that may be cancelled
-----------------------------------------------------------------------------------------

/-- A run that has stopped, in front of a stage, at its first look at a set flag: it has recorded
what the free run has before the look.
-/
structure Stopped {α : Type} (cancellation : Cancellation) (past : List Happening)
    (free run : Traced α) (before : List Happening) (stage : Stage)
    : Prop where
  reached : ∃ after, free.trace = before ++ .looked stage :: after
  unset : Unset cancellation past before
  set : cancellation (past ++ before) = true
  recorded : run.trace = before ++ [.looked stage]
  refused : run.result = .error (.refused (.cancelled stage))

namespace Course

variable {α β : Type}

/-- A course against the one that nobody cancels: it runs in the same way, or has stopped. -/
def Heeds (cancellation : Cancellation) (free course : Course α) : Prop :=
  ∀ past,
    (course past = free past ∧ Unset cancellation past (free past).trace)
    ∨ ∃ before stage, Stopped cancellation past (free past) (course past) before stage

theorem heeds_pure (a : α) : Heeds cancellation (pure a) (pure a) :=
  fun _ => .inl ⟨rfl, unset_of_no_look rfl⟩

/-- What does not look at the flag goes on whatever the flag is. -/
theorem heeds_ofTraced {t : Traced α} (none : t.looks = [])
    : Heeds cancellation (ofTraced t) (ofTraced t) :=
  fun _ => .inl ⟨rfl, unset_of_no_look none⟩

/-- A look at the flag heeds it. -/
theorem heeds_checkpoint (stage : Stage)
    : Heeds cancellation (checkpoint .never stage) (checkpoint cancellation stage) := by
  intro past
  cases flag : cancellation past with
  | false =>
      refine .inl ⟨by simp [checkpoint, flag, Cancellation.never], ?_⟩
      intro before other after is
      cases before with
      | nil => simpa using flag
      | cons h before => simp [checkpoint] at is
  | true =>
      refine .inr ⟨[], stage, ⟨[], rfl⟩, unset_of_no_look rfl, ?_, rfl, ?_⟩
      · rwa [List.append_nil]
      · simp [checkpoint, flag]

/-- A composed course heeds the flag if its parts do, as far as they are reached. -/
theorem Heeds.bind {free course : Course α} {f g : α → Course β}
    (first : Heeds cancellation free course)
    (later : ∀ a past, (free past).result = .ok a → Heeds cancellation (f a) (g a))
    : Heeds cancellation (free >>= f) (course >>= g) := by
  intro past
  rcases first past with ⟨same, unset⟩ | ⟨before, stage, stopped⟩
  · cases result : (free past).result with
    | error failure =>
        left
        rw [bind_of_error result, bind_of_error (by rw [same, result]), same]
        exact ⟨rfl, unset⟩
    | ok a =>
        rw [bind_of_ok result, bind_of_ok (by rw [same, result]), same]
        rcases later a past result (past ++ (free past).trace) with
          ⟨same', unset'⟩ | ⟨before, stage, stopped⟩
        · rw [same']
          exact .inl ⟨rfl, unset.append unset'⟩
        · obtain ⟨after, reached⟩ := stopped.reached
          refine .inr ⟨(free past).trace ++ before, stage, ⟨after, ?_⟩, ?_, ?_, ?_, stopped.refused⟩
          · rw [reached, List.append_assoc]
          · exact unset.append stopped.unset
          · rw [← List.append_assoc]
            exact stopped.set
          · rw [stopped.recorded, List.append_assoc]
  · obtain ⟨after, reached⟩ := stopped.reached
    right
    refine ⟨before, stage, ?_, stopped.unset, stopped.set, ?_, ?_⟩
    · cases result : (free past).result with
      | error failure => rw [bind_of_error result]; exact ⟨after, reached⟩
      | ok a =>
          rw [bind_of_ok result]
          exact ⟨_, by rw [reached, List.append_assoc, List.cons_append]⟩
    · rw [bind_of_error stopped.refused]
      exact stopped.recorded
    · rw [bind_of_error stopped.refused]

/-- A run that never looks at a set flag is the one that nobody cancels. -/
theorem Heeds.eq_of_unset {free course : Course α} (h : Heeds cancellation free course)
    (unset : Unset cancellation past (course past).trace)
    : course past = free past := by
  rcases h past with ⟨same, _⟩ | ⟨before, stage, stopped⟩
  · exact same
  · have clear := unset before stage [] stopped.recorded
    rw [stopped.set] at clear
    cases clear

/-- A course that passes some stages and heeds the flag in front of each. -/
structure Staged (cancellation : Cancellation) (stages : List Stage) (free course : Course α) : Prop
    where
  passes : Passes stages course
  heeds : Heeds cancellation free course

namespace Staged

theorem pure (stages : List Stage) (a : α)
    : Staged cancellation stages (Pure.pure a) (Pure.pure a) :=
  ⟨passes_pure stages a, heeds_pure a⟩

theorem ofTraced {t : Traced α} (quiet : t.Quiet)
    : Staged cancellation [] (Course.ofTraced t) (Course.ofTraced t) :=
  ⟨passes_ofTraced quiet, heeds_ofTraced quiet.looks_eq_nil⟩

theorem checkpoint (stage : Stage)
    : Staged cancellation [stage] (Course.checkpoint .never stage)
        (Course.checkpoint cancellation stage) :=
  ⟨passes_checkpoint cancellation stage, heeds_checkpoint stage⟩

theorem bind {stages others : List Stage} {free course : Course α} {f g : α → Course β}
    (first : Staged cancellation stages free course)
    (later : ∀ a, Staged cancellation others (f a) (g a))
    : Staged cancellation (stages ++ others) (free >>= f) (course >>= g) :=
  ⟨first.passes.bind fun a => (later a).passes, first.heeds.bind fun a _ _ => (later a).heeds⟩

end Staged

end Course

end Polystore
