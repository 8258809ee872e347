import Polystore.Proofs.Trace.Interruption

/-! Traces in stretches. What a course records is cut into one stretch for each stage that it
reaches: the look at the flag in front of the stage, and behind it whatever is recorded within.
-/

namespace Polystore

variable {cancellation : Cancellation} {past before after : List Happening} {stage : Stage}

/-- A stage that is reached, and what is recorded within it. -/
structure Stretch where
  stage : Stage
  work : List Happening

namespace Stretch

/-- The look at the flag in front of a stage, and the work behind it. -/
def trace (x : Stretch) : List Happening := .looked x.stage :: x.work

/-- The decisions within a stage. -/
def entries (x : Stretch) : List Entry := x.work.filterMap Happening.entry?

def calls (x : Stretch) : List Call := x.work.filterMap Happening.call?

/-- Whether the flag is not looked at within a stage. -/
def Undisturbed (x : Stretch) : Prop := x.work.filterMap Happening.look? = []

/-- What the stages record, one after the other. -/
def traces (stretches : List Stretch) : List Happening := stretches.flatMap trace

/-- A stage with some work, and behind it the stages that are reached where the work succeeds. -/
def of {α : Type} (stage : Stage) (work : Traced α) (behind : α → List Stretch) : List Stretch :=
  ⟨stage, work.trace⟩ :: (work.result.toOption.map behind).getD []

variable {stretches front back : List Stretch} {x : Stretch}

theorem traces_append (front back : List Stretch)
    : traces (front ++ back) = traces front ++ traces back :=
  List.flatMap_append

theorem traces_cons (x : Stretch) (rest : List Stretch)
    : traces (x :: rest) = .looked x.stage :: x.work ++ traces rest :=
  rfl

/-- A property of the stage that comes first and of all that may come behind it is one of all. -/
theorem forall_mem_of {α : Type} {work : Traced α} {behind : α → List Stretch}
    {P : Stretch → Prop} (first : P ⟨stage, work.trace⟩)
    (later : ∀ a, work.result = .ok a → ∀ x ∈ behind a, P x)
    : ∀ x ∈ of stage work behind, P x := by
  refine List.forall_mem_cons.mpr ⟨first, ?_⟩
  cases result : work.result with
  | error failure => simp [Except.toOption]
  | ok a => simpa [Except.toOption] using later a result

/-- The stages come in an order if those behind the first come in the rest of it. -/
theorem sublist_of {α : Type} {work : Traced α} {behind : α → List Stretch} {order : List Stage}
    (later : ∀ a, ((behind a).map Stretch.stage).Sublist order)
    : ((of stage work behind).map Stretch.stage).Sublist (stage :: order) := by
  refine .cons_cons stage ?_
  cases work.result with
  | error failure => exact List.nil_sublist _
  | ok a => exact later a

-----------------------------------------------------------------------------------------
-- Looks between stretches
-----------------------------------------------------------------------------------------

/-- Each look in the traces of stages is that in front of one of them, by induction on the stages:
it is the first look, or it is behind the work of the first stage, where there are no looks.
-/
theorem exists_split (undisturbed : ∀ x ∈ stretches, x.Undisturbed)
    (h : traces stretches = before ++ .looked stage :: after)
    : ∃ front x back,
        stretches = front ++ x :: back ∧ before = traces front ∧ stage = x.stage := by
  induction stretches generalizing before with
  | nil => simp [traces] at h
  | cons x rest ih =>
      obtain ⟨here, later⟩ := List.forall_mem_cons.mp undisturbed
      rw [traces_cons, List.cons_append] at h
      cases before with
      | nil =>
          obtain ⟨same, _⟩ := List.cons.inj h
          cases same
          exact ⟨[], x, rest, rfl, rfl, rfl⟩
      | cons first before =>
          rw [List.cons_append] at h
          obtain ⟨rfl, tail⟩ := List.cons.inj h
          rcases List.append_eq_append_iff.mp tail
            with ⟨between, rfl, behind⟩ | ⟨between, work, behind⟩
          · obtain ⟨front, next, back, rfl, rfl, rfl⟩ := ih later behind
            exact ⟨x :: front, next, back, rfl, rfl, rfl⟩
          · -- The look is not within the work, which it would begin the rest of.
            cases between with
            | nil =>
                have first : traces rest = [] ++ .looked stage :: after := behind.symm
                obtain ⟨front, next, back, rfl, none, rfl⟩ := ih later first
                refine ⟨x :: front, next, back, rfl, ?_, rfl⟩
                rw [traces_cons, ← none, work, List.append_nil, List.append_nil]
            | cons look between =>
                obtain ⟨rfl, _⟩ := List.cons.inj behind
                rw [Undisturbed, work] at here
                simp [Happening.look?] at here

/-- Whether the flag is unset in front of each of some stages. -/
def Unset (cancellation : Cancellation) (past : List Happening) (stretches : List Stretch) : Prop :=
  ∀ front x back,
    stretches = front ++ x :: back → cancellation (past ++ traces front) = false

/-- The flag is unset in front of stages where it is at every look of theirs. -/
theorem unset_of_traces (unset : Polystore.Unset cancellation past (traces stretches))
    : Unset cancellation past stretches := by
  rintro front x back rfl
  exact unset (traces front) x.stage (x.work ++ traces back) (traces_append ..)

/-- The flag is looked at once for each stage, by induction on the stages. -/
theorem looks_traces (undisturbed : ∀ x ∈ stretches, x.Undisturbed)
    : (traces stretches).filterMap Happening.look? = stretches.map Stretch.stage := by
  induction stretches with
  | nil => rfl
  | cons x rest ih =>
      obtain ⟨here, later⟩ := List.forall_mem_cons.mp undisturbed
      have first : (Happening.looked x.stage :: x.work).filterMap Happening.look? = [x.stage] :=
        congrArg (x.stage :: ·) here
      rw [traces_cons, List.filterMap_append, first, ih later]
      rfl

theorem entries_traces (stretches : List Stretch)
    : (traces stretches).filterMap Happening.entry? = stretches.flatMap entries := by
  rw [traces, List.filterMap_flatMap]
  rfl

theorem calls_traces (stretches : List Stretch)
    : (traces stretches).filterMap Happening.call? = stretches.flatMap calls := by
  rw [traces, List.filterMap_flatMap]
  rfl

end Stretch

-----------------------------------------------------------------------------------------
-- Courses in stretches
-----------------------------------------------------------------------------------------

namespace Course

variable {α β γ : Type}

theorem bind_assoc (x : Course α) (f : α → Course β) (g : β → Course γ)
    : (x >>= f) >>= g = x >>= fun a => f a >>= g := by
  funext past
  cases first : (x past).result with
  | error failure =>
      rw [bind_of_error first, bind_of_error (by rw [bind_of_error first]), bind_of_error first]
  | ok a =>
      rw [bind_of_ok first]
      cases second : (f a (past ++ (x past).trace)).result with
      | error failure =>
          rw [bind_of_error second, bind_of_error (by rw [bind_of_ok first, second]),
            bind_of_ok first]
      | ok b =>
          rw [bind_of_ok second, bind_of_ok (by rw [bind_of_ok first, second]), bind_of_ok first]
          simp only [List.append_assoc]

theorem pure_bind (a : α) (f : α → Course β) : (pure a >>= f : Course β) = f a := by
  funext past
  change (⟨[] ++ (f a (past ++ [])).trace, (f a (past ++ [])).result⟩ : Traced β) = _
  rw [List.append_nil]
  rfl

theorem ofTraced_pure (a : α) : ofTraced (pure a) = pure a := rfl

/-- Composed work is a course composed of its parts. -/
theorem ofTraced_bind (t : Traced α) (u : α → Traced β)
    : ofTraced (t >>= u) = ofTraced t >>= fun a => ofTraced (u a) := by
  funext past
  cases result : t.result with
  | error failure =>
      rw [bind_of_error result]
      simp only [ofTraced, Bind.bind, Traced.bind, result]
  | ok a =>
      rw [bind_of_ok result]
      simp only [ofTraced, Bind.bind, Traced.bind, result]

/-- A course that goes on behind a stage records the stretch of the stage first. -/
theorem trace_stage (stage : Stage) (work : Traced α) {f : α → Course β}
    {behind : α → List Stretch}
    (later
      : ∀ a past, work.result = .ok a → (f a past).trace = Stretch.traces (behind a))
    (past : List Happening)
    : ((checkpoint .never stage >>= fun _ => ofTraced work >>= f) past).trace
      = Stretch.traces (Stretch.of stage work behind) := by
  have looked : (checkpoint .never stage past).result = .ok () := rfl
  rw [bind_of_ok looked]
  cases result : work.result with
  | error failure =>
      rw [bind_of_error result, Stretch.of, result]
      simp [Stretch.traces, Stretch.trace, checkpoint, ofTraced, Except.toOption]
  | ok a =>
      rw [bind_of_ok result, later a _ result, Stretch.of, result]
      simp [Stretch.traces, Stretch.trace, checkpoint, ofTraced, Except.toOption]

end Course

end Polystore
