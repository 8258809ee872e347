import Polystore.Proofs.Trace.Outcomes

/-! What computations record. Decisions, log events and reads of the cache belong to the work within
a stage; statements that are run and looks at the flag are from outside. What a composed computation
records is composed of what its parts record, as far as it gets.
-/

namespace Polystore

namespace Happening

/-- Whether a statement is run or the flag is looked at. -/
def isOutward : Happening → Bool
  | ran _ | looked _ => true
  | noted _ | logged _ | readCache _ => false

/-- The stage in front of which the flag is looked at. -/
def look? : Happening → Option Stage
  | looked stage => some stage
  | _ => none

end Happening

-----------------------------------------------------------------------------------------
-- Computations that record
-----------------------------------------------------------------------------------------

namespace Traced

variable {α β : Type}

/-- What a computation records from outside of stages. -/
def outward (t : Traced α) : List Happening := t.trace.filter Happening.isOutward

/-- The statements that a computation runs. -/
def calls (t : Traced α) : List Call := t.trace.filterMap Happening.call?

/-- The stages in front of which a computation looks at the flag. -/
def looks (t : Traced α) : List Stage := t.trace.filterMap Happening.look?

theorem calls_outward (t : Traced α) : t.outward.filterMap Happening.call? = t.calls := by
  rw [outward, calls, List.filterMap_filter]
  refine List.filterMap_congr fun h _ => ?_
  cases h <;> rfl

theorem looks_outward (t : Traced α) : t.outward.filterMap Happening.look? = t.looks := by
  rw [outward, looks, List.filterMap_filter]
  refine List.filterMap_congr fun h _ => ?_
  cases h <;> rfl

/-- Looks in front of stages run no statements. -/
theorem filterMap_call?_of_looks {looks : List Happening} {stages : List Stage}
    (among : looks.Sublist (stages.map Happening.looked))
    : looks.filterMap Happening.call? = [] := by
  have none := among.filterMap Happening.call?
  simpa [Happening.call?, Function.comp_def] using none

/-- A computation that stays within a stage. -/
def Quiet (t : Traced α) : Prop := t.outward = []

theorem trace_bind (t : Traced α) (f : α → Traced β)
    : (t >>= f).trace = t.trace ++ (t.result.toOption.map fun a => (f a).trace).getD [] := by
  change (t.bind f).trace = _
  unfold Traced.bind
  cases t.result <;> simp [Except.toOption]

theorem outward_bind_of_ok {t : Traced α} {a : α} (succeeds : t.result = .ok a)
    (f : α → Traced β)
    : (t >>= f).outward = t.outward ++ (f a).outward := by
  simp [outward, trace_bind, succeeds, Except.toOption]

theorem outward_bind_of_error {t : Traced α} {failure : Failure} (fails : t.result = .error failure)
    (f : α → Traced β)
    : (t >>= f).outward = t.outward := by
  simp [outward, trace_bind, fails, Except.toOption]

@[simp]
theorem quiet_pure (a : α) : (pure a : Traced α).Quiet := rfl

theorem quiet_fail (failure : Failure) : (fail failure : Traced α).Quiet := rfl

theorem quiet_refuse (r : Refusal) : (refuse r : Traced α).Quiet := rfl

theorem quiet_ofExcept (result : Except Failure α) : (ofExcept result).Quiet := rfl

theorem quiet_note (phase : Phase) (message : String) (details : Row)
    : (note phase message details).Quiet :=
  rfl

theorem quiet_log (level : Level) (name : String) (fields : Row) : (log level name fields).Quiet :=
  rfl

theorem Quiet.looks_eq_nil {t : Traced α} (h : t.Quiet) : t.looks = [] := by
  rw [← looks_outward, h]
  rfl

/-- The flag is not looked at on the whole where it is not in any part. -/
theorem looks_bind_eq_nil {t : Traced α} {f : α → Traced β} (first : t.looks = [])
    (rest : ∀ a, (f a).looks = [])
    : (t >>= f).looks = [] := by
  unfold looks at *
  rw [trace_bind, List.filterMap_append, first]
  cases t.result with
  | error failure => rfl
  | ok a => exact rest a

theorem Quiet.bind {t : Traced α} {f : α → Traced β} (first : t.Quiet) (rest : ∀ a, (f a).Quiet)
    : (t >>= f).Quiet := by
  unfold Quiet at *
  cases result : t.result with
  | error failure => rw [outward_bind_of_error result, first]
  | ok a => rw [outward_bind_of_ok result, first, rest, List.append_nil]

/-- A computation stays within a stage in any surroundings. -/
theorem Quiet.within {t : Traced α} (h : t.Quiet) (surroundings : Row)
    : (t.within surroundings).Quiet := by
  unfold Quiet outward at *
  rw [List.filter_eq_nil_iff] at *
  intro happening member
  obtain ⟨original, listed, rfl⟩ := List.mem_map.mp member
  have inner := h original listed
  cases original <;> exact inner

/-- What is recorded once for each item stays within a stage, by induction on the items. -/
theorem quiet_forM {items : List α} {f : α → Traced Unit} (each : ∀ a, (f a).Quiet)
    : (items.forM f).Quiet := by
  induction items with
  | nil => rfl
  | cons a rest ih =>
      change (f a >>= fun _ => rest.forM f).Quiet
      exact (each a).bind fun _ => ih

end Traced

-----------------------------------------------------------------------------------------
-- Computations that know their past
-----------------------------------------------------------------------------------------

namespace Course

variable {α β : Type} {past : List Happening}

theorem bind_of_ok {x : Course α} {a : α} (succeeds : (x past).result = .ok a) (f : α → Course β)
    : (x >>= f) past
      = ⟨(x past).trace ++ (f a (past ++ (x past).trace)).trace,
          (f a (past ++ (x past).trace)).result⟩ := by
  change Course.bind x f past = _
  unfold Course.bind
  simp only [succeeds]

theorem bind_of_error {x : Course α} {failure : Failure} (fails : (x past).result = .error failure)
    (f : α → Course β)
    : (x >>= f) past = ⟨(x past).trace, .error failure⟩ := by
  change Course.bind x f past = _
  unfold Course.bind
  simp only [fails]

theorem outward_bind_of_ok {x : Course α} {a : α} (succeeds : (x past).result = .ok a)
    (f : α → Course β)
    : ((x >>= f) past).outward = (x past).outward ++ (f a (past ++ (x past).trace)).outward := by
  rw [bind_of_ok succeeds]
  exact List.filter_append ..

theorem outward_bind_of_error {x : Course α} {failure : Failure}
    (fails : (x past).result = .error failure) (f : α → Course β)
    : ((x >>= f) past).outward = (x past).outward := by
  rw [bind_of_error fails]
  rfl

/-- Returning something made of what a course comes to records nothing. -/
theorem outward_bind_pure (x : Course α) (f : α → β) (past : List Happening)
    : ((x >>= fun a => pure (f a)) past).outward = (x past).outward := by
  cases result : (x past).result with
  | error failure => exact outward_bind_of_error result _
  | ok a => exact (outward_bind_of_ok result _).trans (List.append_nil _)

/-- A course that looks at the flag in front of some of these stages, in their order, and apart from
that stays within stages.
-/
def Passes (stages : List Stage) (x : Course α) : Prop :=
  ∀ past, (x past).outward.Sublist (stages.map Happening.looked)

theorem passes_pure (stages : List Stage) (a : α) : Passes stages (pure a) :=
  fun _ => List.nil_sublist _

theorem passes_ofTraced {t : Traced α} (quiet : t.Quiet) : Passes [] (ofTraced t) :=
  fun _ => List.sublist_nil.mpr quiet

theorem passes_checkpoint (cancellation : Cancellation) (stage : Stage)
    : Passes [stage] (checkpoint cancellation stage) :=
  fun _ => .refl _

/-- A composed course passes the stages of its parts. -/
theorem Passes.bind {stages others : List Stage} {x : Course α} {f : α → Course β}
    (first : Passes stages x) (rest : ∀ a, Passes others (f a))
    : Passes (stages ++ others) (x >>= f) := by
  intro past
  rw [List.map_append]
  cases result : (x past).result with
  | error failure =>
      rw [outward_bind_of_error result]
      exact (first past).trans (List.sublist_append_left ..)
  | ok a =>
      rw [outward_bind_of_ok result]
      exact (first past).append (rest a _)

end Course

end Polystore
