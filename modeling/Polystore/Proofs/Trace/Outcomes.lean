import Mathlib.Data.List.Forall2
import Polystore.Service.Course

/-! What recording computations come to, apart from what they record. The outcome of a
composed computation is composed of the outcomes of its parts, so that a success is taken
apart part by part.
-/

namespace Polystore

-----------------------------------------------------------------------------------------
-- Computations that may fail
-----------------------------------------------------------------------------------------

namespace Outcome

variable {ε α β : Type}

/-- A composed computation succeeds through a success of its first part. -/
theorem bind_eq_ok {x : Except ε α} {f : α → Except ε β} {b : β}
    : (x >>= f) = .ok b ↔ ∃ a, x = .ok a ∧ f a = .ok b := by
  cases x with
  | error failure => simp [bind, Except.bind]
  | ok a => simp [bind, Except.bind]

/-- A composed computation can succeed when its parts can, one after the other. -/
theorem exists_bind_eq_ok {x : Except ε α} {f : α → Except ε β}
    : (∃ b, (x >>= f) = .ok b) ↔ ∃ a, x = .ok a ∧ ∃ b, f a = .ok b := by
  simp only [bind_eq_ok]
  exact ⟨fun ⟨b, a, ha, hb⟩ => ⟨a, ha, b, hb⟩, fun ⟨a, ha, b, hb⟩ => ⟨b, a, ha, hb⟩⟩

/-- A mapped success is the image of a success. -/
theorem map_eq_ok {x : Except ε α} {f : α → β} {b : β}
    : f <$> x = .ok b ↔ ∃ a, x = .ok a ∧ f a = b := by
  cases x with
  | error failure => simp [Functor.map, Except.map]
  | ok a => simp [Functor.map, Except.map]

theorem mapError_eq_ok {δ : Type} {x : Except ε α} {f : ε → δ} {a : α}
    : x.mapError f = .ok a ↔ x = .ok a := by
  cases x <;> simp [Except.mapError]

@[simp]
theorem pure_eq (a : α) : (pure a : Except ε α) = .ok a := rfl

@[simp]
theorem ok_bind (a : α) (f : α → Except ε β) : ((.ok a : Except ε α) >>= f) = f a := rfl

@[simp]
theorem bind_ok (x : Except ε α) : (x >>= fun a => .ok a) = x := by
  cases x <;> rfl

@[simp]
theorem map_ok (f : α → β) (a : α) : f <$> (.ok a : Except ε α) = .ok (f a) := rfl

/-- Computing item by item succeeds when it does at every item, by induction on the items. -/
theorem mapM_eq_ok {f : α → Except ε β} {items : List α} {found : List β}
    : items.mapM f = .ok found ↔ List.Forall₂ (fun a b => f a = .ok b) items found := by
  induction items generalizing found with
  | nil => cases found <;> simp [eq_comm]
  | cons a rest ih =>
      simp only [List.mapM_cons, bind_eq_ok, pure_eq, Except.ok.injEq]
      constructor
      · rintro ⟨b, hb, bs, hbs, rfl⟩
        exact .cons hb (ih.mp hbs)
      · intro h
        cases h with
        | cons hb hbs => exact ⟨_, hb, _, ih.mpr hbs, rfl⟩

/-- Nothing is computed only where there are no items. -/
theorem eq_nil_of_mapM {f : α → Except ε β} {items : List α} (h : items.mapM f = .ok [])
    : items = [] := by
  cases mapM_eq_ok.mp h
  rfl

/-- What can be found for each item can be found for all of them, by induction on the items. -/
theorem exists_forall₂ {R : α → β → Prop} {items : List α} (each : ∀ a ∈ items, ∃ b, R a b)
    : ∃ found, List.Forall₂ R items found := by
  induction items with
  | nil => exact ⟨[], .nil⟩
  | cons a rest ih =>
      obtain ⟨b, here⟩ := each a (List.mem_cons_self ..)
      obtain ⟨found, behind⟩ := ih fun other member => each other (List.mem_cons_of_mem _ member)
      exact ⟨b :: found, .cons here behind⟩

/-- Computing item by item can succeed when it can at every item. -/
theorem exists_mapM_eq_ok {f : α → Except ε β} {items : List α}
    (each : ∀ a ∈ items, ∃ b, f a = .ok b)
    : ∃ found, items.mapM f = .ok found := by
  simp only [mapM_eq_ok]
  exact exists_forall₂ each

/-- Computing item by item with a function that gives `g` at every item gives `map g`. -/
theorem mapM_eq_map {f : α → Except ε β} {g : α → β} {items : List α}
    (h : ∀ a ∈ items, f a = .ok (g a))
    : items.mapM f = .ok (items.map g) := by
  rw [mapM_eq_ok, List.forall₂_map_right_iff]
  exact List.forall₂_same.mpr h

/-- Whatever is found for some items is found for one of them, by induction on the items. -/
theorem exists_of_mem_found {R : α → β → Prop} {items : List α} {found : List β}
    (aligned : List.Forall₂ R items found) {b : β} (member : b ∈ found)
    : ∃ a ∈ items, R a b := by
  induction aligned with
  | nil => cases member
  | cons head _ ih =>
      rcases List.mem_cons.mp member with rfl | later
      · exact ⟨_, List.mem_cons_self .., head⟩
      · obtain ⟨a, ha, same⟩ := ih later
        exact ⟨a, List.mem_cons_of_mem _ ha, same⟩

/-- What is computed item by item comes from some item. -/
theorem exists_of_mem_mapM {f : α → Except ε β} {items : List α} {found : List β}
    (h : items.mapM f = .ok found) {b : β} (member : b ∈ found)
    : ∃ a ∈ items, f a = .ok b :=
  exists_of_mem_found (mapM_eq_ok.mp h) member

/-- Where computing item by item succeeds, it does at every item, with what is found there. -/
theorem exists_of_mapM {f : α → Except ε β} {items : List α} {found : List β}
    (h : items.mapM f = .ok found) {a : α} (member : a ∈ items)
    : ∃ b ∈ found, f a = .ok b :=
  exists_of_mem_found (mapM_eq_ok.mp h).flip member

/-- Why a computation fails, if it does. -/
def failure? : Except ε α → Option ε
  | .ok _ => none
  | .error failure => some failure

theorem failure?_eq_some {x : Except ε α} {failure : ε}
    : failure? x = some failure ↔ x = .error failure := by
  cases x <;> simp [failure?]

theorem failure?_eq_none {x : Except ε α} : failure? x = none ↔ ∃ a, x = .ok a := by
  cases x <;> simp [failure?]

/-- Computations fail alike when their first parts do, and their rests after any successes. -/
theorem failure?_bind {x : Except ε α} {y : Except ε β} {γ δ : Type} {f : α → Except ε γ}
    {g : β → Except ε δ} (first : failure? x = failure? y)
    (rest : ∀ a b, failure? (f a) = failure? (g b))
    : failure? (x >>= f) = failure? (y >>= g) := by
  cases x with
  | error failure =>
      cases y with
      | error other => exact first
      | ok b => cases first
  | ok a =>
      cases y with
      | error other => cases first
      | ok b => exact rest a b

/-- Computations with the same first part fail alike when their rests do. -/
theorem failure?_bind_same {x : Except ε α} {γ δ : Type} {f : α → Except ε γ}
    {g : α → Except ε δ} (rest : ∀ a, failure? (f a) = failure? (g a))
    : failure? (x >>= f) = failure? (x >>= g) := by
  cases x with
  | error failure => rfl
  | ok a => exact rest a

theorem failure?_map (x : Except ε α) (f : α → β) : failure? (f <$> x) = failure? x := by
  cases x <;> rfl

/-- A computation that fails for reasons of some kind only. -/
def FailsOnly (reason : ε → Prop) (x : Except ε α) : Prop :=
  ∀ failure, x = .error failure → reason failure

/-- A computation that does not fail for a reason of some kind. -/
abbrev Avoids (kind : ε → Prop) (x : Except ε α) : Prop :=
  FailsOnly (fun failure => ¬ kind failure) x

variable {reason other : ε → Prop}

theorem failsOnly_ok (a : α) : FailsOnly reason (.ok a : Except ε α) := nofun

theorem failsOnly_of_exists {x : Except ε α} (succeeds : ∃ a, x = .ok a) : FailsOnly reason x := by
  obtain ⟨a, rfl⟩ := succeeds
  exact failsOnly_ok a

theorem failsOnly_error {failure : ε} (is : reason failure)
    : FailsOnly reason (.error failure : Except ε α) := by
  intro found same
  cases same
  exact is

theorem FailsOnly.imp {x : Except ε α} (h : FailsOnly reason x)
    (weaker : ∀ failure, reason failure → other failure)
    : FailsOnly other x :=
  fun failure failed => weaker failure (h failure failed)

theorem FailsOnly.bind {x : Except ε α} {f : α → Except ε β} (first : FailsOnly reason x)
    (rest : ∀ a, x = .ok a → FailsOnly reason (f a))
    : FailsOnly reason (x >>= f) := by
  cases x with
  | error failure => exact failsOnly_error (first failure rfl)
  | ok a => exact rest a rfl

theorem FailsOnly.map {x : Except ε α} (h : FailsOnly reason x) (f : α → β)
    : FailsOnly reason (f <$> x) := by
  cases x with
  | error failure => exact failsOnly_error (h failure rfl)
  | ok a => exact failsOnly_ok (f a)

/-- A computation whose failures are put in other words fails for what is said of them. -/
theorem FailsOnly.mapError {δ : Type} {x : Except ε α} (h : FailsOnly reason x) {f : ε → δ}
    {said : δ → Prop} (each : ∀ failure, reason failure → said (f failure))
    : FailsOnly said (x.mapError f) := by
  cases x with
  | error failure => exact failsOnly_error (each failure (h failure rfl))
  | ok a => exact failsOnly_ok a

/-- Computing item by item fails as the items do, by induction on the items. -/
theorem FailsOnly.mapM {f : α → Except ε β} {items : List α}
    (each : ∀ a ∈ items, FailsOnly reason (f a))
    : FailsOnly reason (items.mapM f) := by
  induction items with
  | nil => exact failsOnly_ok []
  | cons a rest ih =>
      rw [List.mapM_cons]
      refine (each a (List.mem_cons_self ..)).bind fun b _ => ?_
      refine (ih fun a member => each a (List.mem_cons_of_mem _ member)).bind fun _ _ => ?_
      exact failsOnly_ok _

/-- A computation that has no reason to fail succeeds. -/
theorem FailsOnly.exists_ok {x : Except ε α} (h : FailsOnly reason x)
    (none : ∀ failure, ¬ reason failure)
    : ∃ a, x = .ok a := by
  cases x with
  | error failure => exact absurd (h failure rfl) (none failure)
  | ok a => exact ⟨a, rfl⟩

end Outcome

-----------------------------------------------------------------------------------------
-- Computations that record
-----------------------------------------------------------------------------------------

namespace Traced

variable {α β : Type}

@[simp]
theorem result_bind (t : Traced α) (f : α → Traced β)
    : (t >>= f).result = t.result >>= fun a => (f a).result := by
  change (t.bind f).result = _
  unfold Traced.bind
  cases t.result <;> rfl

@[simp]
theorem result_pure (a : α) : (pure a : Traced α).result = .ok a := rfl

@[simp]
theorem result_fail (failure : Failure) : (fail failure : Traced α).result = .error failure :=
  rfl

@[simp]
theorem result_refuse (r : Refusal) : (refuse r : Traced α).result = .error (.refused r) := rfl

@[simp]
theorem result_ofExcept (result : Except Failure α) : (ofExcept result).result = result := rfl

@[simp]
theorem result_record (h : Happening) : (record h).result = .ok () := rfl

@[simp]
theorem result_note (phase : Phase) (message : String) (details : Row)
    : (note phase message details).result = .ok () :=
  rfl

@[simp]
theorem result_log (level : Level) (name : String) (fields : Row)
    : (log level name fields).result = .ok () :=
  rfl

@[simp]
theorem result_within (surroundings : Row) (t : Traced α)
    : (t.within surroundings).result = t.result :=
  rfl

/-- Recording once for each item always succeeds, by induction on the items. -/
@[simp]
theorem result_forM (items : List α) (f : α → Traced Unit)
    (h : ∀ a, (f a).result = .ok ())
    : (items.forM f).result = .ok () := by
  induction items with
  | nil => rfl
  | cons a rest ih =>
      change (f a >>= fun _ => rest.forM f).result = _
      rw [result_bind, h, Outcome.ok_bind, ih]

end Traced

-----------------------------------------------------------------------------------------
-- Computations that know their past
-----------------------------------------------------------------------------------------

namespace Course

variable {α β : Type}

@[simp]
theorem result_bind (x : Course α) (f : α → Course β) (past : List Happening)
    : ((x >>= f) past).result
      = (x past).result >>= fun a => (f a (past ++ (x past).trace)).result := by
  change (Course.bind x f past).result = _
  unfold Course.bind
  cases h : (x past).result <;> simp only [h] <;> rfl

@[simp]
theorem result_pure (a : α) (past : List Happening) : ((pure a : Course α) past).result = .ok a :=
  rfl

@[simp]
theorem result_ofTraced (t : Traced α) (past : List Happening)
    : (ofTraced t past).result = t.result :=
  rfl

@[simp]
theorem result_checkpoint_never (stage : Stage) (past : List Happening)
    : (checkpoint .never stage past).result = .ok () :=
  rfl

end Course

end Polystore
