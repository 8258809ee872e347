import Polystore.Proofs.Sql.Parameters

/-! Joined texts. Texts that are joined are written one behind the other, the slots of each numbered
on from those of the texts before, and those without slots read as they do alone.
-/

namespace Polystore.Sql

variable {d : Dialect}

-----------------------------------------------------------------------------------------
-- Parameters of joined texts
-----------------------------------------------------------------------------------------

/-- Texts are joined to others behind them by the separator, by induction on the texts. -/
theorem join_append (separator : String) {texts others : List Sql} (some : texts ≠ [])
    (more : others ≠ [])
    : join separator (texts ++ others)
      = join separator texts ++ .text separator :: join separator others := by
  induction texts with
  | nil => exact absurd rfl some
  | cons text rest ih =>
      cases rest with
      | nil =>
          obtain ⟨other, behind, rfl⟩ := List.exists_cons_of_ne_nil more
          rfl
      | cons next rest =>
          have later := ih (List.cons_ne_nil _ _)
          simp only [List.cons_append, join, List.append_assoc] at later ⊢
          rw [later]

theorem params_join (separator : String) (lines : List Sql)
    : params (join separator lines) = lines.flatMap params :=
  ((wovenAll_self lines).join separator).params_eq

theorem params_clause (keyword separator : String) (items : List Sql)
    : (clause keyword separator items).flatMap params = items.flatMap params := by
  cases items with
  | nil => rfl
  | cons first rest => simp [clause, params_join]

-----------------------------------------------------------------------------------------
-- Numbered texts
-----------------------------------------------------------------------------------------

/-- Texts are written one behind the other, the second one with the marks that the first one leaves,
by induction on the first one.
-/
theorem renderFrom_append (quote placeholder : String → String) (n : Nat) (a b : Sql)
    : renderFrom quote placeholder n (a ++ b)
      = renderFrom quote placeholder n a
        ++ renderFrom quote placeholder (n + (params a).length) b := by
  induction a generalizing n with
  | nil => simp [renderFrom]
  | cons piece rest ih =>
      cases piece with
      | text text => simp [renderFrom, ih, String.append_assoc]
      | name name => simp [renderFrom, ih, String.append_assoc]
      | slot value =>
          simp [renderFrom, ih, String.append_assoc, Nat.add_assoc, Nat.add_comm 1]

/-- Lines one behind the other, the slots of each numbered on from those of the lines before. -/
def numbered (d : Dialect) : Nat → List Sql → List String
  | _, [] => []
  | n, sql :: rest =>
      sql.renderFrom d.quote d.placeholder n :: numbered d (n + sql.params.length) rest

theorem numbered_append (n : Nat) (lines others : List Sql)
    : numbered d n (lines ++ others)
      = numbered d n lines ++ numbered d (n + (lines.flatMap params).length) others := by
  induction lines generalizing n with
  | nil => rfl
  | cons line rest ih =>
      simp only [List.cons_append, numbered, ih, List.flatMap_cons, List.length_append,
        Nat.add_assoc]

/-- Joined lines are numbered as they are one behind the other, by induction on them. -/
theorem renderFrom_join (separator : String) (n : Nat) (lines : List Sql)
    : (join separator lines).renderFrom d.quote d.placeholder n
      = separator.intercalate (numbered d n lines) := by
  induction lines generalizing n with
  | nil => rfl
  | cons line rest ih =>
      cases rest with
      | nil => rfl
      | cons next rest =>
          rw [join, renderFrom_append, renderFrom, ih]
          · simp only [numbered, String.intercalate_cons_cons, String.append_assoc]
          · exact List.cons_ne_nil _ _

-----------------------------------------------------------------------------------------
-- Texts without parameters
-----------------------------------------------------------------------------------------

/-- A text without parameters reads the same behind any others. -/
theorem renderFrom_of_plain {sql : Sql} (plain : params sql = []) (n : Nat)
    : sql.renderFrom d.quote d.placeholder n = d.render sql := by
  induction sql with
  | nil => rfl
  | cons piece rest ih =>
      cases piece with
      | text s => simp only [Dialect.render, renderFrom, ih plain]
      | name s => simp only [Dialect.render, renderFrom, ih plain]
      | slot v => cases plain

theorem numbered_of_plain {lines : List Sql} (plain : ∀ line ∈ lines, params line = []) (n : Nat)
    : numbered d n lines = lines.map d.render := by
  induction lines generalizing n with
  | nil => rfl
  | cons line rest ih =>
      have here := plain line List.mem_cons_self
      have later := ih fun t member => plain t (List.mem_cons_of_mem _ member)
      rw [numbered, renderFrom_of_plain here, later, List.map_cons]

/-- Texts without parameters read the same joined as alone. -/
theorem render_join (separator : String) {texts : List Sql} (plain : ∀ t ∈ texts, params t = [])
    : d.render (join separator texts) = separator.intercalate (texts.map d.render) := by
  rw [Dialect.render, renderFrom_join, numbered_of_plain plain]

/-- Lines behind one without parameters read as they do alone. -/
theorem render_join_cons {first : Sql} (plain : params first = []) {lines : List Sql}
    (some : lines ≠ [])
    : d.render (join "\n" (first :: lines))
      = d.render first ++ "\n" ++ d.render (join "\n" lines) := by
  rw [← List.singleton_append, join_append "\n" (List.cons_ne_nil _ _) some, join, Dialect.render,
    renderFrom_append, plain, renderFrom]
  simp only [List.length_nil, Nat.add_zero, String.append_assoc]
  rfl

/-- Lines in front of others read as they do alone. -/
theorem exists_render_join_append {lines : List Sql} (some : lines ≠ []) (others : List Sql)
    : ∃ tail,
        d.render (join "\n" (lines ++ others)) = d.render (join "\n" lines) ++ tail := by
  by_cases none : others = []
  · exact ⟨"", by rw [none, List.append_nil, String.append_empty]⟩
  · rw [join_append "\n" some none, Dialect.render, renderFrom_append]
    exact ⟨_, rfl⟩

end Polystore.Sql
