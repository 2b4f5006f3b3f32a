/-!
# Steps that may fail

* `bind_eq_ok_iff`, `bind_eq_error_iff` : one step after another. The first that fails is why all of it does;
* `map_eq_ok_iff`, `map_eq_error_iff`, `bind_pure_eq_error_iff` : something is made of the result, which cannot fail;
* `mapError_eq_error_iff`, `mapError_eq_ok_iff` : a failure under another name;
* `exists_mapM_eq_error_iff`, `forM_eq_error_iff` : one step for each member of a list.
-/

namespace SmaliLint

section Outcome
variable {ε φ α β : Type} {x : Except ε α}

theorem bind_eq_ok_iff {f : α → Except ε β} {b : β} : (x >>= f) = .ok b ↔ ∃ a, x = .ok a ∧ f a = .ok b := by
  cases x with
  | error e => exact ⟨nofun, nofun⟩
  | ok a =>
    show f a = .ok b ↔ _
    simp

theorem bind_eq_error_iff {f : α → Except ε β} {e : ε} :
    (x >>= f) = .error e ↔ x = .error e ∨ ∃ a, x = .ok a ∧ f a = .error e := by
  cases x with
  | error c =>
    show Except.error c = Except.error e ↔ _
    simp
  | ok a =>
    show f a = .error e ↔ _
    simp

theorem pure_eq_ok_iff {a b : α} : (pure a : Except ε α) = .ok b ↔ b = a :=
  ⟨fun h => (Except.ok.inj h).symm, fun h => congrArg Except.ok h.symm⟩

theorem map_eq_ok_iff {f : α → β} {b : β} : x.map f = .ok b ↔ ∃ a, x = .ok a ∧ b = f a := by
  cases x <;> simp [Except.map, eq_comm]

theorem map_eq_error_iff {f : α → β} {e : ε} : x.map f = .error e ↔ x = .error e := by
  cases x <;> simp [Except.map]

theorem bind_pure_eq_error_iff {f : α → β} {e : ε} : (x >>= fun a => pure (f a)) = .error e ↔ x = .error e := by
  rw [bind_pure_comp]
  exact map_eq_error_iff

theorem mapError_eq_ok_iff {g : ε → φ} {a : α} : x.mapError g = .ok a ↔ x = .ok a := by
  cases x with
  | error c => exact ⟨nofun, nofun⟩
  | ok b => exact ⟨fun h => congrArg Except.ok (Except.ok.inj h), fun h => congrArg Except.ok (Except.ok.inj h)⟩

theorem mapError_eq_error_iff {g : ε → φ} {e : φ} : x.mapError g = .error e ↔ ∃ c, x = .error c ∧ e = g c := by
  cases x with
  | error c =>
    constructor
    · exact fun h => ⟨c, rfl, (Except.error.inj h).symm⟩
    · rintro ⟨_, ⟨⟩, rfl⟩
      rfl
  | ok a =>
    constructor
    · intro h
      cases h
    · rintro ⟨_, ⟨⟩, -⟩

theorem exists_mapM_eq_error_iff {f : α → Except ε β} {l : List α} :
    (∃ e, l.mapM f = .error e) ↔ ∃ a ∈ l, ∃ e, f a = .error e := by
  induction l with
  | nil => exact ⟨nofun, nofun⟩
  | cons a l ih =>
    have hmem : (∃ b ∈ a :: l, ∃ e, f b = .error e) ↔ (∃ e, f a = .error e) ∨ ∃ e, l.mapM f = .error e := by
      simp only [List.mem_cons, exists_eq_or_imp, ih]
    rw [hmem, List.mapM_cons]
    cases f a with
    | error c => exact ⟨fun _ => .inl ⟨c, rfl⟩, fun _ => ⟨c, rfl⟩⟩
    | ok b =>
      cases l.mapM f with
      | error c => exact ⟨fun _ => .inr ⟨c, rfl⟩, fun _ => ⟨c, rfl⟩⟩
      | ok bs => exact ⟨nofun, by rintro (⟨c, ⟨⟩⟩ | ⟨c, ⟨⟩⟩)⟩

/-- The first member of the list that fails is why all of it does. -/
theorem forM_eq_error_iff {f : α → Except ε Unit} {l : List α} {e : ε} :
    l.forM f = .error e ↔
      ∃ before a after, l = before ++ a :: after ∧ (∀ b ∈ before, f b = .ok ()) ∧ f a = .error e := by
  induction l with
  | nil => simp [pure, Except.pure]
  | cons a l ih =>
    have hcons : (a :: l).forM f = .error e ↔ f a = .error e ∨ f a = .ok () ∧ l.forM f = .error e :=
      bind_eq_error_iff.trans (or_congr_right ⟨fun ⟨_, h⟩ => h, fun h => ⟨(), h⟩⟩)
    rw [hcons, ih]
    constructor
    · rintro (ha | ⟨ha, before, b, after, rfl, hbefore, hb⟩)
      · exact ⟨[], a, l, rfl, nofun, ha⟩
      · exact ⟨a :: before, b, after, rfl, List.forall_mem_cons.2 ⟨ha, hbefore⟩, hb⟩
    · rintro ⟨before, b, after, hl, hbefore, hb⟩
      cases before with
      | nil =>
        obtain ⟨rfl, -⟩ := List.cons.inj hl
        exact .inl hb
      | cons c before =>
        obtain ⟨rfl, rfl⟩ := List.cons.inj hl
        obtain ⟨ha, hbefore⟩ := List.forall_mem_cons.1 hbefore
        exact .inr ⟨ha, before, b, after, rfl, hbefore, hb⟩

end Outcome

end SmaliLint
