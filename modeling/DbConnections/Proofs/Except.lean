
namespace Except

variable {ε ε' α β : Type} {x : Except ε α} {f : α → Except ε β}

@[simp]
theorem throw_eq {e : ε} : (throw e : Except ε α) = .error e := rfl

@[simp]
theorem pure_eq {a : α} : (pure a : Except ε α) = .ok a := rfl

@[simp]
theorem ok_bind {a : α} : (Except.ok a >>= f) = f a := rfl

@[simp]
theorem error_bind {e : ε} : (Except.error e >>= f) = .error e := rfl

@[simp]
theorem map_error_eq {g : α → β} {e : ε} : (g <$> (Except.error e : Except ε α)) = .error e := rfl

@[simp]
theorem map_ok_eq {g : α → β} {a : α} : (g <$> (Except.ok a : Except ε α)) = .ok (g a) := rfl

@[simp]
theorem map_eq_ok {g : α → β} {b : β} : g <$> x = .ok b ↔ ∃ a, x = .ok a ∧ g a = b := by
  cases x <;> simp [Functor.map, Except.map]

theorem map_eq_ok_iff_of_injective {g : α → β} (hg : Function.Injective g) {a : α} :
    g <$> x = .ok (g a) ↔ x = .ok a := by
  cases x <;> simp [hg.eq_iff]

@[simp]
theorem map_eq_error {g : α → β} {e : ε} : g <$> x = .error e ↔ x = .error e := by
  cases x <;> simp [Functor.map, Except.map]

@[simp]
theorem bind_eq_ok {b : β} : x >>= f = .ok b ↔ ∃ a, x = .ok a ∧ f a = .ok b := by
  cases x <;> simp [bind, Except.bind]

@[simp]
theorem bind_eq_error {e : ε} :
    x >>= f = .error e ↔ x = .error e ∨ ∃ a, x = .ok a ∧ f a = .error e := by
  cases x <;> simp [bind, Except.bind]

@[simp]
theorem exists_unit_eq_ok {y : Except ε Unit} : (∃ u, y = .ok u) ↔ y = .ok () :=
  ⟨fun ⟨(), h⟩ => h, fun h => ⟨(), h⟩⟩

@[simp]
theorem mapError_ok {g : ε → ε'} {a : α} : (Except.ok a : Except ε α).mapError g = .ok a := rfl

@[simp]
theorem mapError_error {g : ε → ε'} {e : ε} :
    (Except.error e : Except ε α).mapError g = .error (g e) := rfl

@[simp]
theorem mapError_eq_ok {g : ε → ε'} {a : α} : x.mapError g = .ok a ↔ x = .ok a := by
  cases x <;> simp

@[simp]
theorem mapError_eq_error {g : ε → ε'} {e : ε'} :
    x.mapError g = .error e ↔ ∃ e', x = .error e' ∧ g e' = e := by
  cases x <;> simp

end Except

namespace List

variable {ε α β : Type} {f : β → α → Except ε β}

theorem foldlM_except_eq_error {xs : List α} {b : β} {e : ε} :
    xs.foldlM f b = .error e ↔
      ∃ i, ∃ hi : i < xs.length, ∃ c, (xs.take i).foldlM f b = .ok c ∧ f c xs[i] = .error e := by
  induction xs generalizing b with
  | nil => simp [pure, Except.pure]
  | cons x xs ih =>
    rw [List.foldlM_cons, Except.bind_eq_error]
    constructor
    · rintro (hx | ⟨c, hx, hrest⟩)
      · exact ⟨0, by simp, b, rfl, hx⟩
      · obtain ⟨i, hi, d, hd, he⟩ := ih.mp hrest
        refine ⟨i + 1, by simpa using hi, d, ?_, by simpa using he⟩
        simp [hx, hd, bind, Except.bind]
    · rintro ⟨i, hi, c, hc, he⟩
      cases i with
      | zero =>
        cases hc
        exact .inl (by simpa using he)
      | succ i =>
        simp only [List.take_succ_cons, List.foldlM_cons] at hc
        obtain ⟨d, hx, hd⟩ := Except.bind_eq_ok.mp hc
        exact .inr ⟨d, hx, ih.mpr ⟨i, by simpa using hi, c, hd, by simpa using he⟩⟩

/-- What every successful step keeps, a successful fold keeps. -/
theorem foldlM_except_induction (P : β → Prop) (step : ∀ b x c, P b → f b x = .ok c → P c)
    {xs : List α} {b c : β} (start : P b) (h : xs.foldlM f b = .ok c) : P c := by
  induction xs generalizing b with
  | nil =>
    cases h
    exact start
  | cons x xs ih =>
    obtain ⟨d, hx, hd⟩ := Except.bind_eq_ok.mp h
    exact ih (step b x d start hx) hd

end List

namespace EStateM

variable {ε σ α : Type} {s : σ}

@[simp]
theorem run_ofExcept_ok {a : α} : (MonadExcept.ofExcept (.ok a) : EStateM ε σ α).run s = .ok a s :=
  rfl

@[simp]
theorem run_ofExcept_error {e : ε} :
    (MonadExcept.ofExcept (.error e) : EStateM ε σ α).run s = .error e s := rfl

end EStateM
