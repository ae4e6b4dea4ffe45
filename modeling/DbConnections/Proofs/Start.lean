import DbConnections.Proofs.Step
namespace DbConnections

namespace Registry

section

variable [Toolkit] [Validator]

theorem foldlM_addAtStart (xs : List Value) (m : Registry) :
    xs.foldlM addAtStart m = (xs.foldlM addValue m).mapError Fault.raisedAtStart := by
  induction xs generalizing m with
  | nil => rfl
  | cons x xs ih =>
    simp only [List.foldlM_cons, addAtStart]
    cases m.addValue x with
    | error f => rfl
    | ok m' => exact ih m'

/-- Creating a registry from a collection succeeds with the registry that adding its items in
turn gives, from the empty registry. It fails exactly when some item's add fails after every add
before it succeeded, with that add's fault, refused fields raised as a refused start; the items
after it are never looked at. -/
theorem ofValue_eq_fold_of_add {L : Value} {xs : List Value} (hL : items L = .ok xs) :
    (∀ m, ofValue L = .ok m ↔ xs.foldlM addValue empty = .ok m) ∧
      (∀ g, ofValue L = .error g ↔
        ∃ i, ∃ hi : i < xs.length, ∃ m f, (xs.take i).foldlM addValue empty = .ok m ∧
          m.addValue xs[i] = .error f ∧ g = f.raisedAtStart) ∧
      ∀ issues, (Fault.rejected (.invalid issues)).raisedAtStart = .invalidAtStart issues ∧
        (Fault.invalidAtStart issues).message =
          "⚠️ Configuração inválida: " ++ (Fault.rejected (.invalid issues)).message := by
  have hstart : ofValue L = (xs.foldlM addValue empty).mapError Fault.raisedAtStart := by
    simp only [ofValue, hL, Except.ok_bind, foldlM_addAtStart]
  refine ⟨fun m => by rw [hstart, Except.mapError_eq_ok], fun g => ?_, fun _ => ⟨rfl, rfl⟩⟩
  rw [hstart, Except.mapError_eq_error]
  constructor
  · rintro ⟨f, hf, rfl⟩
    obtain ⟨i, hi, m, hm, he⟩ := List.foldlM_except_eq_error.mp hf
    exact ⟨i, hi, m, f, hm, he, rfl⟩
  · rintro ⟨i, hi, m, f, hm, he, rfl⟩
    exact ⟨f, List.foldlM_except_eq_error.mpr ⟨i, hi, m, hm, he⟩, rfl⟩

end

theorem ofValue_text_fails_on_first_character :
    items (.text "ab") = .ok [.text "a", .text "b"] ∧
      ofValue (.text "ab") = .error (.rejected (.notMapping "str")) := by
  have hitems : items (.text "ab") = .ok [.text "a", .text "b"] := rfl
  refine ⟨hitems, ((ofValue_eq_fold_of_add hitems).2.1 _).mpr ⟨0, by decide, empty, _, rfl, rfl, rfl⟩⟩

end Registry

end DbConnections
