import DbConnections.Proofs.Close
import DbConnections.Proofs.Add
import DbConnections.Toolkit.Installed
import DbConnections.Validator.Installed
namespace DbConnections

def Step.closes : Step → Bool
  | .closeAll | .exit => true
  | _ => false

namespace Registry

section

variable [Toolkit] [Validator] {m m' : Registry} {v : Value} {s : Step}

theorem addValue_eq_ok_iff :
    m.addValue v = .ok m' ↔ ∃ c, Config.ofValue v = .ok c ∧ m.add c = .ok m' := by
  simp [addValue]

/-- The add request ends where the add of its checked settings ends; refused settings, like a
failed add, leave the state it started from. -/
theorem addRequest_run_eq (m : Registry) (v : Value) :
    (addRequest v).run m = match m.addValue v with
      | .ok m' => .ok () m'
      | .error f => .error f m := by
  cases hv : Config.ofValue v with
  | error r => simp [addRequest, addValue, hv]
  | ok c =>
    have hrun : (addRequest v).run m = (addConnection c).run m := by
      simp [addRequest, hv]
    have hadd : m.addValue v = m.add c := by
      simp [addValue, hv]
    rw [hrun, hadd]
    exact addConnection_run_eq m c

theorem step_add_of_ok (h : m.addValue v = .ok m') : m.step (.add v) = (m', .ok .done) := by
  simp [step, addRequest_run_eq, h]

theorem step_add_of_error {f : Fault} (h : m.addValue v = .error f) :
    m.step (.add v) = (m, .error f) := by
  simp [step, addRequest_run_eq, h]

theorem step_of_closes (hs : s.closes = true) : m.step s = (m.closeAll, .ok .done) := by
  cases s
  case closeAll => exact step_closeAll m
  case exit => exact step_exit m
  all_goals simp [Step.closes] at hs

theorem step_fst_of_reads (hadd : ∀ v, s ≠ .add v) (hs : s.closes = false) : (m.step s).1 = m := by
  cases s
  case add v => exact absurd rfl (hadd v)
  case closeAll => simp [Step.closes] at hs
  case exit => simp [Step.closes] at hs
  all_goals rfl

/-- A request leaves the registry as it was, adds the connection of settings that pass the check,
or closes every connection. -/
theorem step_cases (m : Registry) (s : Step) :
    (s.closes = false ∧ (m.step s).1 = m) ∨
      (∃ v c, s = .add v ∧ Config.ofValue v = .ok c ∧ m.add c = .ok (m.step s).1) ∨
      (s.closes = true ∧ (m.step s).1 = m.closeAll) := by
  cases hs : s.closes
  · by_cases hadd : ∃ v, s = .add v
    · obtain ⟨v, rfl⟩ := hadd
      cases hv : m.addValue v with
      | error f => exact .inl ⟨rfl, by rw [step_add_of_error hv]⟩
      | ok m' =>
        obtain ⟨c, hc, ha⟩ := addValue_eq_ok_iff.mp hv
        exact .inr (.inl ⟨v, c, rfl, hc, by rw [step_add_of_ok hv]; exact ha⟩)
    · exact .inl ⟨rfl, step_fst_of_reads (fun v hv => hadd ⟨v, hv⟩) hs⟩
  · exact .inr (.inr ⟨rfl, by rw [step_of_closes hs]⟩)

theorem step_fst_of_error {f : Fault} (h : (m.step s).2 = .error f) : (m.step s).1 = m := by
  cases s
  case add v =>
    cases hv : m.addValue v with
    | error g => rw [step_add_of_error hv]
    | ok m' => simp [step_add_of_ok hv] at h
  case closeAll => simp [step_closeAll] at h
  case exit => simp [step_exit] at h
  all_goals rfl

/-- A request that fails leaves the registry as it was: an add makes all its checks, and its
engine, before it writes anything. A successful add appends the name of its checked settings, with
the engine made from their URL, to the open connections and the settings to the log; closing
empties the open connections and keeps the log; every other request leaves the registry as it
was. -/
theorem step_state_change (m : Registry) (s : Step) :
    (∀ f, (m.step s).2 = .error f → (m.step s).1 = m) ∧
      (∀ v r, s = .add v → (m.step s).2 = .ok r →
        ∃ c e, Config.ofValue v = .ok c ∧ Engine.create m.configs.length (Url.ofConfig c) = .ok e ∧
          (m.step s).1 = ⟨m.connections ++ [⟨c.name, e⟩], m.configs ++ [c]⟩) ∧
      ((∀ v, s ≠ .add v) → s.closes = false → (m.step s).1 = m) ∧
      (s.closes = true → (m.step s).1 = ⟨[], m.configs⟩) := by
  refine ⟨fun f h => step_fst_of_error h, ?_, fun hadd hs => step_fst_of_reads hadd hs,
    fun hs => by rw [step_of_closes hs]; rfl⟩
  rintro v r rfl hr
  cases hv : m.addValue v with
  | error f => simp [step_add_of_error hv] at hr
  | ok m' =>
    obtain ⟨c, hc, ha⟩ := addValue_eq_ok_iff.mp hv
    obtain ⟨_, _, e, he, rfl⟩ := add_eq_ok_iff.mp ha
    exact ⟨c, e, hc, he, by rw [step_add_of_ok hv]⟩

end

/-- An add whose dialect names no plug-in fails when it makes its engine, after the name and
driver checks passed, and leaves the registry empty. -/
theorem unknown_dialect_keeps_registry :
    let s : Step := .add (.object [("name", .text "abc"), ("dialect", .text "nope"),
      ("database", .text "")])
    (empty.step s).2 = .error (.unknownBackend "nope") ∧ (empty.step s).1 = empty :=
  ⟨rfl, (step_state_change empty _).1 (.unknownBackend "nope") rfl⟩

end Registry

end DbConnections
