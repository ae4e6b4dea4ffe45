import DbConnections.Registry
import DbConnections.Proofs.Except
namespace DbConnections

section

variable [Toolkit] {n : Nat} {u : Url} {e : Engine}

theorem Engine.create_eq_ok_iff :
    Engine.create n u = .ok e ↔ ∃ b, Toolkit.createEngine u = .ok b ∧ e = ⟨n, u, b⟩ := by
  unfold Engine.create
  cases Toolkit.createEngine u <;> simp [bind, Except.bind, pure, Except.pure, eq_comm]

theorem Engine.create_url (h : Engine.create n u = .ok e) : e.url = u := by
  obtain ⟨_, _, rfl⟩ := Engine.create_eq_ok_iff.mp h
  rfl

theorem Engine.create_serial (h : Engine.create n u = .ok e) : e.serial = n := by
  obtain ⟨_, _, rfl⟩ := Engine.create_eq_ok_iff.mp h
  rfl

end

namespace Registry

variable [Toolkit] {m m' : Registry} {c : Config} {f : Fault}

/-- Adding runs the name check, the driver check and the engine's making, each of which fails
with the state as it was, and only then writes the connection and the settings. -/
theorem addConnection_run (m : Registry) (c : Config) :
    (addConnection c).run m =
      if c.name ∈ m.names then .error (.duplicateName c.name) m
      else match checkDriver c.dialect with
        | .error f => .error f m
        | .ok () =>
          match Engine.create m.configs.length (Url.ofConfig c) with
          | .error f => .error f m
          | .ok e => .ok () ⟨m.connections ++ [⟨c.name, e⟩], m.configs ++ [c]⟩ := by
  by_cases hn : c.name ∈ m.names
  · simp [addConnection, hn]
  · cases hd : checkDriver c.dialect with
    | error f => simp [addConnection, hn, hd]
    | ok u =>
      cases he : Engine.create m.configs.length (Url.ofConfig c) with
      | error f => simp [addConnection, hn, hd, he]
      | ok e => simp [addConnection, hn, hd, he]

/-- A failed add leaves the state as it was: every check comes before the first write. -/
theorem addConnection_error_state (h : (addConnection c).run m = .error f m') : m' = m := by
  rw [addConnection_run] at h
  split at h
  · cases h
    rfl
  · split at h
    · cases h
      rfl
    · split at h
      · cases h
        rfl
      · cases h

theorem addConnection_ok_iff :
    (addConnection c).run m = .ok () m' ↔
      c.name ∉ m.names ∧ checkDriver c.dialect = .ok () ∧
        ∃ e, Engine.create m.configs.length (Url.ofConfig c) = .ok e ∧
          m' = ⟨m.connections ++ [⟨c.name, e⟩], m.configs ++ [c]⟩ := by
  rw [addConnection_run]
  by_cases hn : c.name ∈ m.names
  · simp [hn]
  · cases hd : checkDriver c.dialect with
    | error f => simp [hn]
    | ok u =>
      cases he : Engine.create m.configs.length (Url.ofConfig c) with
      | error f => simp [hn]
      | ok e => simp [hn, eq_comm]

theorem addConnection_run_eq (m : Registry) (c : Config) :
    (addConnection c).run m = match m.add c with
      | .ok m' => .ok () m'
      | .error f => .error f m := by
  unfold add
  cases hr : (addConnection c).run m with
  | ok u m' => rfl
  | error f m' => rw [addConnection_error_state hr]

/-- An add succeeds exactly when the name is free, the driver check passes and the engine is
made; the connection then joins the end of the open ones and the settings the end of the log. -/
theorem add_eq_ok_iff :
    m.add c = .ok m' ↔
      c.name ∉ m.names ∧ checkDriver c.dialect = .ok () ∧
        ∃ e, Engine.create m.configs.length (Url.ofConfig c) = .ok e ∧
          m' = ⟨m.connections ++ [⟨c.name, e⟩], m.configs ++ [c]⟩ := by
  rw [← addConnection_ok_iff, addConnection_run_eq]
  cases m.add c <;> simp

end Registry

end DbConnections
