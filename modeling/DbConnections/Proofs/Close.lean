import DbConnections.Registry.Step

namespace DbConnections

namespace Registry

variable {c : Connection} {cs : List Connection} {cfgs : List Config}

theorem find?_cons_name : (⟨c :: cs, cfgs⟩ : Registry).find? c.name = some c := by
  simp [find?]

theorem erase_cons_name : (⟨c :: cs, cfgs⟩ : Registry).erase c.name = ⟨cs, cfgs⟩ := by
  simp [erase]

theorem closeEach_cons_name (ns : List String) :
    (⟨c :: cs, cfgs⟩ : Registry).closeEach (c.name :: ns) =
      let rest := (⟨cs, cfgs⟩ : Registry).closeEach ns
      { rest with calls := c.releases ++ rest.calls } := by
  rw [closeEach, find?_cons_name, erase_cons_name]

/-- The loop invariant: after `k` turns the connections still open are the snapshot's from
position `k` on, which are the names left to visit, and the calls made are those that close the
first `k` connections, in order. -/
theorem closeEach_after_turns (cs : List Connection) (cfgs : List Config) (k : Nat) :
    (⟨cs, cfgs⟩ : Registry).closeEach (cs.map (·.name)) =
      let rest := (⟨cs.drop k, cfgs⟩ : Registry).closeEach ((cs.drop k).map (·.name))
      { rest with calls := (cs.take k).flatMap Connection.releases ++ rest.calls } := by
  -- induction on the snapshot, each turn taking the first connection still open
  induction cs generalizing k with
  | nil => simp [closeEach]
  | cons c cs ih =>
    cases k with
    | zero => simp
    | succ k =>
      rw [List.map_cons, closeEach_cons_name, ih k]
      simp

theorem closeConnections_eq (m : Registry) :
    m.closeConnections = ⟨m.closeAll, m.connections.flatMap Connection.releases, .ok ()⟩ := by
  have h := closeEach_after_turns m.connections m.configs m.connections.length
  rw [List.drop_length, List.take_length] at h
  simp only [List.map_nil, closeEach, List.append_nil] at h
  exact h

section

variable [Toolkit] [Validator]

theorem step_closeAll (m : Registry) : m.step .closeAll = (m.closeAll, .ok .done) := by
  simp only [step, closeConnections_eq]
  rfl

theorem step_exit (m : Registry) : m.step .exit = (m.closeAll, .ok .done) := by
  simp only [step, closeConnections_eq]
  rfl

theorem withScope_eq {α : Type} (m : Registry) (body : Registry → Registry × Except Fault α) :
    m.withScope body = ((body m).1.closeAll, some <$> (body m).2) := by
  rcases hb : body m with ⟨m₁, r⟩
  cases r <;> simp only [withScope, hb, step_exit] <;> rfl

end

end Registry

section

variable [Toolkit] [Validator]

/-- Closing every connection runs a loop over a snapshot of the open names. After its first `k`
turns, the connections still open are the snapshot's from position `k` on, exactly the names left
to visit, and the calls made are, connection after connection in insertion order, disposing the
engine, closing the sessions and removing the current session; no key is ever missing. The loop ends with no
connection open and the settings log as it was. Leaving a scope runs the loop and answers
nothing, a false value; so a `with` block ends with no connection open and passes on exactly what
its body gave, its value or its exception. -/
theorem closing_follows_snapshot (m : Registry) :
    (∀ k, m.closeConnections =
        let rest := (⟨m.connections.drop k, m.configs⟩ : Registry).closeEach (m.names.drop k)
        { rest with calls := (m.connections.take k).flatMap Connection.releases ++ rest.calls }) ∧
      m.closeConnections = ⟨⟨[], m.configs⟩, m.connections.flatMap Connection.releases, .ok ()⟩ ∧
      m.step .exit = (⟨[], m.configs⟩, .ok .done) ∧ Reply.done.isTrue = false ∧
      ∀ {α : Type} (body : Registry → Registry × Except Fault α),
        m.withScope body = (⟨[], (body m).1.configs⟩, some <$> (body m).2) :=
  ⟨fun k => by rw [Registry.names, ← List.map_drop]; exact Registry.closeEach_after_turns _ _ k,
    Registry.closeConnections_eq m,
    Registry.step_exit m, rfl, fun body => Registry.withScope_eq m body⟩

end

end DbConnections
