import DbConnections.Config.Check
import DbConnections.Proofs.Except

namespace DbConnections

namespace Config

theorem readName_length {v : Option Value} {s : String} (h : readName v = .ok s) :
    nameMin ≤ s.length ∧ s.length ≤ nameMax := by
  obtain ⟨t, _, hs⟩ := Except.bind_eq_ok.mp h
  split at hs
  · cases hs
  · split at hs
    · cases hs
    · cases hs
      omega

theorem readPort_bounds {v : Option Value} {p : Option Nat} (h : readPort v = .ok p) :
    ∀ n ∈ p, 0 < n ∧ n < portBound := by
  intro n hn
  unfold readPort at h
  split at h
  · cases h
    simp at hn
  · cases h
    simp at hn
  · obtain ⟨i, _, hi⟩ := Except.bind_eq_ok.mp h
    split at hi
    · cases hi
    · split at hi
      · cases hi
      · cases hi
        cases hn
        omega

theorem readPoolSize_pos {v : Option Value} {n : Nat} (h : readPoolSize v = .ok n) : 0 < n := by
  unfold readPoolSize at h
  split at h
  · cases h
    decide
  · cases h
  · obtain ⟨i, _, hi⟩ := Except.bind_eq_ok.mp h
    split at hi
    · cases hi
    · cases hi
      omega

/-- Accepted settings hold, field by field, what each field's reader gave for the value under
its key, and no integer field held an infinite number. -/
theorem ofFields_eq_ok {fields : List (String × Value)} {c : Config} (h : ofFields fields = .ok c) :
    holdsInfinity fields = false ∧ readName (fields.lookup Field.name.key) = .ok c.name ∧
      requiredText (fields.lookup Field.dialect.key) = .ok c.dialect ∧
      requiredText (fields.lookup Field.database.key) = .ok c.database ∧
      optionalText (fields.lookup Field.username.key) = .ok c.username ∧
      optionalText (fields.lookup Field.password.key) = .ok c.password ∧
      optionalText (fields.lookup Field.host.key) = .ok c.host ∧
      readPort (fields.lookup Field.port.key) = .ok c.port ∧
      readPoolSize (fields.lookup Field.poolSize.key) = .ok c.poolSize ∧
      readMaxOverflow (fields.lookup Field.maxOverflow.key) = .ok c.maxOverflow := by
  unfold ofFields at h
  split at h
  · cases h
  · next finite =>
    -- the readers sit under a local abbreviation for the lookup, which `split` cannot see through
    dsimp only at h
    split at h
    · next hname hdialect hdatabase husername hpassword hhost hport hpool hoverflow =>
      cases h
      exact ⟨by simpa using finite, hname, hdialect, hdatabase, husername, hpassword, hhost, hport,
        hpool, hoverflow⟩
    · cases h

theorem ofFields_valid {fields : List (String × Value)} {c : Config} (h : ofFields fields = .ok c) :
    c.Valid := by
  obtain ⟨_, hname, _, _, _, _, _, hport, hpool, _⟩ := ofFields_eq_ok h
  have hlength := readName_length hname
  exact ⟨hlength.1, hlength.2, readPort_bounds hport, readPoolSize_pos hpool⟩

end Config

end DbConnections
