import DbConnections.Proofs.Coherence

namespace DbConnections

namespace Value

theorem scalarText?_eq_none_iff {n : Value} : n.scalarText? = none ↔ n.isHashable = false := by
  cases n <;> simp [scalarText?, isHashable]

end Value

namespace Registry

variable {m : Registry} {n : Value}

theorem lookup_text {s : String} :
    m.lookup (.text s) = match m.find? s with
      | some c => .ok c
      | none => .error (.notFound s) := rfl

theorem mem_names_of_find? {s : String} {conn : Connection} (h : m.find? s = some conn) :
    s ∈ m.names := by
  have hname : conn.name = s := by simpa using List.find?_some h
  rw [← hname]
  exact List.mem_map_of_mem (List.mem_of_find?_eq_some h)

theorem lookup_eq_ok_iff {conn : Connection} :
    m.lookup n = .ok conn ↔ ∃ s, n = .text s ∧ m.find? s = some conn := by
  cases n
  case text s =>
    rw [lookup_text]
    cases hf : m.find? s <;> simp [hf]
  -- a name that is not text is never found
  all_goals simp [lookup, Value.scalarText?]

theorem lookup_eq_error_iff {f : Fault} :
    m.lookup n = .error f ↔
      (n.isHashable = false ∧ f = .unhashable n.typeName) ∨
        (n.isHashable = true ∧ (∀ s, n = .text s → s ∉ m.names) ∧
          ∃ t, n.scalarText? = some t ∧ f = .notFound t) := by
  cases n
  case text s =>
    rw [lookup_text]
    cases hf : m.find? s with
    | none => simp [Value.isHashable, Value.scalarText?, ← find?_eq_none_iff, hf, eq_comm]
    | some conn => simp [Value.isHashable, mem_names_of_find? hf]
  all_goals
    unfold lookup
    simp [Value.scalarText?, Value.isHashable, eq_comm]

theorem engine_eq_map : m.engine n = (·.engine) <$> m.lookup n := rfl

theorem session_eq_map : m.session n = (fun c => Session.mk c.engine) <$> m.lookup n := rfl

theorem engine_eq_ok_iff {e : Engine} :
    m.engine n = .ok e ↔ ∃ s conn, n = .text s ∧ m.find? s = some conn ∧ e = conn.engine := by
  simp only [engine_eq_map, Except.map_eq_ok, lookup_eq_ok_iff]
  constructor
  · rintro ⟨conn, ⟨s, rfl, hf⟩, rfl⟩
    exact ⟨s, conn, rfl, hf, rfl⟩
  · rintro ⟨s, conn, rfl, hf, rfl⟩
    exact ⟨conn, ⟨s, rfl, hf⟩, rfl⟩

theorem engine_eq_error_iff {f : Fault} : m.engine n = .error f ↔ m.lookup n = .error f := by
  simp [engine_eq_map]

theorem engine_isOk_iff : (∃ e, m.engine n = .ok e) ↔ ∃ s, n = .text s ∧ s ∈ m.names := by
  constructor
  · rintro ⟨e, he⟩
    obtain ⟨s, conn, rfl, hf, -⟩ := engine_eq_ok_iff.mp he
    exact ⟨s, rfl, mem_names_of_find? hf⟩
  · rintro ⟨s, rfl, hs⟩
    cases hf : m.find? s with
    | none => exact absurd hs (find?_eq_none_iff.mp hf)
    | some conn => exact ⟨conn.engine, engine_text_of_find? hf⟩

theorem session_eq_ok_iff {ss : Session} :
    m.session n = .ok ss ↔ ∃ e, m.engine n = .ok e ∧ ss = ⟨e⟩ := by
  simp only [session_eq_map, engine_eq_map, Except.map_eq_ok]
  constructor
  · rintro ⟨conn, hl, rfl⟩
    exact ⟨conn.engine, ⟨conn, hl, rfl⟩, rfl⟩
  · rintro ⟨e, ⟨conn, hl, rfl⟩, rfl⟩
    exact ⟨conn, hl, rfl⟩

theorem session_eq_error_iff {f : Fault} : m.session n = .error f ↔ m.engine n = .error f := by
  simp [session_eq_map, engine_eq_map]

section

variable [Toolkit]

namespace Coherent

variable {k : Nat}

/-- An open connection is found by its name with the engine made from the log entry it was
added for, that entry's position being the engine's serial. -/
theorem find?_eq_some_iff (h : m.Coherent k) {s : String} {conn : Connection} :
    m.find? s = some conn ↔ ∃ i c e, (m.configs.drop k)[i]? = some c ∧ c.name = s ∧
      Engine.create (k + i) (Url.ofConfig c) = .ok e ∧ conn = ⟨s, e⟩ := by
  constructor
  · intro hf
    have hmem : s ∈ (m.configs.drop k).map (·.name) := h.names_eq ▸ mem_names_of_find? hf
    obtain ⟨c, hc, rfl⟩ := List.mem_map.mp hmem
    obtain ⟨i, hi⟩ := List.mem_iff_getElem?.mp hc
    obtain ⟨e, he, hfe⟩ := h.find_eq i c hi
    refine ⟨i, c, e, hi, rfl, he, ?_⟩
    rw [hf] at hfe
    exact Option.some.inj hfe
  · rintro ⟨i, c, e, hi, rfl, he, rfl⟩
    obtain ⟨e', he', hf⟩ := h.find_eq i c hi
    -- two engines made at one position from one entry are one engine
    rw [he] at he'
    cases he'
    exact hf

theorem engine_text_eq_ok_iff (h : m.Coherent k) {s : String} {e : Engine} :
    m.engine (.text s) = .ok e ↔ ∃ i c, (m.configs.drop k)[i]? = some c ∧ c.name = s ∧
      Engine.create (k + i) (Url.ofConfig c) = .ok e := by
  rw [engine_eq_ok_iff]
  constructor
  · rintro ⟨s', conn, hs, hf, rfl⟩
    cases hs
    obtain ⟨i, c, e, hi, hc, he, rfl⟩ := (h.find?_eq_some_iff).mp hf
    exact ⟨i, c, hi, hc, he⟩
  · rintro ⟨i, c, hi, hc, he⟩
    exact ⟨s, ⟨s, e⟩, rfl, (h.find?_eq_some_iff).mpr ⟨i, c, e, hi, hc, he, rfl⟩, rfl⟩

theorem engine_serial (h : m.Coherent k) {s : String} {e : Engine}
    (he : m.engine (.text s) = .ok e) :
    ∃ c, k ≤ e.serial ∧ m.configs[e.serial]? = some c ∧ c.name = s := by
  obtain ⟨i, c, hi, hc, hcreate⟩ := (h.engine_text_eq_ok_iff).mp he
  rw [List.getElem?_drop] at hi
  rw [Engine.create_serial hcreate]
  exact ⟨c, Nat.le_add_right k i, hi, hc⟩

/-- The engine a name finds is made from the log entry, at or after `k`, of the open connection
whose name is the name's text. -/
theorem engine_eq_ok_iff_entry (h : m.Coherent k) {e : Engine} :
    m.engine n = .ok e ↔ ∃ s i c, n = .text s ∧ (m.configs.drop k)[i]? = some c ∧
      c.name = s ∧ Engine.create (k + i) (Url.ofConfig c) = .ok e := by
  constructor
  · intro he
    obtain ⟨s, conn, rfl, -, -⟩ := engine_eq_ok_iff.mp he
    obtain ⟨i, c, hi, hname, hcreate⟩ := h.engine_text_eq_ok_iff.mp he
    exact ⟨s, i, c, rfl, hi, hname, hcreate⟩
  · rintro ⟨s, i, c, rfl, hi, hname, hcreate⟩
    exact h.engine_text_eq_ok_iff.mpr ⟨i, c, hi, hname, hcreate⟩

end Coherent

end

section

variable [Toolkit] [Validator]

/-- Along any requests made of a registry created from a collection of settings, a name finds
an engine exactly when it is the text of an open connection's name; a byte string, a number or a
truth value never does, whatever its text. The engine found is the one made from the log entry
of that connection, at that entry's position, so its URL is the settings' URL. A list or an
object is refused as unhashable; any other name is not found, and the message shows its text. A
session is found under exactly the same conditions, with the same faults, and is bound to the
engine found. -/
theorem lookup_finds_open_names {L : Value} {m : Registry} (h : Registry.ofValue L = .ok m)
    (steps : List Step) (n : Value) :
    let m' := m.exec steps
    let k := (m.lastClose steps).getD 0
    (∀ e, m'.engine n = .ok e ↔ ∃ s i c, n = .text s ∧ (m'.configs.drop k)[i]? = some c ∧
      c.name = s ∧ Engine.create (k + i) (Url.ofConfig c) = .ok e ∧ e.url = Url.ofConfig c) ∧
    ((∃ e, m'.engine n = .ok e) ↔ ∃ s, n = .text s ∧ s ∈ m'.names) ∧
    (∀ f, m'.engine n = .error f ↔
      (n.isHashable = false ∧ f = .unhashable n.typeName) ∨
        (n.isHashable = true ∧ (∀ s, n = .text s → s ∉ m'.names) ∧
          ∃ t, n.scalarText? = some t ∧ f = .notFound t ∧
            f.message = "⚠️ Conexão '" ++ t ++ "' não encontrada.")) ∧
    (∀ ss, m'.session n = .ok ss ↔ ∃ e, m'.engine n = .ok e ∧ ss = ⟨e⟩) ∧
    (∀ f, m'.session n = .error f ↔ m'.engine n = .error f) := by
  intro m' k
  have hc : m'.Coherent k := (Coherent.ofValue h).exec steps
  refine ⟨fun e => ?_, engine_isOk_iff, fun f => ?_, fun ss => session_eq_ok_iff,
    fun f => session_eq_error_iff⟩
  · -- the engine made from an entry carries that entry's URL
    rw [hc.engine_eq_ok_iff_entry]
    constructor
    · rintro ⟨s, i, c, hs, hi, hname, hcreate⟩
      exact ⟨s, i, c, hs, hi, hname, hcreate, Engine.create_url hcreate⟩
    · rintro ⟨s, i, c, hs, hi, hname, hcreate, -⟩
      exact ⟨s, i, c, hs, hi, hname, hcreate⟩
  · rw [engine_eq_error_iff, lookup_eq_error_iff]
    constructor
    · rintro (hunhash | ⟨hhash, hnot, t, ht, rfl⟩)
      · exact .inl hunhash
      · exact .inr ⟨hhash, hnot, t, ht, rfl, rfl⟩
    · rintro (hunhash | ⟨hhash, hnot, t, ht, rfl, -⟩)
      · exact .inl hunhash
      · exact .inr ⟨hhash, hnot, t, ht, rfl⟩

end

theorem lookup_after_reopen :
    Registry.ofValue (.list []) = .ok Registry.empty ∧
      ((Registry.empty.exec
        [.add (.object [("name", .text "abc"), ("dialect", .text "sqlite"), ("database", .text "")]),
          .closeAll,
          .add (.object [("name", .text "abc"), ("dialect", .text "sqlite"), ("database", .text "")])]
        ).engine (.text "abc")).isOk :=
  ⟨rfl, by
    obtain ⟨e, he⟩ := ((lookup_finds_open_names (rfl : Registry.ofValue (.list []) = .ok Registry.empty)
      [.add (.object [("name", .text "abc"), ("dialect", .text "sqlite"), ("database", .text "")]),
        .closeAll,
        .add (.object [("name", .text "abc"), ("dialect", .text "sqlite"), ("database", .text "")])]
      (.text "abc")).2.1).mpr ⟨"abc", rfl, by decide⟩
    rw [he]
    rfl⟩

end Registry

end DbConnections
