import DbConnections.Proofs.Checked
import DbConnections.Proofs.Start

namespace DbConnections

namespace Registry

theorem find?_append_connection {m : Registry} {conn : Connection} {cs : List Config} {s : String} :
    (⟨m.connections ++ [conn], cs⟩ : Registry).find? s =
      (m.find? s).or (if conn.name = s then some conn else none) := by
  by_cases hs : conn.name = s <;> simp [find?, List.find?_append, hs]

theorem find?_eq_none_iff {m : Registry} {s : String} : m.find? s = none ↔ s ∉ m.names := by
  simp [find?, names, List.find?_eq_none]

theorem engine_text_of_find? {m : Registry} {s : String} {conn : Connection}
    (h : m.find? s = some conn) : m.engine (.text s) = .ok conn.engine := by
  simp [engine, lookup, Value.scalarText?, h, Except.map]

theorem session_text_of_find? {m : Registry} {s : String} {conn : Connection}
    (h : m.find? s = some conn) : m.session (.text s) = .ok ⟨conn.engine⟩ := by
  simp [session, lookup, Value.scalarText?, h, Except.map]

section

variable [Toolkit]

/-- The open connections are those of the log's entries from position `k` on, in order, each
found by its name with the engine made from its entry's URL as the engine at its position in the
log; names are distinct and every entry of the log is valid. -/
structure Coherent (m : Registry) (k : Nat) : Prop where
  le_length : k ≤ m.configs.length
  names_eq : m.names = (m.configs.drop k).map (·.name)
  nodup : m.names.Nodup
  find_eq : ∀ i c, (m.configs.drop k)[i]? = some c →
    ∃ e, Engine.create (k + i) (Url.ofConfig c) = .ok e ∧ m.find? c.name = some ⟨c.name, e⟩
  valid : ∀ c ∈ m.configs, c.Valid

namespace Coherent

variable {m m' : Registry} {k : Nat}

theorem empty : Registry.empty.Coherent 0 where
  le_length := Nat.le_refl 0
  names_eq := rfl
  nodup := List.nodup_nil
  find_eq := by simp [Registry.empty]
  valid := by simp [Registry.empty]

theorem closeAll (h : m.Coherent k) : m.closeAll.Coherent m.configs.length where
  le_length := Nat.le_refl _
  names_eq := by simp
  nodup := by simp
  find_eq := by simp
  valid := by simpa using h.valid

theorem add {c : Config} (h : m.Coherent k) (hc : c.Valid) (ha : m.add c = .ok m') :
    m'.Coherent k := by
  obtain ⟨hn, _, e, he, rfl⟩ := add_eq_ok_iff.mp ha
  have hdrop : (m.configs ++ [c]).drop k = m.configs.drop k ++ [c] :=
    List.drop_append_of_le_length h.le_length
  have hnames : (⟨m.connections ++ [⟨c.name, e⟩], m.configs ++ [c]⟩ : Registry).names =
      m.names ++ [c.name] := by
    simp [names]
  constructor
  · simp only [List.length_append, List.length_singleton]
    have := h.le_length
    omega
  · rw [hnames, hdrop, List.map_append, ← h.names_eq]
    rfl
  · rw [hnames, List.nodup_append]
    refine ⟨h.nodup, by simp, fun a ha b hb => ?_⟩
    rw [List.mem_singleton] at hb
    subst hb
    exact fun heq => hn (heq ▸ ha)
  · intro i c' hi
    rw [hdrop] at hi
    rcases Nat.lt_or_ge i (m.configs.drop k).length with hlt | hge
    · -- an entry already open keeps its engine: the name is found before the new connection
      rw [List.getElem?_append_left hlt] at hi
      obtain ⟨e', he', hf⟩ := h.find_eq i c' hi
      exact ⟨e', he', by simp [find?_append_connection, hf]⟩
    · -- the new entry is the last of the log, made as the engine at the log's old length
      have hlast : i = (m.configs.drop k).length := by
        have := (List.getElem?_eq_some_iff.mp hi).1
        simp only [List.length_append, List.length_singleton] at this
        omega
      subst hlast
      rw [List.getElem?_concat_length, Option.some.injEq] at hi
      subst hi
      have hserial : k + (m.configs.drop k).length = m.configs.length := by
        have := h.le_length
        simp only [List.length_drop]
        omega
      have hfree : m.find? c.name = none := find?_eq_none_iff.mpr hn
      refine ⟨e, by rw [hserial]; exact he, ?_⟩
      simp [find?_append_connection, hfree]
  · intro c' hc'
    rcases List.mem_append.mp hc' with hold | hnew
    · exact h.valid c' hold
    · rw [List.mem_singleton] at hnew
      exact hnew ▸ hc

end Coherent

end

section

variable [Toolkit] [Validator]

/-- The registry after answering requests in turn. -/
def exec (m : Registry) : List Step → Registry
  | [] => m
  | s :: rest => exec (m.step s).1 rest

/-- The length of the settings log when requests last closed every connection, if they did. -/
def lastClose (m : Registry) : List Step → Option Nat
  | [] => none
  | s :: rest => (lastClose (m.step s).1 rest).or (if s.closes then some m.configs.length else none)

namespace Coherent

variable {m m' : Registry} {k : Nat}

theorem step (h : m.Coherent k) (s : Step) :
    (m.step s).1.Coherent (if s.closes then m.configs.length else k) := by
  rcases step_cases m s with ⟨hs, heq⟩ | ⟨v, c, rfl, hc, ha⟩ | ⟨hs, heq⟩
  · rw [heq, hs]
    exact h
  · exact h.add (Config.ofValue_valid hc) ha
  · rw [heq, if_pos hs]
    exact h.closeAll

theorem exec (h : m.Coherent k) (steps : List Step) :
    (m.exec steps).Coherent ((m.lastClose steps).getD k) := by
  induction steps generalizing m k with
  | nil => exact h
  | cons s rest ih =>
    have hmark : (if s.closes then some m.configs.length else none).getD k =
        if s.closes then m.configs.length else k := by
      split <;> rfl
    rw [Registry.exec, lastClose, Option.getD_or, hmark]
    exact ih (h.step s)

theorem ofValue {L : Value} (h : Registry.ofValue L = .ok m) : m.Coherent 0 := by
  obtain ⟨xs, _, hfold⟩ := Except.bind_eq_ok.mp h
  refine List.foldlM_except_induction (fun m => m.Coherent 0) ?_ Coherent.empty hfold
  intro m v m' hm hv
  rw [addAtStart, Except.mapError_eq_ok] at hv
  obtain ⟨c, hc, ha⟩ := addValue_eq_ok_iff.mp hv
  exact hm.add (Config.ofValue_valid hc) ha

end Coherent

/-- Along any requests made of a registry created from a collection of settings, the open
connections are, in order, those of the settings logged since every connection was last closed
(the whole log if never): their names are distinct, each name's engine is made from its settings'
URL as the engine at the settings' position in the log, and its session is bound to that engine.
Every logged setting, of an open connection or not, is valid. -/
theorem exec_connections_follow_log {L : Value} {m : Registry} (h : Registry.ofValue L = .ok m)
    (steps : List Step) :
    let m' := m.exec steps
    let k := (m.lastClose steps).getD 0
    m'.names = (m'.configs.drop k).map (·.name) ∧ m'.names.Nodup ∧
      (∀ i c, (m'.configs.drop k)[i]? = some c →
        ∃ e, Engine.create (k + i) (Url.ofConfig c) = .ok e ∧ e.url = Url.ofConfig c ∧
          m'.engine (.text c.name) = .ok e ∧ m'.session (.text c.name) = .ok ⟨e⟩) ∧
      ∀ c ∈ m'.configs, c.Valid := by
  intro m' k
  have hc : m'.Coherent k := (Coherent.ofValue h).exec steps
  refine ⟨hc.names_eq, hc.nodup, fun i c hi => ?_, hc.valid⟩
  obtain ⟨e, he, hf⟩ := hc.find_eq i c hi
  exact ⟨e, he, Engine.create_url he, engine_text_of_find? hf, session_text_of_find? hf⟩

end

theorem reopened_names_nodup :
    Registry.ofValue (.list []) = .ok Registry.empty ∧
      (Registry.empty.exec
        [.add (.object [("name", .text "abc"), ("dialect", .text "sqlite"), ("database", .text "")]),
          .closeAll,
          .add (.object [("name", .text "abc"), ("dialect", .text "sqlite"), ("database", .text "")])]
        ).names.Nodup :=
  ⟨rfl, (exec_connections_follow_log (rfl : Registry.ofValue (.list []) = .ok Registry.empty)
    [.add (.object [("name", .text "abc"), ("dialect", .text "sqlite"), ("database", .text "")]),
      .closeAll,
      .add (.object [("name", .text "abc"), ("dialect", .text "sqlite"), ("database", .text "")])]
    ).2.1⟩

end Registry

end DbConnections
