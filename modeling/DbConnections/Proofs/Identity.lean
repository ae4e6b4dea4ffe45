import DbConnections.Proofs.Lookup

namespace DbConnections

namespace Registry

section

variable [Toolkit] [Validator] {m : Registry}

theorem step_configs_grow (m : Registry) (s : Step) : m.configs <+: (m.step s).1.configs := by
  rcases step_cases m s with ⟨-, heq⟩ | ⟨v, c, rfl, -, ha⟩ | ⟨-, heq⟩
  · exact ⟨[], by rw [heq, List.append_nil]⟩
  · obtain ⟨-, -, e, -, hm'⟩ := add_eq_ok_iff.mp ha
    rw [hm']
    exact List.prefix_append _ _
  · exact ⟨[], by rw [heq, closeAll_configs, List.append_nil]⟩

theorem exec_configs_grow (m : Registry) (steps : List Step) :
    m.configs <+: (m.exec steps).configs := by
  induction steps generalizing m with
  | nil => exact List.prefix_refl _
  | cons s rest ih => exact (step_configs_grow m s).trans (ih _)

theorem step_connections_grow {s : Step} (hs : s.closes = false) :
    m.connections <+: (m.step s).1.connections := by
  rcases step_cases m s with ⟨-, heq⟩ | ⟨v, c, rfl, -, ha⟩ | ⟨hcl, -⟩
  · exact ⟨[], by rw [heq, List.append_nil]⟩
  · obtain ⟨-, -, e, -, hm'⟩ := add_eq_ok_iff.mp ha
    rw [hm']
    exact List.prefix_append _ _
  · rw [hs] at hcl
    cases hcl

theorem exec_connections_grow {steps : List Step} (h : ∀ s ∈ steps, s.closes = false) :
    m.connections <+: (m.exec steps).connections := by
  induction steps generalizing m with
  | nil => exact List.prefix_refl _
  | cons s rest ih =>
    have hs := h s List.mem_cons_self
    exact (step_connections_grow hs).trans (ih fun t ht => h t (List.mem_cons_of_mem s ht))

theorem lastClose_eq_none_iff {steps : List Step} :
    m.lastClose steps = none ↔ ∀ s ∈ steps, s.closes = false := by
  induction steps generalizing m with
  | nil => simp [lastClose]
  | cons s rest ih =>
    cases hs : s.closes <;> simp [lastClose, ih, hs]

theorem length_le_lastClose {steps : List Step} {k : Nat} (h : m.lastClose steps = some k) :
    m.configs.length ≤ k := by
  induction steps generalizing m with
  | nil => simp [lastClose] at h
  | cons s rest ih =>
    rw [lastClose, Option.or_eq_some_iff] at h
    rcases h with hrest | ⟨-, hthis⟩
    · exact Nat.le_trans (step_configs_grow m s).length_le (ih hrest)
    · split at hthis
      · cases hthis
        exact Nat.le_refl _
      · cases hthis

theorem Coherent.length_le_serial_of_close {k : Nat} (hk : m.Coherent k) {steps : List Step}
    {s : Step} (hs : s ∈ steps) (hcl : s.closes = true) {name : String} {e : Engine}
    (he : (m.exec steps).engine (.text name) = .ok e) : m.configs.length ≤ e.serial := by
  cases hlast : m.lastClose steps with
  | none =>
    have := lastClose_eq_none_iff.mp hlast s hs
    rw [hcl] at this
    cases this
  | some k' =>
    have hc' : (m.exec steps).Coherent k' := by simpa [hlast] using hk.exec steps
    obtain ⟨-, hle, -, -⟩ := hc'.engine_serial he
    exact Nat.le_trans (length_le_lastClose hlast) hle

/-- Two lookups, the second after further requests: they give one engine exactly when they are
made under one name and none of the requests between them closes the connections. -/
theorem Coherent.engine_eq_engine_iff {k : Nat} (hk : m.Coherent k) {between : List Step}
    {n n' : Value} {e₁ e₂ : Engine} (h₁ : m.engine n = .ok e₁)
    (h₂ : (m.exec between).engine n' = .ok e₂) :
    e₁ = e₂ ↔ n = n' ∧ ∀ s ∈ between, s.closes = false := by
  obtain ⟨name, conn₁, rfl, hf₁, rfl⟩ := engine_eq_ok_iff.mp h₁
  obtain ⟨name', conn₂, rfl, hf₂, rfl⟩ := engine_eq_ok_iff.mp h₂
  obtain ⟨c₁, -, hget₁, hname₁⟩ := hk.engine_serial h₁
  obtain ⟨c₂, -, hget₂, hname₂⟩ := (hk.exec between).engine_serial h₂
  have hlt : conn₁.engine.serial < m.configs.length := (List.getElem?_eq_some_iff.mp hget₁).1
  constructor
  · intro heq
    -- the log entry at the common serial is the same before and after, and names both
    have hkept : (m.exec between).configs[conn₁.engine.serial]? = some c₁ := by
      obtain ⟨rest, hrest⟩ := exec_configs_grow m between
      rw [← hrest, List.getElem?_append_left hlt, hget₁]
    rw [heq, hget₂, Option.some.injEq] at hkept
    subst hkept
    refine ⟨by rw [← hname₁, ← hname₂], fun s hs => ?_⟩
    cases hcl : s.closes
    · rfl
    · have hnew := hk.length_le_serial_of_close hs hcl h₂
      rw [← heq] at hnew
      omega
  · rintro ⟨hn, hopen⟩
    cases hn
    -- the open connections only grew, so the name still finds its first connection
    have hf : (m.exec between).find? name = some conn₁ :=
      (exec_connections_grow hopen).find?_eq_some hf₁
    rw [hf, Option.some.injEq] at hf₂
    rw [hf₂]

/-- Along any requests made of a registry created from a collection of settings, two lookups,
the second after the requests `between`, give one engine exactly when they are made under one
name and none of the requests between closes the connections; two sessions likewise. Engines and
sessions of different names, or of one name on either side of a close, differ. A session is
bound to the engine its name finds at that moment. -/
theorem objects_same_iff_no_close_between {L : Value} {m : Registry}
    (h : Registry.ofValue L = .ok m) (before between : List Step) {n n' : Value} :
    let m₁ := m.exec before
    let m₂ := m₁.exec between
    (∀ e₁ e₂, m₁.engine n = .ok e₁ → m₂.engine n' = .ok e₂ →
      (e₁ = e₂ ↔ n = n' ∧ ∀ s ∈ between, s.closes = false)) ∧
    (∀ s₁ s₂, m₁.session n = .ok s₁ → m₂.session n' = .ok s₂ →
      (s₁ = s₂ ↔ n = n' ∧ ∀ s ∈ between, s.closes = false)) ∧
    (∀ ss, m₁.session n = .ok ss → m₁.engine n = .ok ss.engine) := by
  intro m₁ m₂
  have hk : m₁.Coherent ((m.lastClose before).getD 0) := (Coherent.ofValue h).exec before
  refine ⟨fun e₁ e₂ h₁ h₂ => hk.engine_eq_engine_iff h₁ h₂, fun s₁ s₂ h₁ h₂ => ?_, fun ss hs => ?_⟩
  · obtain ⟨e₁, he₁, rfl⟩ := session_eq_ok_iff.mp h₁
    obtain ⟨e₂, he₂, rfl⟩ := session_eq_ok_iff.mp h₂
    rw [Session.mk.injEq]
    exact hk.engine_eq_engine_iff he₁ he₂
  · obtain ⟨e, he, rfl⟩ := session_eq_ok_iff.mp hs
    exact he

end

theorem reopened_name_gets_new_engine :
    let add : Step :=
      .add (.object [("name", .text "abc"), ("dialect", .text "sqlite"), ("database", .text "")])
    Registry.ofValue (.list []) = .ok Registry.empty ∧
      ∃ e₁ e₂, (Registry.empty.exec [add]).engine (.text "abc") = .ok e₁ ∧
        ((Registry.empty.exec [add]).exec [.closeAll, add]).engine (.text "abc") = .ok e₂ ∧
        e₁ ≠ e₂ := by
  intro add
  have h₁ : (Registry.empty.exec [add]).engine (.text "abc") =
      .ok ⟨0, ⟨"sqlite", none, none, none, none, ""⟩, ⟨"sqlite", "pysqlite"⟩⟩ := rfl
  have h₂ : ((Registry.empty.exec [add]).exec [.closeAll, add]).engine (.text "abc") =
      .ok ⟨1, ⟨"sqlite", none, none, none, none, ""⟩, ⟨"sqlite", "pysqlite"⟩⟩ := rfl
  refine ⟨rfl, _, _, h₁, h₂, fun heq => ?_⟩
  have hsame := ((objects_same_iff_no_close_between
    (rfl : Registry.ofValue (.list []) = .ok Registry.empty) [add] [.closeAll, add]).1 _ _ h₁ h₂).mp heq
  exact absurd (hsame.2 .closeAll List.mem_cons_self) (by decide)

end Registry

end DbConnections
