import DbConnections.Proofs.Checked
import DbConnections.Validator

namespace DbConnections

namespace Config

theorem optionalValue_injective : Function.Injective optionalValue := by
  intro a b h
  cases a <;> cases b <;> simp_all [optionalValue]

theorem portValue_injective :
    Function.Injective fun p : Option Nat => (p.map fun n => Value.int n).getD .null := by
  intro a b h
  cases a with
  | none =>
    cases b with
    | none => rfl
    | some q => simp at h
  | some p =>
    cases b with
    | none => simp at h
    | some q =>
      have hpq : (p : Int) = q := Value.int.inj h
      rw [show p = q by omega]

theorem text_injective : Function.Injective Value.text := fun _ _ h => Value.text.inj h

theorem natValue_injective : Function.Injective fun n : Nat => Value.int n := by
  intro a b h
  simp only [Value.int.injEq] at h
  omega

variable {v : Value} {o : Option Value}

theorem requiredText_some (hv : v ≠ .null) : requiredText (some v) = v.toText := by
  cases v
  case null => exact absurd rfl hv
  all_goals rfl

theorem optionalText_some (hv : v ≠ .null) : optionalText (some v) = some <$> v.toText := by
  cases v
  case null => exact absurd rfl hv
  all_goals rfl

@[simp]
theorem issueOf_ok {α : Type} {f : Field} {a : α} : issueOf f (.ok a : Except Issue α) = none :=
  rfl

@[simp]
theorem issueOf_error {α : Type} {f : Field} {i : Issue} :
    issueOf f (.error i : Except Issue α) = some (f, i) := rfl

theorem issueOf_map {α β : Type} {f : Field} {g : α → β} {x : Except Issue α} :
    issueOf f (g <$> x) = issueOf f x := by
  cases x <;> rfl

theorem issueOf_eq_none {α : Type} {f : Field} {x : Except Issue α} :
    issueOf f x = none ↔ ∃ a, x = .ok a := by
  cases x <;> simp [issueOf]

theorem read_name : Field.name.read o = Value.text <$> readName o := by
  rcases o with _ | v
  · rfl
  · by_cases hv : v = .null
    · subst hv
      rfl
    · rw [Field.read_some hv, readName, requiredText_some hv, Field.coerce_text rfl]
      cases v.toText with
      | error i => rfl
      | ok s =>
        by_cases hshort : s.length < nameMin <;> by_cases hlong : nameMax < s.length <;>
          simp [Field.bounds, Option.filter_some, hshort, hlong]

theorem read_requiredText {f : Field} (hd : f.default? = none) (ho : f.optional = false)
    (hi : f.integral = false) (hb : f.bounds = ⟨none, none, none, none, none⟩) :
    f.read o = Value.text <$> requiredText o := by
  rcases o with _ | v
  · simp [Field.read, hd, requiredText]
  · by_cases hv : v = .null
    · subst hv
      simp [Field.read, ho, requiredText]
    · rw [Field.read_some hv, requiredText_some hv, Field.coerce_text hi]
      cases v.toText with
      | error i => rfl
      | ok s => simp [hb]

theorem read_optionalText {f : Field} (hd : f.default? = some .null) (ho : f.optional = true)
    (hi : f.integral = false) (hb : f.bounds = ⟨none, none, none, none, none⟩) :
    f.read o = optionalValue <$> optionalText o := by
  rcases o with _ | v
  · simp [Field.read, hd, optionalText, optionalValue]
  · by_cases hv : v = .null
    · subst hv
      simp [Field.read, ho, optionalText, optionalValue]
    · rw [Field.read_some hv, optionalText_some hv, Field.coerce_text hi]
      cases v.toText with
      | error i => rfl
      | ok s => simp [hb, optionalValue]

theorem read_port :
    Field.port.read o = (fun p => (p.map fun n => Value.int n).getD .null) <$> readPort o := by
  rcases o with _ | v
  · rfl
  · by_cases hv : v = .null
    · subst hv
      rfl
    · rw [Field.read_some hv, Field.coerce_integer rfl, readPort.eq_3 v hv]
      cases v.toInteger with
      | error i => rfl
      | ok n =>
        by_cases hpos : n ≤ 0
        · simp [Field.bounds, Option.filter_some, hpos]
        · by_cases hbound : (portBound : Int) ≤ n
          · simp [Field.bounds, Option.filter_some, hpos, hbound]
          · -- a port within its range is stored as the natural number it is
            have hn : ((n.toNat : Nat) : Int) = n := Int.toNat_of_nonneg (by omega)
            simp [Field.bounds, Option.filter_some, hpos, hbound, hn]

theorem read_poolSize : Field.poolSize.read o = (fun n : Nat => Value.int n) <$> readPoolSize o := by
  rcases o with _ | v
  · rfl
  · by_cases hv : v = .null
    · subst hv
      rfl
    · rw [Field.read_some hv, Field.coerce_integer rfl, readPoolSize.eq_3 v hv]
      cases v.toInteger with
      | error i => rfl
      | ok n =>
        by_cases hpos : n ≤ 0
        · simp [Field.bounds, Option.filter_some, hpos]
        · have hn : ((n.toNat : Nat) : Int) = n := Int.toNat_of_nonneg (by omega)
          simp [Field.bounds, Option.filter_some, hpos, hn]

theorem read_maxOverflow :
    Field.maxOverflow.read o = (fun n : Nat => Value.int n) <$> readMaxOverflow o := by
  rcases o with _ | v
  · rfl
  · by_cases hv : v = .null
    · subst hv
      rfl
    · rw [Field.read_some hv, Field.coerce_integer rfl, readMaxOverflow.eq_3 v hv]
      cases v.toInteger with
      | error i => rfl
      | ok n =>
        by_cases hneg : n < 0
        · simp [Field.bounds, Option.filter_some, hneg]
        · have hn : ((n.toNat : Nat) : Int) = n := Int.toNat_of_nonneg (by omega)
          simp [Field.bounds, Option.filter_some, hneg, hn]

theorem reader_eq_ok {α : Type} {g : α → Value} (hg : Function.Injective g)
    {x : Except Issue Value} {r : Except Issue α} {a : α} (hx : x = g <$> r)
    (h : x = .ok (g a)) : r = .ok a := by
  rw [hx] at h
  exact (Except.map_eq_ok_iff_of_injective hg).mp h

variable {fields : List (String × Value)}

/-- The issues of the fields read on its own are those of the check's own readers, in field
order. -/
theorem fieldIssues_eq_readers :
    fieldIssues fields =
      [issueOf .name (readName (fields.lookup Field.name.key)),
        issueOf .dialect (requiredText (fields.lookup Field.dialect.key)),
        issueOf .database (requiredText (fields.lookup Field.database.key)),
        issueOf .username (optionalText (fields.lookup Field.username.key)),
        issueOf .password (optionalText (fields.lookup Field.password.key)),
        issueOf .host (optionalText (fields.lookup Field.host.key)),
        issueOf .port (readPort (fields.lookup Field.port.key)),
        issueOf .poolSize (readPoolSize (fields.lookup Field.poolSize.key)),
        issueOf .maxOverflow (readMaxOverflow (fields.lookup Field.maxOverflow.key))].filterMap id := by
  have hmap : fieldIssues fields =
      (Field.all.map fun f => issueOf f (f.read (fields.lookup f.key))).filterMap id := by
    rw [List.filterMap_map]
    rfl
  rw [hmap]
  congr 1
  simp only [Field.all, List.map_cons, List.map_nil, read_name,
    read_requiredText (f := .dialect) rfl rfl rfl rfl,
    read_requiredText (f := .database) rfl rfl rfl rfl,
    read_optionalText (f := .username) rfl rfl rfl rfl,
    read_optionalText (f := .password) rfl rfl rfl rfl,
    read_optionalText (f := .host) rfl rfl rfl rfl, read_port, read_poolSize, read_maxOverflow,
    issueOf_map]

theorem ofFields_eq_error_iff (hfin : holdsInfinity fields = false) {r : Rejection} :
    ofFields fields = .error r ↔ r = .invalid (fieldIssues fields) ∧ fieldIssues fields ≠ [] := by
  rw [fieldIssues_eq_readers]
  unfold ofFields
  rw [if_neg (by simp [hfin])]
  dsimp only
  split
  · next hname hdialect hdatabase husername hpassword hhost hport hpool hoverflow =>
    simp [hname, hdialect, hdatabase, husername, hpassword, hhost, hport, hpool, hoverflow, issueOf]
  · next hnot =>
    constructor
    · intro h
      cases h
      refine ⟨rfl, fun hnil => ?_⟩
      -- every field read, which is the case the first branch of the check takes
      simp only [List.filterMap_eq_nil_iff, List.mem_cons, List.not_mem_nil, or_false,
        forall_eq_or_imp, forall_eq, id, issueOf_eq_none] at hnil
      obtain ⟨⟨_, h1⟩, ⟨_, h2⟩, ⟨_, h3⟩, ⟨_, h4⟩, ⟨_, h5⟩, ⟨_, h6⟩, ⟨_, h7⟩, ⟨_, h8⟩, ⟨_, h9⟩⟩ :=
        hnil
      exact hnot _ _ _ _ _ _ _ _ _ h1 h2 h3 h4 h5 h6 h7 h8 h9
    · rintro ⟨rfl, -⟩
      rfl

theorem ofFields_eq_ok_iff (hfin : holdsInfinity fields = false) {c : Config} :
    ofFields fields = .ok c ↔ ∀ f : Field, f.read (fields.lookup f.key) = .ok (c.field f) := by
  constructor
  · intro h f
    obtain ⟨_, hname, hdialect, hdatabase, husername, hpassword, hhost, hport, hpool, hoverflow⟩ :=
      ofFields_eq_ok h
    cases f
    case name => rw [read_name, hname]; rfl
    case dialect => rw [read_requiredText rfl rfl rfl rfl, hdialect]; rfl
    case database => rw [read_requiredText rfl rfl rfl rfl, hdatabase]; rfl
    case username => rw [read_optionalText rfl rfl rfl rfl, husername]; rfl
    case password => rw [read_optionalText rfl rfl rfl rfl, hpassword]; rfl
    case host => rw [read_optionalText rfl rfl rfl rfl, hhost]; rfl
    case port => rw [read_port, hport]; rfl
    case poolSize => rw [read_poolSize, hpool]; rfl
    case maxOverflow => rw [read_maxOverflow, hoverflow]; rfl
  · intro h
    -- each reader gave the field of `c`, as the readings are one to one
    have hname := reader_eq_ok text_injective (a := c.name) read_name (h .name)
    have hdialect :=
      reader_eq_ok text_injective (a := c.dialect) (read_requiredText rfl rfl rfl rfl) (h .dialect)
    have hdatabase :=
      reader_eq_ok text_injective (a := c.database) (read_requiredText rfl rfl rfl rfl) (h .database)
    have husername := reader_eq_ok optionalValue_injective (a := c.username)
      (read_optionalText rfl rfl rfl rfl) (h .username)
    have hpassword := reader_eq_ok optionalValue_injective (a := c.password)
      (read_optionalText rfl rfl rfl rfl) (h .password)
    have hhost := reader_eq_ok optionalValue_injective (a := c.host)
      (read_optionalText rfl rfl rfl rfl) (h .host)
    have hport := reader_eq_ok portValue_injective (a := c.port) read_port (h .port)
    have hpool := reader_eq_ok natValue_injective (a := c.poolSize) read_poolSize (h .poolSize)
    have hoverflow :=
      reader_eq_ok natValue_injective (a := c.maxOverflow) read_maxOverflow (h .maxOverflow)
    unfold ofFields
    rw [if_neg (by simp [hfin])]
    dsimp only
    rw [hname, hdialect, hdatabase, husername, hpassword, hhost, hport, hpool, hoverflow]

section

variable [Validator]

theorem ofValue_object (hkey : fields.any (·.1 == reservedKey) = false) :
    ofValue (.object fields) = Validator.validate fields := by
  simp [ofValue, hkey]

/-- Whatever a validator with the documented laws accepts, the field-by-field check accepts as
the same settings. -/
theorem ofFields_eq_ok_of_validate {c : Config} (h : Validator.validate fields = .ok c) :
    ofFields fields = .ok c := by
  cases hfin : holdsInfinity fields with
  | true =>
    rw [Validator.validate_of_holdsInfinity hfin] at h
    cases h
  | false => exact (ofFields_eq_ok_iff hfin).mpr ((Validator.validate_eq_ok_iff hfin).mp h)

/-- Every setting the check accepts is valid. -/
theorem ofValue_valid {v : Value} {c : Config} (h : ofValue v = .ok c) : c.Valid := by
  unfold ofValue at h
  split at h
  · split at h
    · cases h
    · exact ofFields_valid (ofFields_eq_ok_of_validate h)
  · cases h

end

end Config

end DbConnections
