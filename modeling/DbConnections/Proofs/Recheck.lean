import DbConnections.Proofs.Coercion
import DbConnections.Validator.Installed

namespace DbConnections

namespace Config

theorem toValue_eq (c : Config) :
    c.toValue = .object (Field.all.map fun f => (f.key, c.field f)) := by
  cases hp : c.port <;> simp [toValue, field, Field.all, hp]

theorem lookup_fields (c : Config) (f : Field) :
    (Field.all.map fun g => (g.key, c.field g)).lookup f.key = some (c.field f) := by
  cases f <;> rfl

theorem read_optionalValue {f : Field} (ho : f.optional = true) (hi : f.integral = false)
    (hb : f.bounds = ⟨none, none, none, none, none⟩) (o : Option String) :
    f.read (some (optionalValue o)) = .ok (optionalValue o) := by
  cases o with
  | none => simp [Field.read, optionalValue, ho]
  | some s => simp [Field.read, optionalValue, Field.coerce, hi, Value.toText, hb]

/-- Each field of valid settings, given back as data, reads as itself. -/
theorem read_field_of_valid {c : Config} (hc : c.Valid) (f : Field) :
    f.read (some (c.field f)) = .ok (c.field f) := by
  obtain ⟨hmin, hmax, hport, hpool⟩ := hc
  cases f
  case name =>
    simp [Field.read, field, Field.coerce, Field.integral, Value.toText, Field.bounds,
      Option.filter, show ¬ c.name.length < nameMin by omega,
      show ¬ nameMax < c.name.length by omega]
  case username | password | host => exact read_optionalValue rfl rfl rfl _
  case port =>
    cases hp : c.port with
    | none => simp [Field.read, field, hp, Field.optional]
    | some p =>
      have := hport p hp
      simp [Field.read, field, hp, Field.coerce, Field.integral, Value.toInteger,
        Value.toInteger?, Field.bounds, Option.filter, show p ≠ 0 by omega,
        show ¬ (portBound : Int) ≤ p by omega]
  case poolSize =>
    simp [Field.read, field, Field.coerce, Field.integral, Value.toInteger, Value.toInteger?,
      Field.bounds, Option.filter, show c.poolSize ≠ 0 by omega]
  case maxOverflow =>
    simp [Field.read, field, Field.coerce, Field.integral, Value.toInteger, Value.toInteger?,
      Field.bounds, Option.filter, show ¬ (c.maxOverflow : Int) < 0 by omega]
  case dialect | database =>
    simp [Field.read, field, Field.coerce, Field.integral, Value.toText, Field.bounds]

section

variable [Validator]

theorem ofValue_toValue {c : Config} (hc : c.Valid) : ofValue c.toValue = .ok c := by
  have hkey : (Field.all.map fun f => (f.key, c.field f)).any (·.1 == reservedKey) = false := rfl
  have hfin : holdsInfinity (Field.all.map fun f => (f.key, c.field f)) = false := by
    simp only [holdsInfinity, List.any_cons, List.any_nil, lookup_fields, Option.any_some]
    cases hp : c.port <;> simp [field, hp, Value.isInfinite]
  rw [toValue_eq, ofValue_object hkey, Validator.validate_eq_ok_iff hfin]
  intro f
  rw [lookup_fields]
  exact read_field_of_valid hc f

/-- Checking is idempotent: settings that a check accepted, given back as data, are accepted
again as the same settings. -/
theorem ofValue_idempotent {v : Value} {c : Config} (h : ofValue v = .ok c) :
    ofValue c.toValue = .ok c :=
  ofValue_toValue (ofValue_valid h)

end

theorem coerced_settings_rechecked :
    ofValue (.object [("name", .int 123), ("dialect", .text "sqlite"),
        ("database", .text ":memory:"), ("port", .bool true), ("pool_size", .text " 7 ")]) =
      .ok ⟨"123", "sqlite", ":memory:", none, none, none, some 1, 7, 10⟩ ∧
    ofValue (toValue ⟨"123", "sqlite", ":memory:", none, none, none, some 1, 7, 10⟩) =
      .ok ⟨"123", "sqlite", ":memory:", none, none, none, some 1, 7, 10⟩ :=
  have h : ofValue (.object [("name", .int 123), ("dialect", .text "sqlite"),
      ("database", .text ":memory:"), ("port", .bool true), ("pool_size", .text " 7 ")]) =
      .ok ⟨"123", "sqlite", ":memory:", none, none, none, some 1, 7, 10⟩ := by decide
  ⟨h, ofValue_idempotent h⟩

/-- An object with the entry under `key` set to `v`, and no other entry under that key. -/
def assign (fields : List (String × Value)) (key : String) (v : Value) : List (String × Value) :=
  (key, v) :: fields.filter (·.1 != key)

variable {fields : List (String × Value)} {key k : String} {v : Value}

theorem lookup_assign_self : (assign fields key v).lookup key = some v := by
  simp [assign]

theorem lookup_filter_of_ne (h : k ≠ key) :
    (fields.filter (·.1 != key)).lookup k = fields.lookup k := by
  induction fields with
  | nil => rfl
  | cons e rest ih =>
    obtain ⟨k', w⟩ := e
    have hk : (k == key) = false := by simp [h]
    by_cases he : k' = key
    · simp [he, List.lookup_cons, hk, ih]
    · simp [he, List.lookup_cons, ih]

theorem lookup_assign_of_ne (h : k ≠ key) : (assign fields key v).lookup k = fields.lookup k := by
  have hk : (k == key) = false := by simp [h]
  rw [assign, List.lookup_cons, hk, lookup_filter_of_ne h]

theorem any_key_eq_isSome_lookup :
    fields.any (·.1 == k) = (fields.lookup k).isSome := by
  induction fields with
  | nil => rfl
  | cons e rest ih =>
    obtain ⟨k', w⟩ := e
    by_cases he : k = k'
    · simp [he]
    · have hk : (k == k') = false := by simp [he]
      simp [List.lookup_cons, hk, ih, Ne.symm he]

end Config

namespace Field

theorem key_injective {f g : Field} (h : f.key = g.key) : f = g := by
  revert h
  cases f <;> cases g <;> decide

theorem key_ne_reservedKey (f : Field) : f.key ≠ Config.reservedKey := by
  cases f <;> decide

end Field

namespace Config

section

variable [Validator]

/-- Two objects whose fields read alike, and that agree on infinite numbers in the integer
fields, are validated alike. -/
theorem validate_eq_of_read {fields' : List (String × Value)}
    (hinf : holdsInfinity fields' = holdsInfinity fields)
    (h : ∀ f : Field, f.read (fields'.lookup f.key) = f.read (fields.lookup f.key)) :
    Validator.validate fields' = Validator.validate fields := by
  cases hfin : holdsInfinity fields with
  | true =>
    rw [Validator.validate_of_holdsInfinity (hinf.trans hfin),
      Validator.validate_of_holdsInfinity hfin]
  | false =>
    have hfin' := hinf.trans hfin
    have hissues : fieldIssues fields' = fieldIssues fields := by simp only [fieldIssues, h]
    cases hc : Validator.validate fields with
    | ok c =>
      exact (Validator.validate_eq_ok_iff hfin').mpr fun f =>
        (h f).trans ((Validator.validate_eq_ok_iff hfin).mp hc f)
    | error r =>
      obtain ⟨rfl, hne⟩ := (Validator.validate_eq_error_iff hfin).mp hc
      exact (Validator.validate_eq_error_iff hfin').mpr ⟨hissues ▸ rfl, hissues ▸ hne⟩

theorem ofValue_assign_congr {f : Field} (hf : f.integral = false) {x y : Value}
    (hxy : f.read (some x) = f.read (some y)) :
    ofValue (.object (assign fields f.key x)) = ofValue (.object (assign fields f.key y)) := by
  have hkey : ∀ z, (assign fields f.key z).any (·.1 == reservedKey) =
      fields.any (·.1 == reservedKey) := fun z => by
    rw [any_key_eq_isSome_lookup, any_key_eq_isSome_lookup,
      lookup_assign_of_ne (Ne.symm (Field.key_ne_reservedKey f))]
  -- every other field is read from the untouched entries
  have hread : ∀ g : Field, g.read ((assign fields f.key x).lookup g.key) =
      g.read ((assign fields f.key y).lookup g.key) := fun g => by
    by_cases hg : g = f
    · subst hg
      rw [lookup_assign_self, lookup_assign_self, hxy]
    · have hne : g.key ≠ f.key := fun h => hg (Field.key_injective h)
      rw [lookup_assign_of_ne hne, lookup_assign_of_ne hne]
  have hinf : holdsInfinity (assign fields f.key x) = holdsInfinity (assign fields f.key y) := by
    have hne : ∀ g : Field, g.integral = true → g.key ≠ f.key := fun g hg h => by
      rw [Field.key_injective h] at hg
      rw [hf] at hg
      cases hg
    simp only [holdsInfinity, List.any_cons, List.any_nil,
      lookup_assign_of_ne (hne .port rfl), lookup_assign_of_ne (hne .poolSize rfl),
      lookup_assign_of_ne (hne .maxOverflow rfl)]
  simp only [ofValue, hkey]
  split
  · rfl
  · exact validate_eq_of_read hinf hread

/-- A text field set to the UTF-8 bytes of a text checks as the text itself, and refuses bytes
as undecodable exactly when they are not well-formed UTF-8. -/
theorem text_fields_read_bytes_as_text {f : Field} (hf : f.integral = false) :
    (∀ (fields : List (String × Value)) (s : String),
      ofValue (.object (assign fields f.key (.bytes s.toUTF8.data.toList))) =
        ofValue (.object (assign fields f.key (.text s)))) ∧
    ∀ bs : List UInt8, (∃ e, f.read (some (.bytes bs)) = .error (.undecodable e)) ↔
      ¬ bs.toByteArray.IsValidUTF8 :=
  ⟨fun _ s => ofValue_assign_congr hf (Field.read_bytes_of_text hf s),
    Field.read_bytes_undecodable_iff hf⟩

end

theorem accented_name_bytes_checked_as_text :
    Field.name.integral = false ∧
      ofValue (.object (assign [("dialect", .text "sqlite"), ("database", .text ":memory:")]
          Field.name.key (.bytes "héllo".toUTF8.data.toList))) =
        ofValue (.object (assign [("dialect", .text "sqlite"), ("database", .text ":memory:")]
          Field.name.key (.text "héllo"))) :=
  ⟨rfl, (text_fields_read_bytes_as_text (f := .name) rfl).1 _ _⟩

end Config

end DbConnections
