import DbConnections.Validator.Installed
import DbConnections.Proofs.Utf8
import DbConnections.Proofs.IntegerLiteral

namespace DbConnections

namespace Value

/-- The integer a value is read as: an integer itself, a flag as one or zero, and a text or
ASCII bytes that the integer grammar writes. -/
inductive WritesInteger : Value → Int → Prop
  | int (n : Int) : WritesInteger (.int n) n
  | bool (b : Bool) : WritesInteger (.bool b) (if b then 1 else 0)
  | text {s : String} {n : Int} : Text.WritesInteger s.toList n → WritesInteger (.text s) n
  | bytes {bs : List UInt8} {n : Int} : (∀ b ∈ bs, b.toNat < 0x80) →
      Text.WritesInteger (bs.map fun b => Char.ofNat b.toNat) n → WritesInteger (.bytes bs) n

variable {v : Value} {n : Int}

theorem toInteger?_eq_some_iff (hfloat : ∀ x, v ≠ .float x) :
    v.toInteger? = some n ↔ v.WritesInteger n := by
  cases v with
  | int m =>
    constructor
    · rintro ⟨⟩
      exact .int _
    · rintro ⟨⟩
      rfl
  | bool b =>
    constructor
    · rintro ⟨⟩
      exact .bool _
    · rintro ⟨⟩
      rfl
  | text s =>
    rw [toInteger?, Text.readInteger?_eq_some_iff]
    constructor
    · exact .text
    · rintro ⟨⟩
      assumption
  | bytes bs =>
    rw [toInteger?, Text.readIntegerBytes?_eq_some_iff]
    constructor
    · rintro ⟨hascii, hw⟩
      exact .bytes hascii hw
    · rintro ⟨⟩
      exact ⟨by assumption, by assumption⟩
  | float x => exact absurd rfl (hfloat x)
  | null | list _ | object _ =>
    constructor
    · rintro ⟨⟩
    · rintro ⟨⟩

theorem toInteger_of_writes (hfloat : ∀ x, v ≠ .float x) (h : v.WritesInteger n) :
    v.toInteger = .ok n := by
  rw [toInteger, (toInteger?_eq_some_iff hfloat).mpr h]

theorem toInteger_of_not_writes (hfloat : ∀ x, v ≠ .float x) (h : ¬ ∃ n, v.WritesInteger n) :
    v.toInteger = .error .notInteger := by
  unfold toInteger
  cases hv : v.toInteger? with
  | none => rfl
  | some n => exact absurd ⟨n, (toInteger?_eq_some_iff hfloat).mp hv⟩ h

end Value

namespace Config

/-- The integer fields read what the integer grammar writes, and hold it to their bounds: the
port strictly between zero and `portBound`, a positive pool and a nonnegative overflow. What the
grammar does not write is not an integer. -/
theorem integer_fields_read_written_integers {v : Value} (hnull : v ≠ .null)
    (hfloat : ∀ x, v ≠ .float x) :
    ((¬ ∃ n, v.WritesInteger n) →
      readPort (some v) = .error .notInteger ∧ readPoolSize (some v) = .error .notInteger ∧
        readMaxOverflow (some v) = .error .notInteger) ∧
    ∀ n, v.WritesInteger n →
      readPort (some v) = (if n ≤ 0 then .error (.notGreater 0)
        else if (portBound : Int) ≤ n then .error (.notLess portBound) else .ok (some n.toNat)) ∧
      readPoolSize (some v) = (if n ≤ 0 then .error (.notGreater 0) else .ok n.toNat) ∧
      readMaxOverflow (some v) = (if n < 0 then .error (.notAtLeast 0) else .ok n.toNat) := by
  rw [readPort.eq_3 v hnull, readPoolSize.eq_3 v hnull, readMaxOverflow.eq_3 v hnull]
  refine ⟨fun hnone => ?_, fun n hn => ?_⟩
  · rw [Value.toInteger_of_not_writes hfloat hnone]
    exact ⟨rfl, rfl, rfl⟩
  · rw [Value.toInteger_of_writes hfloat hn]
    exact ⟨rfl, rfl, rfl⟩

theorem port_reads_spaced_digits :
    readPort (some (.text "　+٤_٢\t")) = .ok (some 42) := by
  have hw : Value.WritesInteger (.text "　+٤_٢\t") 42 :=
    .text (Text.readInteger?_eq_some_iff.mp (by decide))
  rw [((integer_fields_read_written_integers (by simp) (by simp)).2 42 hw).1]
  decide

end Config

namespace Text

/-- A string's own space test: the blanks of the integer grammar, and the four information
separators U+001C to U+001F besides. -/
def isSpace (c : Char) : Bool := isBlank c || (0x1C ≤ c.toNat && c.toNat ≤ 0x1F)

end Text

namespace Config

/-- A port behind a file separator is refused as no integer, though the separator passes the
space test and a port behind a plain space is read. -/
theorem separator_space_refused_around_port :
    Text.isSpace (Char.ofNat 0x1C) = true ∧
      ofValue (.object [("name", .text "abc"), ("dialect", .text "sqlite"),
        ("database", .text ":memory:"), ("port", .text "\x1c80")]) =
        .error (.invalid [(.port, .notInteger)]) ∧
      ofValue (.object [("name", .text "abc"), ("dialect", .text "sqlite"),
        ("database", .text ":memory:"), ("port", .text " 80")]) =
        .ok ⟨"abc", "sqlite", ":memory:", none, none, none, some 80, 5, 10⟩ :=
  ⟨rfl, by decide, by decide⟩

theorem length_intText (n : Int) :
    (toString n).length = if n < 0 then (-n).toNat.repr.length + 1 else n.toNat.repr.length := by
  rw [Int.toString_eq_repr, Int.repr_eq_if]
  by_cases h : n < 0
  · rw [if_neg (by omega), if_pos h, String.length_append, Nat.add_comm]
    rfl
  · rw [if_pos (by omega), if_neg h]

theorem intText_length_bounds (n : Int) :
    nameMin ≤ (toString n).length ∧ (toString n).length ≤ nameMax ↔
      100 ≤ n ∧ n ≤ 10 ^ 50 - 1 ∨ -(10 ^ 49 - 1) ≤ n ∧ n ≤ -10 := by
  rw [length_intText]
  by_cases h : n < 0
  · rw [if_pos h]
    have hshort := Nat.length_repr_le_iff (n := (-n).toNat) (k := 1) (by omega)
    have hlong := Nat.length_repr_le_iff (n := (-n).toNat) (k := 49) (by omega)
    norm_num [nameMin, nameMax] at hshort hlong ⊢
    omega
  · rw [if_neg h]
    have hshort := Nat.length_repr_le_iff (n := n.toNat) (k := 2) (by omega)
    have hlong := Nat.length_repr_le_iff (n := n.toNat) (k := 50) (by omega)
    norm_num [nameMin, nameMax] at hshort hlong ⊢
    omega

variable {v : Value} {s : String}

theorem readName_of_toText (hv : v ≠ .null) (hs : v.toText = .ok s) :
    readName (some v) = if s.length < nameMin then .error (.tooShort nameMin)
      else if nameMax < s.length then .error (.tooLong nameMax) else .ok s := by
  rw [readName, requiredText_some hv, hs]
  rfl

theorem readName_isOk_iff (hv : v ≠ .null) (hs : v.toText = .ok s) :
    (∃ t, readName (some v) = .ok t) ↔ nameMin ≤ s.length ∧ s.length ≤ nameMax := by
  rw [readName_of_toText hv hs]
  constructor
  · rintro ⟨t, ht⟩
    split at ht
    · cases ht
    · split at ht
      · cases ht
      · omega
  · rintro ⟨hmin, hmax⟩
    exact ⟨s, by rw [if_neg (by omega), if_neg (by omega)]⟩

theorem bytes_toText_eq_ok_iff {bs : List UInt8} :
    (Value.bytes bs).toText = .ok s ↔ bs = s.toUTF8.data.toList := by
  rw [← Utf8.decode_eq_ok_iff]
  cases hd : Utf8.decode bs with
  | ok t => simp [Value.toText, hd]
  | error e => simp [Value.toText, hd]

/-- The name holds a value to its length bounds after it is made text: bytes by strict UTF-8,
an integer by its decimal digits and a flag by its word. -/
theorem name_length_after_coercion :
    (∀ v, v ≠ .null → ∀ s, v.toText = .ok s →
      (readName (some v) = .ok s ↔ nameMin ≤ s.length ∧ s.length ≤ nameMax) ∧
      (readName (some v) = .error (.tooShort nameMin) ↔ s.length < nameMin) ∧
      (readName (some v) = .error (.tooLong nameMax) ↔ nameMax < s.length)) ∧
    (∀ v, v ≠ .null → ∀ i, v.toText = .error i → readName (some v) = .error i) ∧
    (∀ bs s, (Value.bytes bs).toText = .ok s ↔ bs = s.toUTF8.data.toList) ∧
    (∀ n : Int, (∃ s, readName (some (.int n)) = .ok s) ↔
      100 ≤ n ∧ n ≤ 10 ^ 50 - 1 ∨ -(10 ^ 49 - 1) ≤ n ∧ n ≤ -10) ∧
    ∀ b : Bool, readName (some (.bool b)) = .ok (if b then "True" else "False") := by
  refine ⟨fun v hv s hs => ?_, fun v hv i hi => ?_, fun bs s => ?_, fun n => ?_, fun b => ?_⟩
  · rw [readName_of_toText hv hs]
    -- the length falls short, goes over, or lies within the bounds
    by_cases hshort : s.length < nameMin
    · simp only [if_pos hshort, reduceCtorEq, false_iff, true_iff, Except.error.injEq]
      simp only [nameMin, nameMax] at hshort ⊢
      omega
    · by_cases hlong : nameMax < s.length
      · simp only [if_neg hshort, if_pos hlong, reduceCtorEq, false_iff, true_iff,
          Except.error.injEq]
        simp only [nameMin, nameMax] at hshort hlong ⊢
        omega
      · simp only [if_neg hshort, if_neg hlong, reduceCtorEq, false_iff, true_iff]
        omega
  · rw [readName, requiredText_some hv, hi]
    rfl
  · exact bytes_toText_eq_ok_iff
  · rw [readName_isOk_iff (by simp) rfl]
    exact intText_length_bounds n
  · cases b <;> rfl

theorem short_and_signed_names :
    readName (some (.int 99)) = .error (.tooShort nameMin) ∧
      ∃ s, readName (some (.int (-10))) = .ok s :=
  ⟨((name_length_after_coercion.1 (.int 99) (by simp) "99" rfl).2.1).mpr (by decide),
    (name_length_after_coercion.2.2.2.1 (-10)).mpr (by norm_num)⟩

end Config

namespace Field

theorem Bounds.check_ne_undecodable (b : Bounds) (x : Value) (e : Utf8.Error) :
    b.check x ≠ .error (.undecodable e) := by
  unfold Bounds.check
  split
  · next i hi =>
    rintro ⟨⟩
    cases x <;> simp [Bounds.broken?] at hi
  · nofun

variable {f : Field} (hf : f.integral = false)
include hf

theorem read_bytes_of_text (s : String) :
    f.read (some (.bytes s.toUTF8.data.toList)) = f.read (some (.text s)) := by
  rw [read_some (v := .bytes _) nofun, read_some (v := .text _) nofun, coerce_text hf,
    coerce_text hf, Config.bytes_toText_eq_ok_iff.mpr rfl]
  rfl

theorem read_bytes_undecodable_iff (bs : List UInt8) :
    (∃ e, f.read (some (.bytes bs)) = .error (.undecodable e)) ↔
      ¬ bs.toByteArray.IsValidUTF8 := by
  rw [read_some (v := .bytes _) nofun, coerce_text hf, ← Utf8.decode_isOk_iff]
  cases hd : Utf8.decode bs with
  | ok s =>
    -- decoded bytes are held to the bounds, which never find them undecodable
    have htext : (Value.bytes bs).toText = .ok s := by simp [Value.toText, hd]
    rw [htext, Except.map_ok_eq, Except.ok_bind]
    exact ⟨fun ⟨e, he⟩ => absurd he (Bounds.check_ne_undecodable _ _ _),
      fun h => absurd ⟨s, rfl⟩ h⟩
  | error e => simp [Value.toText, hd]

end Field

end DbConnections
