import DbConnections.Text.Utf8
import DbConnections.Proofs.Family
import DbConnections.Proofs.Except

namespace DbConnections

namespace Utf8

variable {pos : Nat} {b c d e : UInt8} {rest : List UInt8}

theorem isContinuation_iff : isContinuation c = true ↔ 0x80 ≤ c.toNat ∧ c.toNat < 0xC0 := by
  simp [isContinuation, UInt8.le_iff_toNat_le, UInt8.lt_iff_toNat_lt]

theorem secondOfThree_iff : secondOfThree b c = true ↔ 0x80 ≤ c.toNat ∧ c.toNat < 0xC0 ∧
    (b.toNat = 0xE0 → 0xA0 ≤ c.toNat) ∧ (b.toNat = 0xED → c.toNat < 0xA0) := by
  simp [secondOfThree, isContinuation, UInt8.le_iff_toNat_le, UInt8.lt_iff_toNat_lt,
    ← UInt8.toNat_inj]
  omega

theorem secondOfFour_iff : secondOfFour b c = true ↔ 0x80 ≤ c.toNat ∧ c.toNat < 0xC0 ∧
    (b.toNat = 0xF0 → 0x90 ≤ c.toNat) ∧ (b.toNat = 0xF4 → c.toNat < 0x90) := by
  simp [secondOfFour, isContinuation, UInt8.le_iff_toNat_le, UInt8.lt_iff_toNat_lt,
    ← UInt8.toNat_inj]
  omega

theorem decodeFrom_one (hb : b.toNat < 0x80) :
    decodeFrom pos (b :: rest) = (Char.ofNat b.toNat :: ·) <$> decodeFrom (pos + 1) rest := by
  rw [decodeFrom.eq_def]
  dsimp only
  rw [if_pos (UInt8.lt_iff_toNat_lt.mpr hb)]

theorem decodeFrom_two (hb : 0xC2 ≤ b.toNat) (hb' : b.toNat < 0xE0) (hc : isContinuation c) :
    decodeFrom pos (b :: c :: rest) =
      (Char.ofNat (b.toNat % 32 * 64 + low c) :: ·) <$> decodeFrom (pos + 2) rest := by
  rw [decodeFrom.eq_def]
  dsimp only
  -- the lead byte picks the two-byte branch
  rw [if_neg (by simp [UInt8.lt_iff_toNat_lt]; omega),
    if_neg (by simp [UInt8.lt_iff_toNat_lt]; omega),
    if_pos (by simp [UInt8.lt_iff_toNat_lt]; omega), if_pos hc]

theorem decodeFrom_three (hb : 0xE0 ≤ b.toNat) (hb' : b.toNat < 0xF0) (hc : secondOfThree b c)
    (hd : isContinuation d) :
    decodeFrom pos (b :: c :: d :: rest) =
      (Char.ofNat (b.toNat % 16 * 4096 + low c * 64 + low d) :: ·) <$>
        decodeFrom (pos + 3) rest := by
  rw [decodeFrom.eq_def]
  dsimp only
  rw [if_neg (by simp [UInt8.lt_iff_toNat_lt]; omega),
    if_neg (by simp [UInt8.lt_iff_toNat_lt]; omega),
    if_neg (by simp [UInt8.lt_iff_toNat_lt]; omega),
    if_pos (by simp [UInt8.lt_iff_toNat_lt]; omega), if_neg (by simp [hc]), if_pos hd]

theorem decodeFrom_four (hb : 0xF0 ≤ b.toNat) (hb' : b.toNat < 0xF5) (hc : secondOfFour b c)
    (hd : isContinuation d) (he : isContinuation e) :
    decodeFrom pos (b :: c :: d :: e :: rest) =
      (Char.ofNat (b.toNat % 8 * 262144 + low c * 4096 + low d * 64 + low e) :: ·) <$>
        decodeFrom (pos + 4) rest := by
  rw [decodeFrom.eq_def]
  dsimp only
  rw [if_neg (by simp [UInt8.lt_iff_toNat_lt]; omega),
    if_neg (by simp [UInt8.lt_iff_toNat_lt]; omega),
    if_neg (by simp [UInt8.lt_iff_toNat_lt]; omega),
    if_neg (by simp [UInt8.lt_iff_toNat_lt]; omega),
    if_pos (by simp [UInt8.lt_iff_toNat_lt]; omega), if_neg (by simp [hc]), if_neg (by simp [hd]),
    if_pos he]

theorem toNat_valid (c : Char) : c.toNat < 0xD800 ∨ 0xDFFF < c.toNat ∧ c.toNat < 0x110000 :=
  c.valid

theorem toNat_byte {n : Nat} (h : n < 256) : (UInt8.ofNat n).toNat = n :=
  UInt8.toNat_ofNat_of_lt' h

theorem isContinuation_byte (n : Nat) : isContinuation (UInt8.ofNat (n % 64 + 0x80)) = true :=
  isContinuation_iff.mpr (by rw [toNat_byte (by omega)]; omega)

theorem low_byte (n : Nat) : low (UInt8.ofNat (n % 64 + 0x80)) = n % 64 := by
  rw [low, toNat_byte (by omega)]
  omega

/-- Decoding the encoding of a character reads that character and moves past its bytes. -/
theorem decodeFrom_utf8EncodeChar (c : Char) :
    decodeFrom pos (String.utf8EncodeChar c ++ rest) =
      (c :: ·) <$> decodeFrom (pos + (String.utf8EncodeChar c).length) rest := by
  have hv := toNat_valid c
  simp only [String.utf8EncodeChar, Char.toNat_val]
  -- one case per length of the encoding; in each the bytes decode to the code point
  by_cases h1 : c.toNat ≤ 0x7F
  · rw [if_pos h1, List.cons_append, List.nil_append,
      decodeFrom_one (by rw [toNat_byte (by omega)]; omega), toNat_byte (by omega),
      Char.ofNat_toNat]
    rfl
  by_cases h2 : c.toNat ≤ 0x7FF
  · have hb := toNat_byte (show c.toNat / 64 % 32 + 0xC0 < 256 by omega)
    rw [if_neg h1, if_pos h2, List.cons_append, List.cons_append, List.nil_append,
      decodeFrom_two (by omega) (by omega) (isContinuation_byte _), hb, low_byte]
    have hx : (c.toNat / 64 % 32 + 0xC0) % 32 * 64 + c.toNat % 64 = c.toNat := by omega
    rw [hx, Char.ofNat_toNat]
    rfl
  by_cases h3 : c.toNat ≤ 0xFFFF
  · have hb := toNat_byte (show c.toNat / 4096 % 16 + 0xE0 < 256 by omega)
    have hc := toNat_byte (show c.toNat / 64 % 64 + 0x80 < 256 by omega)
    rw [if_neg h1, if_neg h2, if_pos h3, List.cons_append, List.cons_append, List.cons_append,
      List.nil_append, decodeFrom_three (by omega) (by omega)
        (secondOfThree_iff.mpr (by rw [hb, hc]; omega)) (isContinuation_byte _), hb, low_byte,
      low_byte]
    have hx : (c.toNat / 4096 % 16 + 0xE0) % 16 * 4096 + c.toNat / 64 % 64 * 64 + c.toNat % 64 =
        c.toNat := by
      omega
    rw [hx, Char.ofNat_toNat]
    rfl
  · have hb := toNat_byte (show c.toNat / 262144 % 8 + 0xF0 < 256 by omega)
    have hc := toNat_byte (show c.toNat / 4096 % 64 + 0x80 < 256 by omega)
    rw [if_neg h1, if_neg h2, if_neg h3, List.cons_append, List.cons_append, List.cons_append,
      List.cons_append, List.nil_append, decodeFrom_four (by omega) (by omega)
        (secondOfFour_iff.mpr (by rw [hb, hc]; omega)) (isContinuation_byte _)
        (isContinuation_byte _), hb, low_byte, low_byte, low_byte]
    have hx : (c.toNat / 262144 % 8 + 0xF0) % 8 * 262144 + c.toNat / 4096 % 64 * 4096 +
        c.toNat / 64 % 64 * 64 + c.toNat % 64 = c.toNat := by
      omega
    rw [hx, Char.ofNat_toNat]
    rfl

theorem utf8EncodeChar_one (hb : b.toNat < 0x80) :
    String.utf8EncodeChar (Char.ofNat b.toNat) = [b] := by
  have hn : (Char.ofNat b.toNat).toNat = b.toNat := Text.toNat_charOfNat (Or.inl (by omega))
  simp only [String.utf8EncodeChar, Char.toNat_val, hn]
  rw [if_pos (by omega), UInt8.ofNat_toNat]

theorem utf8EncodeChar_two (hb : 0xC2 ≤ b.toNat) (hb' : b.toNat < 0xE0) (hc : isContinuation c) :
    String.utf8EncodeChar (Char.ofNat (b.toNat % 32 * 64 + low c)) = [b, c] := by
  have hc' := isContinuation_iff.mp hc
  unfold low
  have hn : (Char.ofNat (b.toNat % 32 * 64 + c.toNat % 64)).toNat =
      b.toNat % 32 * 64 + c.toNat % 64 :=
    Text.toNat_charOfNat (Or.inl (by omega))
  simp only [String.utf8EncodeChar, Char.toNat_val, hn]
  rw [if_neg (by omega), if_pos (by omega)]
  simp only [List.cons.injEq, ← UInt8.toNat_inj, UInt8.toNat_ofNat', Nat.reducePow, and_true]
  omega

theorem utf8EncodeChar_three (hb : 0xE0 ≤ b.toNat) (hb' : b.toNat < 0xF0)
    (hc : secondOfThree b c) (hd : isContinuation d) :
    String.utf8EncodeChar (Char.ofNat (b.toNat % 16 * 4096 + low c * 64 + low d)) = [b, c, d] := by
  have hc' := secondOfThree_iff.mp hc
  have hd' := isContinuation_iff.mp hd
  unfold low
  have hn : (Char.ofNat (b.toNat % 16 * 4096 + c.toNat % 64 * 64 + d.toNat % 64)).toNat =
      b.toNat % 16 * 4096 + c.toNat % 64 * 64 + d.toNat % 64 :=
    Text.toNat_charOfNat (by unfold Nat.isValidChar; omega)
  simp only [String.utf8EncodeChar, Char.toNat_val, hn]
  rw [if_neg (by omega), if_neg (by omega), if_pos (by omega)]
  simp only [List.cons.injEq, ← UInt8.toNat_inj, UInt8.toNat_ofNat', Nat.reducePow, and_true]
  omega

theorem utf8EncodeChar_four (hb : 0xF0 ≤ b.toNat) (hb' : b.toNat < 0xF5) (hc : secondOfFour b c)
    (hd : isContinuation d) (he : isContinuation e) :
    String.utf8EncodeChar (Char.ofNat (b.toNat % 8 * 262144 + low c * 4096 + low d * 64 + low e)) =
      [b, c, d, e] := by
  have hc' := secondOfFour_iff.mp hc
  have hd' := isContinuation_iff.mp hd
  have he' := isContinuation_iff.mp he
  unfold low
  have hn : (Char.ofNat (b.toNat % 8 * 262144 + c.toNat % 64 * 4096 + d.toNat % 64 * 64 +
      e.toNat % 64)).toNat =
      b.toNat % 8 * 262144 + c.toNat % 64 * 4096 + d.toNat % 64 * 64 + e.toNat % 64 :=
    Text.toNat_charOfNat (by unfold Nat.isValidChar; omega)
  simp only [String.utf8EncodeChar, Char.toNat_val, hn]
  rw [if_neg (by omega), if_neg (by omega), if_neg (by omega)]
  simp only [List.cons.injEq, ← UInt8.toNat_inj, UInt8.toNat_ofNat', Nat.reducePow, and_true]
  omega

/-- Decoding succeeds on a nonempty input only by reading the encoding of one character first. -/
theorem decodeFrom_cons_eq_ok {cs : List Char} (h : decodeFrom pos (b :: rest) = .ok cs) :
    ∃ c cs' more, cs = c :: cs' ∧ b :: rest = String.utf8EncodeChar c ++ more ∧
      decodeFrom (pos + (String.utf8EncodeChar c).length) more = .ok cs' := by
  rw [decodeFrom.eq_def] at h
  dsimp only at h
  split at h
  · next hb =>
    obtain ⟨cs', hcs', rfl⟩ := Except.map_eq_ok.mp h
    have henc := utf8EncodeChar_one (UInt8.lt_iff_toNat_lt.mp hb)
    exact ⟨_, cs', rest, rfl, by rw [henc]; rfl, by rw [henc]; exact hcs'⟩
  split at h
  · cases h
  split at h
  · next hb hb' hlt =>
    split at h
    · cases h
    · next c more =>
      split at h
      · next hc =>
        obtain ⟨cs', hcs', rfl⟩ := Except.map_eq_ok.mp h
        have henc := utf8EncodeChar_two (by simp [UInt8.lt_iff_toNat_lt] at hb'; omega)
          (UInt8.lt_iff_toNat_lt.mp hlt) hc
        exact ⟨_, cs', more, rfl, by rw [henc]; rfl, by rw [henc]; exact hcs'⟩
      · cases h
  split at h
  · next hb hb' hb'' hlt =>
    split at h
    · cases h
    · next c more =>
      split at h
      · cases h
      · next hc =>
        split at h
        · cases h
        · next d more =>
          split at h
          · next hd =>
            obtain ⟨cs', hcs', rfl⟩ := Except.map_eq_ok.mp h
            have henc := utf8EncodeChar_three (by simp [UInt8.lt_iff_toNat_lt] at hb''; omega)
              (UInt8.lt_iff_toNat_lt.mp hlt) (by simpa using hc) hd
            exact ⟨_, cs', more, rfl, by rw [henc]; rfl, by rw [henc]; exact hcs'⟩
          · cases h
  split at h
  · next hb hb' hb'' hb''' hlt =>
    split at h
    · cases h
    · next c more =>
      split at h
      · cases h
      · next hc =>
        split at h
        · cases h
        · next d more =>
          split at h
          · cases h
          · next hd =>
            split at h
            · cases h
            · next e more =>
              split at h
              · next he =>
                obtain ⟨cs', hcs', rfl⟩ := Except.map_eq_ok.mp h
                have henc := utf8EncodeChar_four
                  (by simp [UInt8.lt_iff_toNat_lt] at hb'''; omega)
                  (UInt8.lt_iff_toNat_lt.mp hlt) (by simpa using hc) (by simpa using hd) he
                exact ⟨_, cs', more, rfl, by rw [henc]; rfl, by rw [henc]; exact hcs'⟩
              · cases h
  · cases h

theorem decodeFrom_flatMap (cs : List Char) :
    decodeFrom pos (cs.flatMap String.utf8EncodeChar) = .ok cs := by
  induction cs generalizing pos with
  | nil => rfl
  | cons c cs ih => rw [List.flatMap_cons, decodeFrom_utf8EncodeChar, ih]; rfl

theorem eq_flatMap_of_decodeFrom {bs : List UInt8} {cs : List Char}
    (h : decodeFrom pos bs = .ok cs) : bs = cs.flatMap String.utf8EncodeChar := by
  -- each character read takes at least one byte, so the induction is on the input's length
  induction hn : bs.length using Nat.strongRecOn generalizing bs pos cs with
  | _ n ih =>
    cases bs with
    | nil =>
      cases h
      rfl
    | cons b rest =>
      obtain ⟨c, cs', more, rfl, hbytes, hmore⟩ := decodeFrom_cons_eq_ok h
      have hlen : more.length < n := by
        rw [← hn, hbytes, List.length_append]
        have := List.length_pos_iff.mpr (String.utf8EncodeChar_ne_nil (c := c))
        omega
      rw [hbytes, ih more.length hlen hmore rfl, List.flatMap_cons]

theorem decodeFrom_eq_ok_iff {bs : List UInt8} {cs : List Char} :
    decodeFrom pos bs = .ok cs ↔ bs = cs.flatMap String.utf8EncodeChar :=
  ⟨eq_flatMap_of_decodeFrom, fun h => h ▸ decodeFrom_flatMap cs⟩

theorem toUTF8_toList (s : String) :
    s.toUTF8.data.toList = s.toList.flatMap String.utf8EncodeChar := by
  rw [String.toUTF8_eq_toByteArray, ← String.ofList_toList (s := s), String.toByteArray_ofList,
    String.toList_ofList, List.utf8Encode, List.toList_data_toByteArray]

theorem decode_eq_ok_iff {bs : List UInt8} {s : String} :
    decode bs = .ok s ↔ bs = s.toUTF8.data.toList := by
  rw [decode, Except.map_eq_ok, toUTF8_toList]
  constructor
  · rintro ⟨cs, hcs, rfl⟩
    rw [String.toList_ofList]
    exact decodeFrom_eq_ok_iff.mp hcs
  · intro h
    exact ⟨s.toList, decodeFrom_eq_ok_iff.mpr h, String.ofList_toList⟩

theorem decode_encode (s : String) : decode s.toUTF8.data.toList = .ok s :=
  decode_eq_ok_iff.mpr rfl

/-- Decoding succeeds exactly on well-formed UTF-8: the encodings of sequences of characters. -/
theorem decode_isOk_iff {bs : List UInt8} :
    (∃ s, decode bs = .ok s) ↔ bs.toByteArray.IsValidUTF8 := by
  constructor
  · rintro ⟨s, hs⟩
    rw [decode_eq_ok_iff, toUTF8_toList] at hs
    exact ⟨s.toList, by rw [hs, List.utf8Encode]⟩
  · rintro ⟨cs, hcs⟩
    refine ⟨String.ofList cs, decode_eq_ok_iff.mpr ?_⟩
    rw [toUTF8_toList, String.toList_ofList]
    have := congrArg (fun b : ByteArray => b.data.toList) hcs
    simpa [List.utf8Encode] using this

end Utf8

end DbConnections
