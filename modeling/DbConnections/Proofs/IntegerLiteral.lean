import DbConnections.Text.IntegerLiteral
import Mathlib.Data.Nat.Digits.Defs

namespace DbConnections

namespace Text

inductive DigitsAfter : List Char → List Nat → Prop
  | nil : DigitsAfter [] []
  | digit {c : Char} {d : Nat} {cs : List Char} {ds : List Nat} :
      digitValue? c = some d → DigitsAfter cs ds → DigitsAfter (c :: cs) (d :: ds)
  | underscore {c : Char} {d : Nat} {cs : List Char} {ds : List Nat} :
      digitValue? c = some d → DigitsAfter cs ds → DigitsAfter ('_' :: c :: cs) (d :: ds)

/-- A numeral with the values of its digits in order: a digit, then what may follow it. -/
inductive Numeral : List Char → List Nat → Prop
  | mk {c : Char} {d : Nat} {cs : List Char} {ds : List Nat} :
      digitValue? c = some d → DigitsAfter cs ds → Numeral (c :: cs) (d :: ds)

inductive Sign : List Char → Int → Prop
  | none : Sign [] 1
  | plus : Sign ['+'] 1
  | minus : Sign ['-'] (-1)

/-- A text that writes the integer `n`: blanks, an optional sign, a numeral of at most
`maxDigits` digits, blanks; `n` is the sign's factor times the base-ten value of the digits. -/
def WritesInteger (cs : List Char) (n : Int) : Prop :=
  ∃ lead sign body trail k ds, cs = lead ++ sign ++ body ++ trail ∧
    (∀ c ∈ lead, isBlank c = true) ∧ (∀ c ∈ trail, isBlank c = true) ∧ Sign sign k ∧
    Numeral body ds ∧ ds.length ≤ maxDigits ∧ n = k * ((Nat.ofDigits 10 ds.reverse : Nat) : Int)

theorem digitValue?_underscore : digitValue? '_' = none := rfl

theorem ne_underscore_of_digit {c : Char} {d : Nat} (h : digitValue? c = some d) : c ≠ '_' := by
  rintro rfl
  rw [digitValue?_underscore] at h
  cases h

theorem digitValue?_of_isBlank {c : Char} (h : isBlank c = true) : digitValue? c = none := by
  have hcode : c.toNat ∈ [9, 10, 11, 12, 13, 32] ++ wideBlanks := by
    simp only [isBlank, Bool.or_eq_true, Bool.and_eq_true, decide_eq_true_eq, beq_iff_eq,
      List.contains_iff_mem] at h
    rcases h with (h | h) | h
    · exact List.mem_append_left _ (by simp only [List.mem_cons, List.not_mem_nil]; omega)
    · exact List.mem_append_left _ (by simp [h])
    · exact List.mem_append_right _ h
  -- the reading of a digit depends on the code point alone, so checking each blank's suffices
  have hcheck : ([9, 10, 11, 12, 13, 32] ++ wideBlanks).all (fun n => (digitZeros.findSome? fun z =>
      if z ≤ n ∧ n < z + 10 then some (n - z) else none).isNone) = true := by decide
  have := List.all_eq_true.mp hcheck c.toNat hcode
  simpa [digitValue?] using this

theorem isBlank_of_digit {c : Char} {d : Nat} (h : digitValue? c = some d) : isBlank c = false := by
  cases hb : isBlank c with
  | false => rfl
  | true => rw [digitValue?_of_isBlank hb] at h; cases h

theorem DigitsAfter.length_filter {cs : List Char} {ds : List Nat} (h : DigitsAfter cs ds) :
    (cs.filter (· ≠ '_')).length = ds.length := by
  induction h with
  | nil => rfl
  | digit hd _ ih =>
    rw [List.filter_cons_of_pos (by simpa using ne_underscore_of_digit hd), List.length_cons, ih,
      List.length_cons]
  | underscore hd _ ih =>
    rw [List.filter_cons_of_neg (by simp), List.filter_cons_of_pos
      (by simpa using ne_underscore_of_digit hd), List.length_cons, ih, List.length_cons]

theorem Numeral.length_filter {cs : List Char} {ds : List Nat} (h : Numeral cs ds) :
    (cs.filter (· ≠ '_')).length = ds.length := by
  obtain ⟨hd, hrest⟩ := h
  rw [List.filter_cons_of_pos (by simpa using ne_underscore_of_digit hd), List.length_cons,
    hrest.length_filter, List.length_cons]

theorem DigitsAfter.eq_nil_or_last {cs : List Char} {ds : List Nat} (h : DigitsAfter cs ds) :
    cs = [] ∨ ∃ init e d, cs = init ++ [e] ∧ digitValue? e = some d := by
  induction h with
  | nil => exact .inl rfl
  | @digit c d cs ds hd _ ih =>
    rcases ih with rfl | ⟨init, e, d', rfl, he⟩
    · exact .inr ⟨[], c, d, rfl, hd⟩
    · exact .inr ⟨c :: init, e, d', rfl, he⟩
  | @underscore c d cs ds hd _ ih =>
    rcases ih with rfl | ⟨init, e, d', rfl, he⟩
    · exact .inr ⟨['_'], c, d, rfl, hd⟩
    · exact .inr ⟨'_' :: c :: init, e, d', rfl, he⟩

theorem Numeral.exists_last {cs : List Char} {ds : List Nat} (h : Numeral cs ds) :
    ∃ init e d, cs = init ++ [e] ∧ digitValue? e = some d := by
  obtain @⟨c, d, rest, _, hd, hrest⟩ := h
  rcases hrest.eq_nil_or_last with rfl | ⟨init, e, d', rfl, he⟩
  · exact ⟨[], c, d, rfl, hd⟩
  · exact ⟨c :: init, e, d', rfl, he⟩

theorem value_cons (acc d : Nat) (ds : List Nat) :
    (acc * 10 + d) * 10 ^ ds.length + Nat.ofDigits 10 ds.reverse =
      acc * 10 ^ (d :: ds).length + Nat.ofDigits 10 (d :: ds).reverse := by
  simp only [List.reverse_cons, Nat.ofDigits_append, List.length_reverse, Nat.ofDigits_singleton,
    List.length_cons, pow_succ]
  ring

theorem readDigitsFrom_eq_some_iff {acc m : Nat} {cs : List Char} :
    readDigitsFrom acc cs = some m ↔
      ∃ ds, DigitsAfter cs ds ∧ m = acc * 10 ^ ds.length + Nat.ofDigits 10 ds.reverse := by
  fun_induction readDigitsFrom acc cs with
  | case1 acc =>
    constructor
    · rintro ⟨⟩
      exact ⟨[], .nil, by simp⟩
    · rintro ⟨ds, hds, rfl⟩
      cases hds
      simp
  | case2 acc c rest ih =>
    rw [Option.bind_eq_bind, Option.bind_eq_some_iff]
    constructor
    · rintro ⟨d, hd, hrest⟩
      obtain ⟨ds, hds, rfl⟩ := (ih d).mp hrest
      exact ⟨d :: ds, .underscore hd hds, value_cons acc d ds⟩
    · rintro ⟨_, hds, rfl⟩
      cases hds with
      | digit hu _ => simp [digitValue?_underscore] at hu
      | underscore hd hds => exact ⟨_, hd, (ih _).mpr ⟨_, hds, (value_cons _ _ _).symm⟩⟩
  | case3 acc c rest hne ih =>
    rw [Option.bind_eq_bind, Option.bind_eq_some_iff]
    constructor
    · rintro ⟨d, hd, hrest⟩
      obtain ⟨ds, hds, rfl⟩ := (ih d).mp hrest
      exact ⟨d :: ds, .digit hd hds, value_cons acc d ds⟩
    · rintro ⟨_, hds, rfl⟩
      cases hds with
      | digit hd hds => exact ⟨_, hd, (ih _).mpr ⟨_, hds, (value_cons _ _ _).symm⟩⟩
      | underscore _ _ => exact absurd rfl (hne _ _ rfl)

theorem readDigits_eq_some_iff {m : Nat} {cs : List Char} :
    readDigits cs = some m ↔ ∃ ds, Numeral cs ds ∧ m = Nat.ofDigits 10 ds.reverse := by
  cases cs with
  | nil =>
    simp only [readDigits, reduceCtorEq, false_iff, not_exists, not_and]
    rintro _ ⟨⟩
  | cons c rest =>
    rw [readDigits, Option.bind_eq_bind, Option.bind_eq_some_iff]
    constructor
    · rintro ⟨d, hd, hrest⟩
      obtain ⟨ds, hds, rfl⟩ := readDigitsFrom_eq_some_iff.mp hrest
      exact ⟨d :: ds, .mk hd hds, by simpa using value_cons 0 d ds⟩
    · rintro ⟨_, ⟨hd, hds⟩, rfl⟩
      exact ⟨_, hd, readDigitsFrom_eq_some_iff.mpr ⟨_, hds, by simpa using (value_cons 0 _ _).symm⟩⟩

theorem readMagnitude?_eq_some_iff {m : Nat} {cs : List Char} :
    readMagnitude? cs = some m ↔
      ∃ ds, Numeral cs ds ∧ ds.length ≤ maxDigits ∧ m = Nat.ofDigits 10 ds.reverse := by
  unfold readMagnitude?
  constructor
  · intro h
    split at h
    · cases h
    · next hcount =>
      obtain ⟨ds, hds, rfl⟩ := readDigits_eq_some_iff.mp h
      exact ⟨ds, hds, by rw [← hds.length_filter]; omega, rfl⟩
  · rintro ⟨ds, hds, hlen, rfl⟩
    rw [if_neg (by rw [hds.length_filter]; omega)]
    exact readDigits_eq_some_iff.mpr ⟨ds, hds, rfl⟩

theorem dropWhile_blanks_append {lead rest : List Char} {c : Char}
    (hlead : ∀ x ∈ lead, isBlank x = true) (hc : isBlank c = false) :
    (lead ++ c :: rest).dropWhile isBlank = c :: rest := by
  induction lead with
  | nil => simp [hc]
  | cons x lead ih =>
    rw [List.cons_append, List.dropWhile_cons_of_pos (hlead x List.mem_cons_self)]
    exact ih fun y hy => hlead y (List.mem_cons_of_mem x hy)

theorem trimBlanks_of_split {lead body trail init mid : List Char} {c e : Char}
    (hlead : ∀ x ∈ lead, isBlank x = true) (htrail : ∀ x ∈ trail, isBlank x = true)
    (hfirst : body = c :: mid) (hc : isBlank c = false)
    (hlast : body = init ++ [e]) (he : isBlank e = false) :
    trimBlanks (lead ++ body ++ trail) = body := by
  have hfront : (lead ++ body ++ trail).dropWhile isBlank = body ++ trail := by
    rw [List.append_assoc, hfirst, List.cons_append, dropWhile_blanks_append hlead hc]
  have hback : (body ++ trail).reverse.dropWhile isBlank = body.reverse := by
    rw [List.reverse_append, hlast, List.reverse_append, List.reverse_singleton,
      List.singleton_append, dropWhile_blanks_append (by simpa using htrail) he]
  rw [trimBlanks, hfront, hback, List.reverse_reverse]

/-- Every text is its trimmed part between blanks. -/
theorem trimBlanks_split (cs : List Char) :
    ∃ lead trail, cs = lead ++ trimBlanks cs ++ trail ∧
      (∀ x ∈ lead, isBlank x = true) ∧ (∀ x ∈ trail, isBlank x = true) := by
  set rest := cs.dropWhile isBlank with hrest
  refine ⟨cs.takeWhile isBlank, (rest.reverse.takeWhile isBlank).reverse, ?_,
    fun x hx => List.all_eq_true.mp List.all_takeWhile x hx, fun x hx => ?_⟩
  · have hsplit : rest = trimBlanks cs ++ (rest.reverse.takeWhile isBlank).reverse := by
      rw [trimBlanks, ← hrest, ← List.reverse_append, List.takeWhile_append_dropWhile,
        List.reverse_reverse]
    rw [List.append_assoc, ← hsplit, hrest, List.takeWhile_append_dropWhile]
  · exact List.all_eq_true.mp List.all_takeWhile x (List.mem_reverse.mp hx)

theorem writesInteger_of_trimmed {cs sign body : List Char} {k : Int} {m : Nat}
    (hsign : Sign sign k) (htrim : trimBlanks cs = sign ++ body)
    (hm : readMagnitude? body = some m) : WritesInteger cs (k * m) := by
  obtain ⟨lead, trail, hcs, hlead, htrail⟩ := trimBlanks_split cs
  obtain ⟨ds, hnum, hlen, rfl⟩ := readMagnitude?_eq_some_iff.mp hm
  refine ⟨lead, sign, body, trail, k, ds, ?_, hlead, htrail, hsign, hnum, hlen, rfl⟩
  rw [hcs, htrim]
  simp only [List.append_assoc]

/-- A text reads as an integer exactly when the grammar writes it. -/
theorem readInteger?_eq_some_iff {cs : List Char} {n : Int} :
    readInteger? cs = some n ↔ WritesInteger cs n := by
  constructor
  · intro h
    unfold readInteger? at h
    -- one case per sign; the magnitude is read the same way in each
    split at h
    · next ds heq =>
      obtain ⟨m, hm, rfl⟩ := Option.map_eq_some_iff.mp h
      simpa using writesInteger_of_trimmed .plus heq hm
    · next ds heq =>
      -- the magnitude is lifted to an integer before it is negated
      obtain ⟨i, hi, rfl⟩ := Option.map_eq_some_iff.mp h
      obtain ⟨m, hm, rfl⟩ : ∃ m, readMagnitude? ds = some m ∧ (m : Int) = i := by
        simpa [Option.bind_eq_some_iff] using hi
      simpa using writesInteger_of_trimmed .minus heq hm
    · obtain ⟨m, hm, rfl⟩ := Option.map_eq_some_iff.mp h
      simpa using writesInteger_of_trimmed .none rfl hm
  · rintro ⟨lead, sign, body, trail, k, ds, rfl, hlead, htrail, hsign, hnum, hlen, rfl⟩
    have hmag : readMagnitude? body = some (Nat.ofDigits 10 ds.reverse) :=
      readMagnitude?_eq_some_iff.mpr ⟨ds, hnum, hlen, rfl⟩
    obtain ⟨init, e, d', hlast, he⟩ := hnum.exists_last
    obtain @⟨c, d, mid, _, hd, _⟩ := hnum
    -- the sign and the numeral start and end with characters that are not blank
    have hc := isBlank_of_digit hd
    have he := isBlank_of_digit he
    unfold readInteger?
    cases hsign with
    | none =>
      rw [List.append_nil, trimBlanks_of_split hlead htrail rfl hc hlast he]
      split
      · next heq => cases heq; cases hd
      · next heq => cases heq; cases hd
      · simp [hmag]
    | plus =>
      rw [List.append_assoc lead, List.singleton_append,
        trimBlanks_of_split hlead htrail rfl (by decide) (by rw [hlast, ← List.cons_append]) he]
      simp [hmag]
    | minus =>
      rw [List.append_assoc lead, List.singleton_append,
        trimBlanks_of_split hlead htrail rfl (by decide) (by rw [hlast, ← List.cons_append]) he]
      simp [hmag]

/-- Bytes read as an integer exactly when they are all ASCII and, taken as characters, the
grammar writes it. -/
theorem readIntegerBytes?_eq_some_iff {bs : List UInt8} {n : Int} :
    readIntegerBytes? bs = some n ↔
      (∀ b ∈ bs, b.toNat < 0x80) ∧ WritesInteger (bs.map fun b => Char.ofNat b.toNat) n := by
  have hascii : bs.all (· < 0x80) = true ↔ ∀ b ∈ bs, b.toNat < 0x80 := by
    simp [List.all_eq_true, UInt8.lt_iff_toNat_lt]
  unfold readIntegerBytes?
  split
  · next h => rw [readInteger?_eq_some_iff]; exact ⟨fun hw => ⟨hascii.mp h, hw⟩, fun hw => hw.2⟩
  · next h => exact ⟨nofun, fun hw => absurd (hascii.mpr hw.1) h⟩

end Text

end DbConnections
