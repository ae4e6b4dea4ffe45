import DbConnections.Text.Lower
import DbConnections.Proofs.Requirement

namespace DbConnections

namespace Text

theorem toNat_charOfNat {n : Nat} (h : n.isValidChar) : (Char.ofNat n).toNat = n := by
  rw [Char.ofNat, dif_pos h]
  rfl

theorem toNat_toLower (c : Char) :
    c.toLower.toNat = if 65 ≤ c.toNat ∧ c.toNat ≤ 90 then c.toNat + 32 else c.toNat := by
  -- the test on the character's value is the test on its code point
  have hupper : (c.val ≥ 'A'.val ∧ c.val ≤ 'Z'.val) ↔ 65 ≤ c.toNat ∧ c.toNat ≤ 90 := by
    simp only [UInt32.le_iff_toNat_le]
    exact Iff.rfl
  unfold Char.toLower
  split
  · next h =>
    rw [if_pos (hupper.mp h)]
    show (c.val + ('a'.val - 'A'.val)).toNat = _
    rw [UInt32.toNat_add]
    show (c.toNat + 32) % 2 ^ 32 = _
    have := hupper.mp h
    omega
  · next h =>
    rw [if_neg (mt hupper.mpr h)]

theorem toLower_of_beyond_ascii {c : Char} (h : 128 ≤ c.toNat) : c.toLower = c := by
  apply Char.toNat_inj.mp
  rw [toNat_toLower, if_neg (by omega)]

/-- The Kelvin sign's run: the one run beyond ASCII that lowers into ASCII. -/
def kelvinRun : LowerRun := ⟨0x212A, 1, 1, 0x6B⟩

theorem lowerRuns_eq_cons : lowerRuns = ⟨0x41, 26, 1, 0x61⟩ :: lowerRuns.tail := rfl

theorem start_of_mem_tail : ∀ r ∈ lowerRuns.tail, 128 ≤ r.start := by decide +kernel

theorem target_beyond_ascii :
    ∀ r ∈ lowerRuns, r.start + r.count * r.stride ≤ 128 ∨ r = kelvinRun ∨ 128 ≤ r.target := by
  decide +kernel

theorem target_valid : ∀ r ∈ lowerRuns, r.target + r.count * r.stride ≤ 0xD800 ∨
    0xE000 ≤ r.target ∧ r.target + r.count * r.stride ≤ 0x110000 := by
  decide +kernel

variable {c : Char} {before after : List Char}

theorem simpleLower_ascii (h : c.toNat < 128) : simpleLower c = c.toLower := by
  have hrest : lowerRuns.tail.find? (·.holds c.toNat) = none := by
    rw [List.find?_eq_none]
    intro r hr
    have := start_of_mem_tail r hr
    simp only [LowerRun.holds, Bool.and_eq_true, decide_eq_true_eq, beq_iff_eq, not_and]
    omega
  apply Char.toNat_inj.mp
  unfold simpleLower
  rw [lowerRuns_eq_cons, List.find?_cons, toNat_toLower]
  by_cases hupper : 65 ≤ c.toNat ∧ c.toNat ≤ 90
  · -- an ASCII capital is in the first run, which maps it 32 code points on
    have hholds : LowerRun.holds ⟨0x41, 26, 1, 0x61⟩ c.toNat = true := by
      simp only [LowerRun.holds, Bool.and_eq_true, decide_eq_true_eq, beq_iff_eq]
      omega
    simp only [hholds, if_pos hupper]
    rw [toNat_charOfNat (Or.inl (by omega))]
    omega
  · have hout : LowerRun.holds ⟨0x41, 26, 1, 0x61⟩ c.toNat = false := by
      simp only [LowerRun.holds, Bool.and_eq_false_iff, decide_eq_false_iff_not]
      omega
    simp only [hout, hrest, if_neg hupper]

theorem simpleLower_beyond_ascii (h : 128 ≤ c.toNat) :
    simpleLower c = 'k' ∨ 128 ≤ (simpleLower c).toNat := by
  unfold simpleLower
  cases hf : lowerRuns.find? (·.holds c.toNat) with
  | none => exact .inr h
  | some r =>
    have hholds : r.holds c.toNat = true := by simpa using List.find?_some hf
    simp only [LowerRun.holds, Bool.and_eq_true, decide_eq_true_eq, beq_iff_eq] at hholds
    obtain ⟨⟨hstart, hlt⟩, hstep⟩ := hholds
    have hmem := List.mem_of_find?_eq_some hf
    -- the code point it maps to lies before the end of the run's targets
    have hoff : c.toNat - r.start < r.count * r.stride := by omega
    rcases target_beyond_ascii r hmem with hascii | rfl | htarget
    · omega
    · left
      apply Char.toNat_inj.mp
      simp only [kelvinRun] at hlt hstart ⊢
      rw [toNat_charOfNat (Or.inl (by omega))]
      show 0x6B + (c.toNat - 0x212A) = 107
      omega
    · right
      have hvalid : (r.target + (c.toNat - r.start)).isValidChar := by
        rcases target_valid r hmem with hlow | ⟨hhigh, htop⟩
        · exact Or.inl (by omega)
        · exact Or.inr ⟨by omega, by omega⟩
      rw [toNat_charOfNat hvalid]
      omega

theorem lowerAt_ascii (h : c.toNat < 128) : lowerAt before after c = [c.toLower] := by
  unfold lowerAt
  rw [if_neg (by unfold capitalSigma; omega), if_neg (by unfold dottedCapitalI; omega),
    simpleLower_ascii h]

theorem lowerAt_beyond_ascii (before after : List Char) (h : 128 ≤ c.toNat) :
    lowerAt before after c = ['k'] ∨ ∃ d ∈ lowerAt before after c, 128 ≤ d.toNat := by
  unfold lowerAt
  split
  · -- either sigma is beyond ASCII
    refine .inr ⟨_, List.mem_singleton_self _, ?_⟩
    split <;> decide
  · split
    · exact .inr ⟨Char.ofNat 0x307, by simp, by decide⟩
    · rcases simpleLower_beyond_ascii h with hk | hbig
      · exact .inl (by rw [hk])
      · exact .inr ⟨_, List.mem_singleton_self _, hbig⟩

theorem lowerAfter_ascii {cs : List Char} (h : ∀ c ∈ cs, c.toNat < 128) :
    lowerAfter before cs = cs.map Char.toLower := by
  induction cs generalizing before with
  | nil => rfl
  | cons c rest ih =>
    rw [lowerAfter, lowerAt_ascii (h c List.mem_cons_self),
      ih fun d hd => h d (List.mem_cons_of_mem c hd)]
    rfl

theorem lowerAfter_beyond_ascii {cs : List Char} (hc : c ∈ cs) (h : 128 ≤ c.toNat) :
    'k' ∈ lowerAfter before cs ∨ ∃ d ∈ lowerAfter before cs, 128 ≤ d.toNat := by
  induction cs generalizing before with
  | nil => cases hc
  | cons x rest ih =>
    rw [lowerAfter]
    rcases List.mem_cons.mp hc with rfl | hrest
    · rcases lowerAt_beyond_ascii before rest h with hk | ⟨d, hd, hbig⟩
      · exact .inl (List.mem_append_left _ (by rw [hk]; exact List.mem_singleton_self _))
      · exact .inr ⟨d, List.mem_append_left _ hd, hbig⟩
    · rcases ih hrest with hk | ⟨d, hd, hbig⟩
      · exact .inl (List.mem_append_right _ hk)
      · exact .inr ⟨d, List.mem_append_right _ hd, hbig⟩

theorem lower_of_ascii {cs : List Char} (h : ∀ c ∈ cs, c.toNat < 128) :
    lower cs = cs.map Char.toLower :=
  lowerAfter_ascii h

theorem lower_of_beyond_ascii {cs : List Char} (hc : c ∈ cs) (h : 128 ≤ c.toNat) :
    'k' ∈ lower cs ∨ ∃ d ∈ lower cs, 128 ≤ d.toNat :=
  lowerAfter_beyond_ascii hc h

end Text

namespace Requirement

theorem family_letters : ∀ r ∈ table, ∀ c ∈ r.family.toList,
    c.toNat < 128 ∧ c ≠ 'k' ∧ c.toLower = c := by
  -- checked as one Boolean test over the four names
  have hcheck : (table.all fun r => r.family.toList.all fun c =>
      c.toNat < 128 && c != 'k' && c.toLower == c) = true := rfl
  simpa only [List.all_eq_true, Bool.and_eq_true, decide_eq_true_eq, bne_iff_ne, ne_eq,
    beq_iff_eq, and_assoc] using hcheck

variable {r : Requirement} {cs : List Char}

/-- No text with a character beyond ASCII lowers to a family that needs a package. -/
theorem lower_ne_family_of_beyond_ascii (hr : r ∈ table) {c : Char} (hc : c ∈ cs)
    (hbig : 128 ≤ c.toNat) : Text.lower cs ≠ r.family.toList := by
  intro hlow
  -- the lower case keeps a `k` or a character beyond ASCII, and the family has neither
  rcases Text.lower_of_beyond_ascii hc hbig with hk | ⟨d, hd, hd128⟩
  · rw [hlow] at hk
    exact (family_letters r hr 'k' hk).2.1 rfl
  · rw [hlow] at hd
    have := (family_letters r hr d hd).1
    omega

/-- A text lowers to a family that needs a package exactly when its ASCII letters do. -/
theorem lower_eq_family_iff (hr : r ∈ table) :
    Text.lower cs = r.family.toList ↔ cs.map Char.toLower = r.family.toList := by
  by_cases hascii : ∀ c ∈ cs, c.toNat < 128
  · rw [Text.lower_of_ascii hascii]
  · -- text beyond ASCII reaches neither form of a family
    have ⟨c, hc, hbig⟩ : ∃ c ∈ cs, 128 ≤ c.toNat := by
      simp only [Classical.not_forall, Nat.not_lt] at hascii
      obtain ⟨c, hc, hbig⟩ := hascii
      exact ⟨c, hc, hbig⟩
    constructor
    · intro hlow
      exact absurd hlow (lower_ne_family_of_beyond_ascii hr hc hbig)
    · intro hmap
      have hmem : c.toLower ∈ r.family.toList := hmap ▸ List.mem_map_of_mem hc
      rw [Text.toLower_of_beyond_ascii hbig] at hmem
      have := (family_letters r hr c hmem).1
      omega

theorem family_lowered : ∀ r ∈ table, r.family.toList.map Char.toLower = r.family.toList := by
  decide +kernel

/-- The text of a dialect before its first `+`. -/
def familyText (dialect : String) : List Char := dialect.toList.takeWhile (· ≠ '+')

theorem familyOf_eq_iff {d : String} :
    familyOf d = r.family ↔ (familyText d).map Char.toLower = r.family.toList := by
  rw [familyOf, ← String.toList_inj, String.toList_ofList, familyText]

theorem of?_eq_some_iff_lower {d : String} :
    of? d = some r ↔ r ∈ table ∧ r.family.toList = Text.lower (familyText d) := by
  rw [of?_eq_some_iff]
  constructor
  · rintro ⟨hr, hfamily⟩
    exact ⟨hr, ((lower_eq_family_iff hr).mpr (familyOf_eq_iff.mp hfamily.symm)).symm⟩
  · rintro ⟨hr, hlower⟩
    exact ⟨hr, (familyOf_eq_iff.mpr ((lower_eq_family_iff hr).mp hlower.symm)).symm⟩

theorem of?_eq_none_iff_lower {d : String} :
    of? d = none ↔ ∀ r ∈ table, r.family.toList ≠ Text.lower (familyText d) := by
  rw [Option.eq_none_iff_forall_ne_some]
  constructor
  · intro hnone r hr hlower
    exact hnone r (of?_eq_some_iff_lower.mpr ⟨hr, hlower⟩)
  · intro hnot r hsome
    obtain ⟨hr, hlower⟩ := of?_eq_some_iff_lower.mp hsome
    exact hnot r hr hlower

end Requirement

namespace Registry

section

variable [Validator]

/-- The driver check of a dialect fails exactly when the lower case of its text before the first
`+` (the runtime's full lower case) is a family that needs a package, and then names that package,
the family's extra and the dialect as given; it passes for every other dialect. That family is
found exactly when the text spells it in any mix of ASCII cases: no text with a character beyond
ASCII lowers to such a family. -/
theorem checkDriver_by_lowered_family (d : String) :
    (∀ f, checkDriver d = .error f ↔
      ∃ r ∈ Requirement.table, r.family.toList = Text.lower (Requirement.familyText d) ∧
        f = .missingDriver r d ∧
        f.message = "⚠️ Driver necessário: " ++ r.package ++
          "\n💡 Instale com: pip install datasolver[" ++
          String.ofList (Text.lower (Requirement.familyText d)) ++ "]\n🛠️ Dialeto usado: " ++ d) ∧
    (checkDriver d = .ok () ↔
      ∀ r ∈ Requirement.table, r.family.toList ≠ Text.lower (Requirement.familyText d)) ∧
    ((∃ r ∈ Requirement.table, r.family.toList = Text.lower (Requirement.familyText d)) ↔
      ∃ r ∈ Requirement.table,
        (Requirement.familyText d).map Char.toLower = r.family.toList.map Char.toLower) ∧
    ∀ cs : List Char, (∃ c ∈ cs, 128 ≤ c.toNat) →
      ∀ r ∈ Requirement.table, Text.lower cs ≠ r.family.toList := by
  refine ⟨fun f => ?_, ?_, ?_, ?_⟩
  · rw [checkDriver_eq_error_iff]
    constructor
    · rintro ⟨r, hsome, rfl⟩
      obtain ⟨hr, hlower⟩ := Requirement.of?_eq_some_iff_lower.mp hsome
      refine ⟨r, hr, hlower, rfl, ?_⟩
      rw [← hlower, String.ofList_toList]
      rfl
    · rintro ⟨r, hr, hlower, rfl, -⟩
      exact ⟨r, Requirement.of?_eq_some_iff_lower.mpr ⟨hr, hlower⟩, rfl⟩
  · rw [checkDriver_eq_ok_iff, Requirement.of?_eq_none_iff_lower]
  · constructor
    · rintro ⟨r, hr, hlower⟩
      refine ⟨r, hr, ?_⟩
      rw [Requirement.family_lowered r hr]
      exact (Requirement.lower_eq_family_iff hr).mp hlower.symm
    · rintro ⟨r, hr, hmap⟩
      rw [Requirement.family_lowered r hr] at hmap
      exact ⟨r, hr, ((Requirement.lower_eq_family_iff hr).mpr hmap).symm⟩
  · rintro cs ⟨c, hc, hbig⟩ r hr
    exact Requirement.lower_ne_family_of_beyond_ascii hr hc hbig

end

end Registry

end DbConnections
