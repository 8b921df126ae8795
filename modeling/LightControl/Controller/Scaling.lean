import LightControl.Controller.I2cAdDaConverter

/-!
# Scaling a sample

The ranged value is the sample, stretched by the quotient of the configured and of the instrument's
interval and rounded towards zero; with inverted instrument bounds it is counted down from the
configured interval's width.  Neither the instrument's lower bound nor the configured one is taken
away or added.

* `converterRead_rangedValue` — the ranged value is what a conversion stores and emits.
* **`rangedValue_order`** — samples that are read as unsigned numbers keep their order, or reverse
  it when the instrument bounds are inverted; exchanging the bounds mirrors the value.
* `keepsOrder_iff` — on which platforms that is true of all samples.
* **`scalesInterval_iff`** — for which bounds the instrument's interval is mapped onto the
  configured one.
-/

namespace LightControl.I2cAdDaConverter

open CTypes

variable {charSigned : Bool} {c : I2cAdDaConverter}

/-- The width of the configured interval, `range`. -/
def range (c : I2cAdDaConverter) : ℤ := c.upperBound - c.lowerBound

/-- The width of the instrument's interval, `instrument_range`; negative when it is inverted. -/
def instrumentRange (c : I2cAdDaConverter) : ℤ := c.instrumentUpperBound - c.instrumentLowerBound

lemma rangedValue_of_pos (h : 0 < c.instrumentRange) (v : UInt8) :
    c.rangedValue charSigned v = (charValue charSigned v * c.range).tdiv c.instrumentRange :=
  if_neg (not_lt.mpr (le_of_lt h))

lemma rangedValue_of_neg (h : c.instrumentRange < 0) (v : UInt8) :
    c.rangedValue charSigned v
      = c.range + (charValue charSigned v * c.range).tdiv c.instrumentRange := if_pos h

/-! ## Order and mirror image -/

/-- The converter with its instrument bounds exchanged. -/
def exchanged (c : I2cAdDaConverter) : I2cAdDaConverter :=
  (c.setInstrumentLowerBound c.instrumentUpperBound).setInstrumentUpperBound
    c.instrumentLowerBound

lemma exchanged_range : c.exchanged.range = c.range := rfl

lemma exchanged_instrumentRange : c.exchanged.instrumentRange = -c.instrumentRange :=
  (neg_sub _ _).symm

/-- **The mirror image**, for every sample on every platform. -/
lemma rangedValue_exchanged (hne : c.instrumentRange ≠ 0) (v : UInt8) :
    c.exchanged.rangedValue charSigned v = c.range - c.rangedValue charSigned v := by
  have hneg := exchanged_instrumentRange (c := c)
  rcases lt_or_gt_of_ne hne with hlt | hgt
  · rw [rangedValue_of_pos (by omega), rangedValue_of_neg hlt, exchanged_range, hneg,
      Int.tdiv_neg]
    omega
  · rw [rangedValue_of_neg (by omega), rangedValue_of_pos hgt, exchanged_range, hneg,
      Int.tdiv_neg]
    omega

lemma rangedValue_mono (h : 0 < c.instrumentRange) (hrange : 0 ≤ c.range) {v₁ v₂ : UInt8}
    (hv : charValue charSigned v₁ ≤ charValue charSigned v₂) :
    c.rangedValue charSigned v₁ ≤ c.rangedValue charSigned v₂ := by
  rw [rangedValue_of_pos h, rangedValue_of_pos h]
  exact Int.tdiv_le_tdiv h (mul_le_mul_of_nonneg_right hv hrange)

/-- With inverted bounds the order is that of the mirror image, reversed. -/
lemma rangedValue_anti (h : c.instrumentRange < 0) (hrange : 0 ≤ c.range) {v₁ v₂ : UInt8}
    (hv : charValue charSigned v₁ ≤ charValue charSigned v₂) :
    c.rangedValue charSigned v₂ ≤ c.rangedValue charSigned v₁ := by
  have hneg := exchanged_instrumentRange (c := c)
  have hpos : 0 < c.exchanged.instrumentRange := by omega
  have hmono := rangedValue_mono (c := c.exchanged) hpos hrange hv
  rw [rangedValue_exchanged (ne_of_lt h), rangedValue_exchanged (ne_of_lt h)] at hmono
  omega

/-- **The ranged value is what a conversion stores**, and what it emits, if it emits anything. -/
theorem converterRead_rangedValue (io : I2cOutcome) :
    (c.converterRead charSigned io).converter.lastRangedValue
        = c.rangedValue charSigned io.buffer ∧
      ∀ n, (c.converterRead charSigned io).valueChanged = some n ↔
        n = c.rangedValue charSigned io.buffer ∧ n ≠ c.lastRangedValue := by
  refine ⟨converterRead_lastRangedValue, ?_⟩
  intro n
  rw [converterRead_valueChanged]
  split
  case isTrue hsame =>
    refine iff_of_false nofun ?_
    rintro ⟨rfl, hne⟩
    exact hne hsame
  case isFalse hne =>
    rw [Option.some.injEq]
    constructor
    · rintro rfl
      exact ⟨rfl, hne⟩
    · rintro ⟨rfl, -⟩
      rfl

/-- **Scaling preserves order.**  Of two samples that are read as unsigned numbers, the greater one
has the ranged value that is no smaller, or no greater when the instrument bounds are inverted.
With the instrument bounds exchanged, the ranged value of every sample is the width of the
configured interval less the value under the bounds as they were. -/
theorem rangedValue_order (charSigned : Bool) (c : I2cAdDaConverter)
    (hle : c.lowerBound ≤ c.upperBound)
    (hne : c.instrumentLowerBound ≠ c.instrumentUpperBound) :
    (∀ v₁ v₂ : UInt8, v₁ ≤ v₂ → charValue charSigned v₁ = v₁.toNat →
      charValue charSigned v₂ = v₂.toNat →
      (c.instrumentLowerBound < c.instrumentUpperBound →
        c.rangedValue charSigned v₁ ≤ c.rangedValue charSigned v₂) ∧
      (c.instrumentUpperBound < c.instrumentLowerBound →
        c.rangedValue charSigned v₂ ≤ c.rangedValue charSigned v₁)) ∧
    ∀ v : UInt8, c.exchanged.rangedValue charSigned v
      = (c.upperBound - c.lowerBound) - c.rangedValue charSigned v := by
  have hrange : 0 ≤ c.range := sub_nonneg.mpr hle
  refine ⟨?_, rangedValue_exchanged (sub_ne_zero.mpr hne.symm)⟩
  intro v₁ v₂ hv h₁ h₂
  have hchar : charValue charSigned v₁ ≤ charValue charSigned v₂ := by
    rw [h₁, h₂]
    exact_mod_cast UInt8.le_iff_toNat_le.mp hv
  refine ⟨fun hlt => ?_, fun hlt => ?_⟩
  · exact rangedValue_mono (sub_pos.mpr hlt) hrange hchar
  · exact rangedValue_anti (sub_neg.mpr hlt) hrange hchar

/-- The light intensity converter's bounds, on a platform whose `char` is unsigned. -/
theorem rangedValue_order_light :
    (⟨255, 0, 0, 100, 0, 0⟩ : I2cAdDaConverter).rangedValue false 200
      ≤ (⟨255, 0, 0, 100, 0, 0⟩ : I2cAdDaConverter).rangedValue false 100 :=
  ((rangedValue_order false ⟨255, 0, 0, 100, 0, 0⟩ (by decide) (by decide)).1 100 200 (by decide)
    rfl rfl).2 (by decide)

/-- The ranged values of all samples are in the order of the samples. -/
def KeepsOrder (c : I2cAdDaConverter) (charSigned : Bool) : Prop :=
  ∀ v₁ v₂ : UInt8, v₁ ≤ v₂ →
    c.rangedValue charSigned v₁ ≤ c.rangedValue charSigned v₂

/-- **Where all samples keep their order**: where `char` is unsigned, and on the other platforms
only if every sample is scaled to zero. -/
theorem keepsOrder_iff (charSigned : Bool) (hrange : 0 ≤ c.range) (h : 0 < c.instrumentRange) :
    c.KeepsOrder charSigned ↔ charSigned = false ∨ 128 * c.range < c.instrumentRange := by
  cases charSigned with
  | false =>
      refine iff_of_true ?_ (Or.inl rfl)
      intro v₁ v₂ hv
      refine rangedValue_mono h hrange ?_
      simp only [charValue, Bool.false_eq_true, false_and, if_false]
      exact_mod_cast UInt8.le_iff_toNat_le.mp hv
  | true =>
      simp only [Bool.true_eq_false, false_or]
      constructor
      · intro hkeeps
        have hle := hkeeps 127 128 (by decide)
        have hlow : charValue true 127 = 127 := rfl
        have hhigh : charValue true 128 = -128 := rfl
        rw [rangedValue_of_pos h, rangedValue_of_pos h, hlow, hhigh, neg_mul, Int.neg_tdiv] at hle
        by_contra hge
        have hone : 1 ≤ (128 * c.range).tdiv c.instrumentRange :=
          Int.le_tdiv_of_mul_le h (by omega)
        have hzero := Int.tdiv_nonneg (a := 127 * c.range) (by omega) (le_of_lt h)
        omega
      · intro hsmall v₁ v₂ _
        have hzero : ∀ v : UInt8, c.rangedValue true v = 0 := by
          intro v
          have hv := v.toNat_lt
          have hchar : -128 ≤ charValue true v ∧ charValue true v ≤ 128 := by
            simp only [charValue, true_and]
            split <;> omega
          rw [rangedValue_of_pos h, tdiv_eq_iff_slice (ne_of_gt h), Slice, abs_of_pos h]
          have hlow := mul_le_mul_of_nonneg_right hchar.1 hrange
          have hhigh := mul_le_mul_of_nonneg_right hchar.2 hrange
          omega
        rw [hzero, hzero]

/-! ## The instrument's interval and the configured one -/

/-- The four setters. -/
def configured (c : I2cAdDaConverter) (il iu lower upper : ℤ) : I2cAdDaConverter :=
  (((c.setInstrumentLowerBound il).setInstrumentUpperBound iu).setLowerBound lower).setUpperBound
    upper

/-- A sample from one instrument bound to the other, in either order. -/
def Between (il iu v : UInt8) : Prop := (il ≤ v ∧ v ≤ iu) ∨ (iu ≤ v ∧ v ≤ il)

/-- **The law for one choice of bounds**: every conversion whose reads return, and whose sample
lies between the instrument bounds, has its ranged value in the configured interval, at its ends
for the instrument's bounds themselves. -/
def ScalesInterval (charSigned : Bool) (c : I2cAdDaConverter) (il iu : UInt8) (lower upper : ℤ) :
    Prop :=
  ∀ buffer discarded v : UInt8, Between il iu v →
    let ranged := ((c.configured il.toNat iu.toNat lower upper).converterRead charSigned
      ⟨buffer, some discarded, some v⟩).converter.lastRangedValue
    lower ≤ ranged ∧ ranged ≤ upper ∧ (v = il → ranged = lower) ∧ (v = iu → ranged = upper)

/-- `char` reads both bytes with the same sign. -/
def SameSide (charSigned : Bool) (a b : UInt8) : Prop :=
  charSigned = true → (a.toNat < 128 ↔ b.toNat < 128)

/-- The `char` values of both bounds, and of what lies between them, differ from the bytes by the
same number. -/
lemma charValue_between {a b v : UInt8} (h : SameSide charSigned a b)
    (hv : a.toNat ≤ v.toNat ∧ v.toNat ≤ b.toNat) :
    ∃ shift : ℤ, (shift = 0 ∨ shift = -256) ∧ charValue charSigned a = a.toNat + shift ∧
      charValue charSigned v = v.toNat + shift ∧ charValue charSigned b = b.toNat + shift := by
  have hb := b.toNat_lt
  cases charSigned with
  | false => exact ⟨0, Or.inl rfl, by simp [charValue], by simp [charValue], by simp [charValue]⟩
  | true =>
      have hsame := h rfl
      simp only [charValue, true_and]
      by_cases ha : a.toNat < 128
      · exact ⟨0, Or.inl rfl, by split <;> omega, by split <;> omega, by split <;> omega⟩
      · exact ⟨-256, Or.inr rfl, by split <;> omega, by split <;> omega, by split <;> omega⟩

section Ends

variable {a b v : UInt8} (hwidth : c.instrumentRange = b.toNat - a.toNat)
  (hlt : a.toNat < b.toNat)

include hwidth hlt

/-- On one side of zero the ends of the instrument's interval are scaled as far from each other as
the configured interval is wide. -/
lemma rangedValue_ends (hside : SameSide charSigned a b) (hrange : 0 ≤ c.range) :
    c.rangedValue charSigned b = c.rangedValue charSigned a + c.range := by
  have hb := b.toNat_lt
  have hpos : 0 < c.instrumentRange := by omega
  rcases charValue_between (v := a) hside (by omega) with ⟨shift, hshift, ha, -, hb'⟩
  have hchar : charValue charSigned b * c.range
      = charValue charSigned a * c.range + c.range * c.instrumentRange := by
    rw [ha, hb', hwidth, mul_comm c.range, ← add_mul]
    congr 1
    omega
  rw [rangedValue_of_pos hpos, rangedValue_of_pos hpos, hchar]
  refine tdiv_add_mul_self (ne_of_gt hpos) ?_
  rw [← hchar]
  rcases hshift with rfl | rfl
  · exact Or.inl ⟨mul_nonneg (by omega) hrange, mul_nonneg (by omega) hrange⟩
  · exact Or.inr ⟨mul_nonpos_of_nonpos_of_nonneg (by omega) hrange,
      mul_nonpos_of_nonpos_of_nonneg (by omega) hrange⟩

/-- Where `char` reads the upper end as a negative number, the ends come out in the wrong order. -/
lemma rangedValue_not_sameSide (hside : ¬ SameSide charSigned a b) (hrange : 0 ≤ c.range) :
    c.rangedValue charSigned b ≤ 0 ∧ 0 ≤ c.rangedValue charSigned a := by
  have hb := b.toNat_lt
  have hpos : 0 < c.instrumentRange := by omega
  simp only [SameSide, Classical.not_imp] at hside
  rcases hside with ⟨rfl, hside⟩
  have hlow : 0 ≤ charValue true a := by
    simp only [charValue, true_and]
    split <;> omega
  have hhigh : charValue true b ≤ 0 := by
    simp only [charValue, true_and]
    split <;> omega
  rw [rangedValue_of_pos hpos, rangedValue_of_pos hpos]
  refine ⟨?_, Int.tdiv_nonneg (mul_nonneg hlow hrange) (le_of_lt hpos)⟩
  have hneg := Int.tdiv_nonneg (a := -(charValue true b * c.range))
    (neg_nonneg.mpr (mul_nonpos_of_nonpos_of_nonneg hhigh hrange)) (le_of_lt hpos)
  rw [Int.neg_tdiv] at hneg
  omega

lemma rangedValue_between (hside : SameSide charSigned a b) (hrange : 0 ≤ c.range)
    (hv : a.toNat ≤ v.toNat ∧ v.toNat ≤ b.toNat) :
    c.rangedValue charSigned a ≤ c.rangedValue charSigned v ∧
      c.rangedValue charSigned v ≤ c.rangedValue charSigned b := by
  have hpos : 0 < c.instrumentRange := by omega
  rcases charValue_between hside hv with ⟨shift, -, ha, hv', hb⟩
  exact ⟨rangedValue_mono hpos hrange (by omega), rangedValue_mono hpos hrange (by omega)⟩

end Ends

/-- The law, said of the ranged value. -/
def Scales (charSigned : Bool) (c : I2cAdDaConverter) (il iu : UInt8) (lower upper : ℤ) : Prop :=
  ∀ v, Between il iu v →
    lower ≤ c.rangedValue charSigned v ∧ c.rangedValue charSigned v ≤ upper ∧
    (v = il → c.rangedValue charSigned v = lower) ∧
    (v = iu → c.rangedValue charSigned v = upper)

lemma scalesInterval_iff_scales {il iu : UInt8} {lower upper : ℤ} :
    ScalesInterval charSigned c il iu lower upper ↔
      Scales charSigned (c.configured il.toNat iu.toNat lower upper) il iu lower upper := by
  simp only [ScalesInterval, Scales, converterRead_lastRangedValue]
  exact ⟨fun h v => h 0 0 v, fun h _ _ v => h v⟩

lemma scales_iff_of_lt {il iu : UInt8} {lower upper : ℤ}
    (hwidth : c.instrumentRange = iu.toNat - il.toNat) (hrange : c.range = upper - lower)
    (hnat : il.toNat < iu.toNat) (hlt : lower < upper) :
    Scales charSigned c il iu lower upper ↔
      SameSide charSigned il iu ∧ c.rangedValue charSigned il = lower := by
  have hle : il ≤ iu := UInt8.le_iff_toNat_le.mpr (Nat.le_of_lt hnat)
  constructor
  · intro h
    have hlow := (h il (Or.inl ⟨UInt8.le_refl il, hle⟩)).2.2.1 rfl
    have hhigh := (h iu (Or.inl ⟨hle, UInt8.le_refl iu⟩)).2.2.2 rfl
    refine ⟨?_, hlow⟩
    by_contra hside
    have hwrong := rangedValue_not_sameSide hwidth hnat hside (by omega)
    omega
  · rintro ⟨hside, hlow⟩ v hv
    have hends := rangedValue_ends hwidth hnat hside (by omega)
    have hbetween : il.toNat ≤ v.toNat ∧ v.toNat ≤ iu.toNat := by
      simp only [Between, UInt8.le_iff_toNat_le] at hv
      omega
    have hv' := rangedValue_between hwidth hnat hside (by omega) hbetween
    refine ⟨by omega, by omega, ?_, ?_⟩
    · rintro rfl
      exact hlow
    · rintro rfl
      omega

lemma sameSide_comm {a b : UInt8} : SameSide charSigned a b ↔ SameSide charSigned b a :=
  forall_congr' fun _ => iff_comm

/-- The law for the mirror image, with the ends of both intervals exchanged. -/
lemma scales_exchanged (hne : c.instrumentRange ≠ 0) {il iu : UInt8} {lower upper : ℤ} :
    Scales charSigned c il iu lower upper ↔
      Scales charSigned c.exchanged iu il (c.range - upper) (c.range - lower) := by
  refine forall_congr' fun v => imp_congr or_comm ?_
  rw [rangedValue_exchanged hne]
  constructor
  · rintro ⟨hlower, hupper, hil, hiu⟩
    refine ⟨by omega, by omega, fun hv => ?_, fun hv => ?_⟩
    · rw [hiu hv]
    · rw [hil hv]
  · rintro ⟨hupper, hlower, hiu, hil⟩
    refine ⟨by omega, by omega, fun hv => ?_, fun hv => ?_⟩
    · have hend := hil hv
      omega
    · have hend := hiu hv
      omega

/-- With inverted instrument bounds, by the mirror image. -/
lemma scales_iff_of_gt {il iu : UInt8} {lower upper : ℤ}
    (hwidth : c.instrumentRange = iu.toNat - il.toNat) (hrange : c.range = upper - lower)
    (hnat : iu.toNat < il.toNat) (hlt : lower < upper) :
    Scales charSigned c il iu lower upper ↔
      SameSide charSigned il iu ∧ c.rangedValue charSigned iu = upper := by
  have hne : c.instrumentRange ≠ 0 := by omega
  have hwidth' : c.exchanged.instrumentRange = il.toNat - iu.toNat := by
    rw [exchanged_instrumentRange, hwidth, neg_sub]
  have hrange' : c.exchanged.range = (c.range - lower) - (c.range - upper) := by
    rw [exchanged_range]
    omega
  rw [scales_exchanged hne, scales_iff_of_lt hwidth' hrange' hnat (by omega), sameSide_comm,
    rangedValue_exchanged hne]
  refine and_congr_right fun _ => ?_
  constructor <;> intro h <;> omega

/-- **Which bounds map the instrument's interval onto the configured one**: those for which `char`
reads both instrument bounds with the same sign, and the configured lower bound is what the
smaller instrument bound is stretched to. -/
theorem scalesInterval_iff (charSigned : Bool) (c : I2cAdDaConverter) {il iu : UInt8}
    (hne : il ≠ iu) {lower upper : ℤ} (hlt : lower < upper) :
    ScalesInterval charSigned c il iu lower upper ↔
      SameSide charSigned il iu ∧
        Slice (iu.toNat - il.toNat) lower
          (charValue charSigned (if il ≤ iu then il else iu) * (upper - lower)) := by
  have hnat : il.toNat ≠ iu.toNat := fun h => hne (UInt8.toNat_inj.mp h)
  have hrange : (c.configured il.toNat iu.toNat lower upper).range = upper - lower := rfl
  have hwidth : (c.configured il.toNat iu.toNat lower upper).instrumentRange
      = iu.toNat - il.toNat := rfl
  rw [scalesInterval_iff_scales, ← tdiv_eq_iff_slice (by omega)]
  rcases Nat.lt_or_gt_of_ne hnat with hup | hdown
  · rw [scales_iff_of_lt hwidth hrange hup hlt, rangedValue_of_pos (by omega), hrange, hwidth,
      if_pos (UInt8.le_iff_toNat_le.mpr (Nat.le_of_lt hup))]
  · have hnot : ¬ il ≤ iu := fun hle =>
      absurd (UInt8.le_iff_toNat_le.mp hle) (Nat.not_le.mpr hdown)
    rw [scales_iff_of_gt hwidth hrange hdown hlt, rangedValue_of_neg (by omega), hrange, hwidth,
      if_neg hnot]
    refine and_congr_right fun _ => ?_
    constructor <;> intro h <;> omega

/-- The bounds that the light intensity converter is set to, on a platform whose `char` is
unsigned. -/
theorem scalesInterval_light :
    ScalesInterval false (new 0 0 0 0) 255 0 0 100 :=
  (scalesInterval_iff false (new 0 0 0 0) (by decide) (by decide)).mpr ⟨nofun, by decide⟩

/-- **The configured lower bound is not added**: a sample at the instrument's lower bound has the
ranged value 0, and the configured interval begins at 10. -/
theorem not_scalesInterval :
    ¬ ∀ (charSigned : Bool) (c : I2cAdDaConverter) (il iu : UInt8) (lower upper : ℤ),
      il ≠ iu → lower < upper → ScalesInterval charSigned c il iu lower upper := by
  intro h
  have hranged := (h false (new 0 0 0 0) 0 200 10 20 (by decide) (by decide) 0 0 0
    (Or.inl (by decide))).2.2.1 rfl
  exact absurd hranged (by decide)

end LightControl.I2cAdDaConverter
