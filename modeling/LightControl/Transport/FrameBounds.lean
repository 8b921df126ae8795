import LightControl.Transport.TransportRecord

/-!
# The constructors and the end of the record

Both constructors that fill the record write a terminator at `b_len`, behind the bytes they
announce, so the largest body that the receiver accepts has no place for it.  In the model a
constructor is `none` as soon as it reads outside its argument or writes outside the record.

`frameBounds_iff` says for which arguments the constructors stay inside.
-/

namespace LightControl

open QString ReportTransportStruct

/-- A text whose UTF-8 form fits. -/
lemma isSome_ofString_iff (h : HostEndianness) {s : QString} (hle : s.toUtf8.length ≤ 4095) :
    (ofString h s).isSome = true ↔ s.length < 4095 := by
  have hlength := (length_toUtf8 s).1
  have hbig : reportTransportBiggestBody = 4096 := rfl
  by_cases hne : s = []
  · rw [hne]
    exact iff_of_true rfl (by decide)
  · rw [ofString_eq h hne (by omega)]
    split
    case isTrue hfits => exact iff_of_true rfl (by omega)
    case isFalse hfits => exact iff_of_false (by simp) (by omega)

/-- Data that has the bytes announced. -/
lemma isSome_ofData_iff (h : HostEndianness) {size : ℕ} {data : List UInt8}
    (hdata : size ≤ data.length) (hle : size ≤ 4096) :
    (ofData h size data).isSome = true ↔ size < 4096 := by
  have hbig : reportTransportBiggestBody = 4096 := rfl
  rw [ofData_eq h (by omega)]
  split
  case isTrue hfits => exact iff_of_true rfl (by omega)
  case isFalse hfits => exact iff_of_false (by simp) (by omega)

/-- **When a constructor stays inside the frame.**  For every text whose UTF-8 form and terminator
fit the body, exactly if it has fewer than 4095 code units; for every size that the data has and
the receiver accepts, exactly if it is not the largest. -/
theorem frameBounds_iff (h : HostEndianness) :
    (∀ s : QString, s.toUtf8.length ≤ 4095 →
      ((ofString h s).isSome = true ↔ s.length < 4095)) ∧
    (∀ (size : ℕ) (data : List UInt8), size ≤ data.length → size ≤ 4096 →
      ((ofData h size data).isSome = true ↔ size < 4096)) :=
  ⟨fun _ hle => isSome_ofString_iff h hle, fun _ _ hdata hle => isSome_ofData_iff h hdata hle⟩

/-- Two bytes, as a text and as data. -/
theorem frameBounds_two :
    (ofString .little (literal "ok")).isSome = true ∧ (ofData .big 2 [111, 107]).isSome = true :=
  ⟨((frameBounds_iff .little).1 (literal "ok") (by decide)).mpr (by decide),
    ((frameBounds_iff .big).2 2 [111, 107] (by decide) (by decide)).mpr (by decide)⟩

/-- **The terminator of the largest body lies behind the record.** -/
theorem not_frameBounds :
    ¬ ∀ h : HostEndianness,
      (∀ s : QString, s.toUtf8.length ≤ 4095 → (ofString h s).isSome = true) ∧
      (∀ (size : ℕ) (data : List UInt8), size ≤ data.length → size ≤ 4096 →
        (ofData h size data).isSome = true) := by
  intro h
  have hdata : 4096 ≤ (List.replicate 4096 (0 : UInt8)).length := by rw [List.length_replicate]
  have hinside := (h .little).2 4096 _ hdata (Nat.le_refl _)
  exact absurd ((isSome_ofData_iff .little hdata (Nat.le_refl _)).mp hinside) (by decide)

end LightControl
