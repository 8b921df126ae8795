import Mathlib.Data.List.Basic

/-!
# Writing into a piece of memory

A piece of memory is the list of its cells.  `overwrite` replaces a range of cells; `memcpy` is
the C function, defined only when it reads inside the source and writes inside the destination.

The lemmas say how neighbouring writes compose, which is what a loop that fills a buffer piece by
piece needs.
-/

namespace Memory

variable {α : Type*}

/-- The cells of `dst` with `src` written at offset `off`. -/
def overwrite (dst : List α) (off : ℕ) (src : List α) : List α :=
  dst.take off ++ src ++ dst.drop (off + src.length)

/-- `memcpy(&dst[off], &src[srcOff], n)`; `none` when it would leave either piece. -/
def memcpy (dst : List α) (off : ℕ) (src : List α) (srcOff n : ℕ) : Option (List α) :=
  if srcOff + n ≤ src.length ∧ off + n ≤ dst.length then
    some (overwrite dst off ((src.drop srcOff).take n))
  else none

lemma memcpy_eq_some {dst src : List α} {off srcOff n : ℕ} (hsrc : srcOff + n ≤ src.length)
    (hdst : off + n ≤ dst.length) :
    memcpy dst off src srcOff n = some (overwrite dst off ((src.drop srcOff).take n)) := by
  rw [memcpy, if_pos ⟨hsrc, hdst⟩]

@[simp] lemma overwrite_nil (dst : List α) (off : ℕ) : overwrite dst off [] = dst := by
  simp [overwrite]

lemma length_overwrite {dst src : List α} {off : ℕ} (h : off + src.length ≤ dst.length) :
    (overwrite dst off src).length = dst.length := by
  simp only [overwrite, List.length_append, List.length_take, List.length_drop]
  omega

/-- What a write leaves in front of its end: the cells before it and the cells written. -/
lemma take_overwrite {dst src : List α} {off : ℕ} (h : off + src.length ≤ dst.length) :
    (overwrite dst off src).take (off + src.length) = dst.take off ++ src := by
  have hlen : (dst.take off ++ src).length = off + src.length := by
    simp only [List.length_append, List.length_take]
    omega
  rw [overwrite, ← hlen, List.take_left]

/-- A write leaves the cells before it alone. -/
lemma take_overwrite_of_le {dst src : List α} {off n : ℕ} (hn : n ≤ off)
    (hoff : off ≤ dst.length) : (overwrite dst off src).take n = dst.take n := by
  rw [overwrite, List.append_assoc,
    List.take_append_of_le_length (by rw [List.length_take]; omega), List.take_take,
    Nat.min_eq_left hn]

/-- A write that is not empty and begins at the first cell sets it. -/
lemma head?_overwrite_zero {dst src : List α} (h : src ≠ []) :
    (overwrite dst 0 src).head? = src.head? := by
  rcases List.exists_cons_of_ne_nil h with ⟨b, bs, rfl⟩
  rfl

/-- A write that begins further on leaves the first cell alone. -/
lemma head?_overwrite_of_pos {dst src : List α} {off : ℕ} (hpos : 0 < off)
    (hoff : off ≤ dst.length) : (overwrite dst off src).head? = dst.head? := by
  have htake : (overwrite dst off src).take 1 = dst.take 1 := take_overwrite_of_le hpos hoff
  cases dst with
  | nil => simp at hoff; omega
  | cons d dst =>
      cases hw : overwrite (d :: dst) off src with
      | nil => simp [hw] at htake
      | cons c cs => simpa [hw] using htake

/-- A write followed by a write at its end is one write. -/
lemma overwrite_overwrite {dst as bs : List α} {off : ℕ}
    (h : off + as.length ≤ dst.length) :
    overwrite (overwrite dst off as) (off + as.length) bs = overwrite dst off (as ++ bs) := by
  have hlen : (dst.take off ++ as).length = off + as.length := by
    simp only [List.length_append, List.length_take]
    omega
  have hdrop : (overwrite dst off as).drop (off + as.length + bs.length)
      = dst.drop (off + (as ++ bs).length) := by
    have h₁ : (overwrite dst off as).drop (off + as.length) = dst.drop (off + as.length) := by
      rw [overwrite, ← hlen, List.drop_left, hlen]
    rw [← List.drop_drop, h₁, List.drop_drop, List.length_append, Nat.add_assoc]
  rw [overwrite, take_overwrite h, hdrop, overwrite, List.append_assoc (dst.take off)]

end Memory
