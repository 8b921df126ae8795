import Mathlib.Data.List.Basic

/-!
# Data types of fixed endianness

`fixedendian.h`: objects whose bytes lie in memory in one order on every host.  A host stores the
bytes of a value in its own order; `FixedEndian` swaps the value first when the host's order is
not the wanted one.

* `FixedEndian.image_ofHost` — the bytes in memory do not depend on the host.
* `FixedEndian.toHost_ofImage` — the value read back does not depend on the host either, so
  two hosts of different endianness can exchange the object by copying its bytes.
-/

namespace LightControl

/-- The byte order of the processor. -/
inductive HostEndianness
  | little
  | big
  deriving DecidableEq, Repr

/-- `HostEndianness().isBig()`. -/
def HostEndianness.isBig : HostEndianness → Bool
  | little => false
  | big => true

/-- What the templates need of their type `T`: its bytes, most significant first, and back. -/
class Storable (T : Type) where
  size : ℕ
  bytes : T → List UInt8
  ofBytes : List UInt8 → T
  length_bytes : ∀ t, (bytes t).length = size
  ofBytes_bytes : ∀ t, ofBytes (bytes t) = t
  bytes_ofBytes : ∀ bs, bs.length = size → bytes (ofBytes bs) = bs

open Storable

instance : Storable UInt16 where
  size := 2
  bytes v := [UInt8.ofNat (v.toNat / 256), UInt8.ofNat (v.toNat % 256)]
  ofBytes
    | [hi, lo] => UInt16.ofNat (hi.toNat * 256 + lo.toNat)
    | _ => 0
  length_bytes _ := rfl
  ofBytes_bytes v := by
    have hv := v.toNat_lt
    apply UInt16.toNat_inj.mp
    simp only [UInt8.toNat_ofNat', UInt16.toNat_ofNat']
    omega
  bytes_ofBytes
    | [hi, lo], _ => by
        have hhi := hi.toNat_lt
        have hlo := lo.toNat_lt
        have hv : (UInt16.ofNat (hi.toNat * 256 + lo.toNat)).toNat = hi.toNat * 256 + lo.toNat := by
          rw [UInt16.toNat_ofNat']
          omega
        simp only [hv, List.cons.injEq, and_true]
        refine ⟨UInt8.toNat_inj.mp ?_, UInt8.toNat_inj.mp ?_⟩ <;>
          · rw [UInt8.toNat_ofNat']
            omega

lemma toNat_ofBytes_uint16 (hi lo : UInt8) :
    (ofBytes [hi, lo] : UInt16).toNat = hi.toNat * 256 + lo.toNat := by
  have hhi := hi.toNat_lt
  have hlo := lo.toNat_lt
  show (UInt16.ofNat (hi.toNat * 256 + lo.toNat)).toNat = _
  rw [UInt16.toNat_ofNat']
  omega

variable {T : Type} [Storable T]

/-- The bytes of `t` as the host keeps them in memory. -/
def HostEndianness.store (h : HostEndianness) (t : T) : List UInt8 :=
  if h.isBig then bytes t else (bytes t).reverse

/-- The value the host reads from memory. -/
def HostEndianness.load (h : HostEndianness) (bs : List UInt8) : T :=
  ofBytes (if h.isBig then bs else bs.reverse)

lemma HostEndianness.store_load (h : HostEndianness) {bs : List UInt8}
    (hbs : bs.length = size T) : h.store (h.load bs : T) = bs := by
  simp only [store, load]
  split
  · exact bytes_ofBytes bs hbs
  · rw [bytes_ofBytes _ (by rw [List.length_reverse, hbs]), List.reverse_reverse]

lemma HostEndianness.length_store (h : HostEndianness) (t : T) :
    (h.store t).length = size T := by
  simp only [store]
  split <;> simp [length_bytes]

/-- An object of type `T` kept in memory in the byte order that `wantBig` asks for. -/
structure FixedEndian (T : Type) (wantBig : Bool) where
  rep : T

namespace FixedEndian

/-- `swap`: the argument itself when the host has the wanted order, else the value whose bytes
are copied from the argument's last to its first. -/
def swap (h : HostEndianness) (wantBig : Bool) (arg : T) : T :=
  if h.isBig == wantBig then arg else h.load (h.store arg).reverse

variable {wantBig : Bool}

/-- The conversion constructor. -/
def ofHost (h : HostEndianness) (t : T) : FixedEndian T wantBig := ⟨swap h wantBig t⟩

/-- The conversion operator. -/
def toHost (h : HostEndianness) (x : FixedEndian T wantBig) : T := swap h wantBig x.rep

/-- The object's bytes in memory. -/
def image (h : HostEndianness) (x : FixedEndian T wantBig) : List UInt8 := h.store x.rep

/-- The object that lies in the given bytes. -/
def ofImage (h : HostEndianness) (bs : List UInt8) : FixedEndian T wantBig := ⟨h.load bs⟩

/-- **The memory image is the same on every host.** -/
theorem image_ofHost (h : HostEndianness) (t : T) :
    image h (ofHost h t : FixedEndian T wantBig)
      = if wantBig then bytes t else (bytes t).reverse := by
  simp only [image, ofHost, swap]
  cases h <;> cases wantBig <;>
    simp [HostEndianness.isBig, HostEndianness.store, HostEndianness.load, bytes_ofBytes,
      length_bytes]

/-- **The value read from memory is the same on every host.** -/
theorem toHost_ofImage (h : HostEndianness) {bs : List UInt8} (hbs : bs.length = size T) :
    toHost h (ofImage h bs : FixedEndian T wantBig)
      = ofBytes (if wantBig then bs else bs.reverse) := by
  simp only [toHost, ofImage, swap, h.store_load hbs]
  cases h <;> cases wantBig <;> simp [HostEndianness.isBig, HostEndianness.load]

/-- A host reads back what it stored. -/
theorem toHost_ofHost (h : HostEndianness) (t : T) :
    toHost h (ofHost h t : FixedEndian T wantBig) = t := by
  simp only [toHost, ofHost, swap]
  cases h <;> cases wantBig <;>
    simp [HostEndianness.isBig, HostEndianness.store, HostEndianness.load, bytes_ofBytes,
      ofBytes_bytes, length_bytes]

end FixedEndian

/-- `BigEndian<T>`. -/
abbrev BigEndian (T : Type) := FixedEndian T true

end LightControl
