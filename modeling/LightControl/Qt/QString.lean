import Mathlib.Data.List.Chain
import Mathlib.Data.List.TakeWhile
import Mathlib.Tactic.Tauto

/-!
# Text and lines

`QString` is the list of its UTF-16 code units.  `fromUtf8` is the conversion that
`QString(QByteArray)` makes, `toUtf8` the one that `QByteArray::append(QString)` makes, and
`readLine` is `QIODevice::readLine` on the bytes a device has received.

Text without special characters is its own encoding: `fromUtf8_toUtf8_of_plain`.  How many bytes
a text takes is `length_toUtf8`.
-/

namespace LightControl

/-- A string, as its UTF-16 code units. -/
abbrev QString := List UInt16

namespace QString

/-- A string literal of the source; all of them are ASCII. -/
def literal (s : String) : QString := s.toList.map fun c => UInt16.ofNat c.toNat

/-! ## From bytes -/

/-- `U+FFFD`, which stands for a byte that starts no valid sequence. -/
def replacement : UInt16 := 0xFFFD

/-- The code units of a code point. -/
def ofCodePoint (n : ℕ) : QString :=
  if n < 0x10000 then [UInt16.ofNat n]
  else
    [UInt16.ofNat (0xD800 + (n - 0x10000) / 0x400),
      UInt16.ofNat (0xDC00 + (n - 0x10000) % 0x400)]

/-- The six payload bits of the continuation byte at position `i`. -/
def continuation (bytes : List UInt8) (i : ℕ) : Option ℕ :=
  bytes[i]?.bind fun b => if 0x80 ≤ b.toNat ∧ b.toNat < 0xC0 then some (b.toNat - 0x80) else none

/-- The code point that starts with `b`, and the number of further bytes it takes. -/
def sequence (b : UInt8) (rest : List UInt8) : Option (ℕ × ℕ) :=
  let lead := b.toNat
  if lead < 0x80 then some (lead, 0)
  else if 0xC2 ≤ lead ∧ lead < 0xE0 then
    (continuation rest 0).map fun x => ((lead - 0xC0) * 0x40 + x, 1)
  else if 0xE0 ≤ lead ∧ lead < 0xF0 then
    (continuation rest 0).bind fun x => (continuation rest 1).bind fun y =>
      let n := (lead - 0xE0) * 0x1000 + x * 0x40 + y
      if 0x800 ≤ n ∧ ¬ (0xD800 ≤ n ∧ n < 0xE000) then some (n, 2) else none
  else if 0xF0 ≤ lead ∧ lead < 0xF5 then
    (continuation rest 0).bind fun x => (continuation rest 1).bind fun y =>
      (continuation rest 2).bind fun z =>
        let n := (lead - 0xF0) * 0x40000 + x * 0x1000 + y * 0x40 + z
        if 0x10000 ≤ n ∧ n < 0x110000 then some (n, 3) else none
  else none

/-- The text of a list of bytes whose first `skip` bytes are already read. -/
def decode : ℕ → List UInt8 → QString
  | _, [] => []
  | skip + 1, _ :: rest => decode skip rest
  | 0, b :: rest =>
      match sequence b rest with
      | some (n, more) => ofCodePoint n ++ decode more rest
      | none => replacement :: decode 0 rest

/-- `QString(QByteArray)`: the bytes up to the first zero byte, without a byte order mark. -/
def fromUtf8 (bytes : List UInt8) : QString :=
  match bytes.takeWhile (· != 0) with
  | 0xEF :: 0xBB :: 0xBF :: rest => decode 0 rest
  | text => decode 0 text

/-! ## To bytes -/

/-- The bytes of a code point. -/
def encodeCodePoint (n : ℕ) : List UInt8 :=
  if n < 0x80 then [UInt8.ofNat n]
  else if n < 0x800 then [UInt8.ofNat (0xC0 + n / 0x40), UInt8.ofNat (0x80 + n % 0x40)]
  else if n < 0x10000 then
    [UInt8.ofNat (0xE0 + n / 0x1000), UInt8.ofNat (0x80 + n / 0x40 % 0x40),
      UInt8.ofNat (0x80 + n % 0x40)]
  else
    [UInt8.ofNat (0xF0 + n / 0x40000), UInt8.ofNat (0x80 + n / 0x1000 % 0x40),
      UInt8.ofNat (0x80 + n / 0x40 % 0x40), UInt8.ofNat (0x80 + n % 0x40)]

/-- The first half of a surrogate pair. -/
def isHighSurrogate (u : UInt16) : Bool := 0xD800 ≤ u.toNat && u.toNat < 0xDC00

/-- The second half of a surrogate pair. -/
def isLowSurrogate (u : UInt16) : Bool := 0xDC00 ≤ u.toNat && u.toNat < 0xE000

/-- The bytes of a code unit that is in no pair; half a pair becomes a question mark. -/
def encodeUnit (u : UInt16) : List UInt8 :=
  if isHighSurrogate u || isLowSurrogate u then [0x3F] else encodeCodePoint u.toNat

/-- `toUtf8`. -/
def toUtf8 : QString → List UInt8
  | [] => []
  | [u] => encodeUnit u
  | u :: v :: rest =>
      if isHighSurrogate u && isLowSurrogate v then
        encodeCodePoint (0x10000 + (u.toNat - 0xD800) * 0x400 + (v.toNat - 0xDC00)) ++ toUtf8 rest
      else encodeUnit u ++ toUtf8 (v :: rest)

/-- `toLatin1`: one byte for each code unit, a question mark for those that have none. -/
def toLatin1 (s : QString) : List UInt8 :=
  s.map fun u => if u.toNat < 0x100 then UInt8.ofNat u.toNat else 0x3F

/-! ## Plain text -/

/-- ASCII text without zero characters. -/
def Plain (s : QString) : Prop := ∀ u ∈ s, 0 < u.toNat ∧ u.toNat < 0x80

instance (s : QString) : Decidable (Plain s) := List.decidableBAll _ s

lemma toUtf8_plain {s : QString} (h : Plain s) :
    toUtf8 s = s.map fun u => UInt8.ofNat u.toNat := by
  induction s with
  | nil => rfl
  | cons u s ih =>
      have hu := h u (by simp)
      have hunit : encodeUnit u = [UInt8.ofNat u.toNat] := by
        simp [encodeUnit, encodeCodePoint, isHighSurrogate, isLowSurrogate, hu.2,
          show ¬ 0xD800 ≤ u.toNat by omega, show ¬ 0xDC00 ≤ u.toNat by omega]
      cases s with
      | nil => rw [toUtf8, hunit, List.map_singleton]
      | cons v rest =>
          have hrest : toUtf8 (v :: rest) = (v :: rest).map fun u => UInt8.ofNat u.toNat := by
            refine ih ?_
            intro w hw
            exact h w (List.mem_cons_of_mem u hw)
          rw [toUtf8, if_neg (by simp [isHighSurrogate]; omega), hrest, hunit]
          rfl

lemma decode_plain {bytes : List UInt8} (h : ∀ b ∈ bytes, b.toNat < 0x80) :
    decode 0 bytes = bytes.map fun b => UInt16.ofNat b.toNat := by
  induction bytes with
  | nil => rfl
  | cons b rest ih =>
      have hb := h b (by simp)
      have hrest : decode 0 rest = rest.map fun b => UInt16.ofNat b.toNat := by
        refine ih ?_
        intro c hc
        exact h c (List.mem_cons_of_mem b hc)
      rw [decode, sequence, if_pos hb]
      simp [ofCodePoint, show b.toNat < 0x10000 by omega, hrest]

lemma fromUtf8_plain {bytes : List UInt8} (h : ∀ b ∈ bytes, 0 < b.toNat ∧ b.toNat < 0x80) :
    fromUtf8 bytes = bytes.map fun b => UInt16.ofNat b.toNat := by
  have hzero : bytes.takeWhile (· != 0) = bytes := by
    rw [List.takeWhile_eq_self_iff]
    intro b hb
    have hb' := h b hb
    rw [bne_iff_ne]
    rintro rfl
    exact absurd hb'.1 (by decide)
  rw [fromUtf8, hzero]
  split
  case h_1 rest =>
    have := h 0xEF (by simp)
    simp at this
  case h_2 => exact decode_plain fun b hb => (h b hb).2

lemma toUtf8_bytes {s : QString} (h : Plain s) :
    ∀ b ∈ toUtf8 s, 0 < b.toNat ∧ b.toNat < 0x80 := by
  intro b hb
  rw [toUtf8_plain h] at hb
  rcases List.mem_map.mp hb with ⟨u, hu, rfl⟩
  have := h u hu
  rw [UInt8.toNat_ofNat']
  omega

/-- **Plain text survives the way to bytes and back.** -/
theorem fromUtf8_toUtf8_of_plain {s : QString} (h : Plain s) : fromUtf8 (toUtf8 s) = s := by
  rw [fromUtf8_plain (toUtf8_bytes h), toUtf8_plain h, List.map_map]
  have hid : ∀ u ∈ s, ((fun b => UInt16.ofNat b.toNat) ∘ fun u => UInt8.ofNat u.toNat) u = u := by
    intro u hu
    have := h u hu
    apply UInt16.toNat_inj.mp
    simp only [Function.comp_apply, UInt8.toNat_ofNat', UInt16.toNat_ofNat']
    omega
  rw [List.map_congr_left hid, List.map_id']

/-! ## Lengths -/

/-- A code unit that takes one byte when it is in no pair: ASCII, or half a pair. -/
def OneByte (u : UInt16) : Prop :=
  u.toNat < 0x80 ∨ isHighSurrogate u = true ∨ isLowSurrogate u = true

/-- Every code unit takes one byte: the text is ASCII, but for surrogates that are in no pair. -/
def OneByteEach (s : QString) : Prop :=
  (∀ u ∈ s, OneByte u) ∧ s.IsChain fun u v => ¬ (isHighSurrogate u && isLowSurrogate v) = true

instance (u : UInt16) : Decidable (OneByte u) :=
  inferInstanceAs (Decidable (u.toNat < 0x80 ∨ isHighSurrogate u = true ∨
    isLowSurrogate u = true))

instance (s : QString) : Decidable (OneByteEach s) :=
  @instDecidableAnd _ _ (List.decidableBAll _ s) inferInstance

lemma length_encodeUnit (u : UInt16) :
    1 ≤ (encodeUnit u).length ∧ ((encodeUnit u).length = 1 ↔ OneByte u) := by
  rw [encodeUnit]
  split
  case isTrue hhalf =>
    rw [Bool.or_eq_true] at hhalf
    exact ⟨Nat.le_refl _, iff_of_true rfl (Or.inr hhalf)⟩
  case isFalse hhalf =>
    rw [Bool.or_eq_true] at hhalf
    simp only [OneByte, hhalf, or_false, encodeCodePoint]
    split
    case isTrue hascii => simp [hascii]
    case isFalse hascii =>
      split
      case isTrue => simp [hascii]
      case isFalse => split <;> simp [hascii]

lemma oneByteEach_cons_cons (u v : UInt16) (rest : QString) :
    OneByteEach (u :: v :: rest) ↔
      ¬ (isHighSurrogate u && isLowSurrogate v) = true ∧ OneByte u ∧ OneByteEach (v :: rest) := by
  simp only [OneByteEach, List.forall_mem_cons, List.isChain_cons_cons]
  tauto

/-- **Text never gets shorter as UTF-8**, and it keeps its length exactly if every code unit takes
one byte. -/
theorem length_toUtf8 (s : QString) :
    s.length ≤ (toUtf8 s).length ∧ ((toUtf8 s).length = s.length ↔ OneByteEach s) := by
  induction s using toUtf8.induct with
  | case1 => exact ⟨Nat.le_refl _, iff_of_true rfl ⟨by simp, List.IsChain.nil⟩⟩
  | case2 u =>
      rcases length_encodeUnit u with ⟨hle, heq⟩
      rw [toUtf8, List.length_singleton]
      refine ⟨hle, heq.trans ?_⟩
      simp [OneByteEach]
  | case3 u v rest hpair ih =>
      -- a pair takes four bytes
      have hfour : ∀ n, 0x10000 ≤ n → (encodeCodePoint n).length = 4 := by
        intro n hn
        rw [encodeCodePoint, if_neg (by omega), if_neg (by omega), if_neg (by omega)]
        rfl
      rw [toUtf8, if_pos hpair, List.length_append, hfour _ (by omega), oneByteEach_cons_cons]
      simp only [List.length_cons, hpair, not_true_eq_false, false_and, iff_false]
      omega
  | case4 u v rest hpair ih =>
      rcases length_encodeUnit u with ⟨hle, heq⟩
      rcases ih with ⟨hrest, hrestEq⟩
      rw [toUtf8, if_neg hpair, List.length_append, oneByteEach_cons_cons, ← heq, ← hrestEq,
        List.length_cons (a := u)]
      refine ⟨by omega, ?_⟩
      constructor
      · intro hlen
        exact ⟨hpair, by omega, by omega⟩
      · rintro ⟨-, hu, hv⟩
        omega

end QString

/-! ## Lines -/

/-- `readLine(maxSize)` on the bytes received: up to the first line end, that included, and no
more than `maxSize` bytes. -/
def readLine : ℕ → List UInt8 → List UInt8
  | 0, _ => []
  | _, [] => []
  | maxSize + 1, b :: bytes => if b = 10 then [10] else b :: readLine maxSize bytes

@[simp] lemma readLine_nil (maxSize : ℕ) : readLine maxSize [] = [] := by
  cases maxSize <;> rfl

lemma readLine_append_drop (maxSize : ℕ) (bytes : List UInt8) :
    readLine maxSize bytes ++ bytes.drop (readLine maxSize bytes).length = bytes := by
  induction bytes generalizing maxSize with
  | nil => simp
  | cons b bytes ih =>
      cases maxSize with
      | zero => simp [readLine]
      | succ maxSize =>
          simp only [readLine]
          split
          case isTrue hb => simp [hb]
          case isFalse => simp [ih]

lemma readLine_eq_nil_iff {maxSize : ℕ} (hpos : 0 < maxSize) {bytes : List UInt8} :
    readLine maxSize bytes = [] ↔ bytes = [] := by
  rcases Nat.exists_eq_add_of_lt hpos with ⟨n, rfl⟩
  cases bytes with
  | nil => simp [readLine]
  | cons b bytes =>
      rw [Nat.zero_add, readLine]
      split <;> simp

/-- A line is too short for a command when a single byte is unread, or when the unread bytes begin
with a line end. -/
lemma readLine_length_lt_two {maxSize : ℕ} (hmax : 2 ≤ maxSize) (bytes : List UInt8) :
    (readLine maxSize bytes).length < 2 ↔ bytes.length < 2 ∨ bytes.head? = some 10 := by
  rcases Nat.exists_eq_add_of_le hmax with ⟨n, rfl⟩
  rw [Nat.add_comm]
  cases bytes with
  | nil => simp
  | cons b bytes =>
      rw [readLine]
      split
      case isTrue hb => simp [hb]
      case isFalse hb =>
        have hrest : readLine (n + 1) bytes = [] ↔ bytes = [] :=
          readLine_eq_nil_iff (Nat.succ_pos n)
        have hlength : (readLine (n + 1) bytes).length < 1 ↔ bytes.length < 1 := by
          rw [Nat.lt_one_iff, Nat.lt_one_iff, List.length_eq_zero_iff, List.length_eq_zero_iff,
            hrest]
        simp only [List.length_cons, List.head?_cons, Option.some.injEq, hb, or_false]
        omega

lemma readLine_of_length_le {maxSize : ℕ} {bytes : List UInt8} (hne : (10 : UInt8) ∉ bytes)
    (hle : bytes.length ≤ maxSize) : readLine maxSize bytes = bytes := by
  induction bytes generalizing maxSize with
  | nil => exact readLine_nil maxSize
  | cons b bytes ih =>
      rw [List.mem_cons, not_or] at hne
      cases maxSize with
      | zero => simp at hle
      | succ maxSize => rw [readLine, if_neg (Ne.symm hne.1), ih hne.2 (by simpa using hle)]

/-- Without a line end, a line shorter than the limit is all there is. -/
lemma readLine_eq_self {maxSize : ℕ} {bytes : List UInt8} (hne : (10 : UInt8) ∉ bytes)
    (hlt : (readLine maxSize bytes).length < maxSize) : readLine maxSize bytes = bytes := by
  induction bytes generalizing maxSize with
  | nil => exact readLine_nil maxSize
  | cons b bytes ih =>
      rw [List.mem_cons, not_or] at hne
      cases maxSize with
      | zero => simp at hlt
      | succ maxSize =>
          rw [readLine, if_neg (Ne.symm hne.1)] at hlt ⊢
          rw [ih hne.2 (by simpa using hlt)]

end LightControl
