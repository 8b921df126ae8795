import LightControl.Qt.QString
import LightControl.Transport.FixedEndian
import LightControl.Transport.VarStXport

/-!
# The report frame

`transport_record.h`: the packed header `rep_hdr`, the body `report_transport_body`, the frame
`report_transport_struct` made of the two, and the instance of `var_st_xport` that reads such
frames.

A header in memory is five bytes: type, length, version and the big-endian body length.
`RepHdr.image` and `RepHdr.ofImage` go between the two forms.
-/

namespace LightControl

open Memory Storable

/-- `report_transport_type`, the character `S`. -/
def reportTransportType : ℕ := 83

/-- `report_transport_version`. -/
def reportTransportVersion : ℕ := 2

/-- `report_transport_biggest_body`. -/
def reportTransportBiggestBody : ℕ := 4096

/-! ## The header -/

/-- `rep_hdr`, packed. -/
structure RepHdr where
  type : UInt8
  len : UInt8
  version : UInt8
  bLen : BigEndian UInt16

namespace RepHdr

/-- `sizeof(struct rep_hdr)`. -/
def size : ℕ := 5

/-- The constructor; `in_len` is an `unsigned int` that `b_len` keeps 16 bits of. -/
def new (h : HostEndianness) (inLen : ℕ) : RepHdr where
  type := UInt8.ofNat reportTransportType
  len := UInt8.ofNat size
  version := UInt8.ofNat reportTransportVersion
  bLen := FixedEndian.ofHost h (UInt16.ofNat inLen)

/-- The header's bytes in memory. -/
def image (h : HostEndianness) (hdr : RepHdr) : List UInt8 :=
  hdr.type :: hdr.len :: hdr.version :: hdr.bLen.image h

/-- The header that lies in the given bytes. -/
def ofImage (h : HostEndianness) (mem : List UInt8) : RepHdr where
  type := mem.getD 0 0
  len := mem.getD 1 0
  version := mem.getD 2 0
  bLen := FixedEndian.ofImage h (mem.drop 3)

lemma length_image (h : HostEndianness) (hdr : RepHdr) : (hdr.image h).length = size := by
  simp only [image, List.length_cons, FixedEndian.image, h.length_store]
  rfl

/-- The header's bytes for a body of `n` bytes. -/
def bytes (n : ℕ) : List UInt8 :=
  [83, 5, 2, UInt8.ofNat (n % 65536 / 256), UInt8.ofNat (n % 256)]

/-- **A header means the same on every host**: the image a host of one byte order makes of a body
length is the image every other host makes of it, type, length and version first and then the
length, most significant byte first. -/
theorem image_new (h : HostEndianness) (inLen : ℕ) :
    (new h inLen).image h =
      [83, 5, 2, UInt8.ofNat (inLen % 65536 / 256), UInt8.ofNat (inLen % 256)] := by
  have hbytes : ((new h inLen).bLen.image h)
      = [UInt8.ofNat ((UInt16.ofNat inLen).toNat / 256),
          UInt8.ofNat ((UInt16.ofNat inLen).toNat % 256)] :=
    FixedEndian.image_ofHost h (UInt16.ofNat inLen)
  have hmod : inLen % 65536 % 256 = inLen % 256 := by omega
  rw [image, hbytes, UInt16.toNat_ofNat', hmod]
  rfl

/-- The body length, read from the header's two last bytes. -/
theorem bLen_ofImage (h : HostEndianness) (t l v hi lo : UInt8) :
    ((ofImage h [t, l, v, hi, lo]).bLen.toHost h).toNat = hi.toNat * 256 + lo.toNat := by
  have hval : (ofImage h [t, l, v, hi, lo]).bLen.toHost h = ofBytes [hi, lo] :=
    FixedEndian.toHost_ofImage h rfl
  rw [hval, toNat_ofBytes_uint16]

end RepHdr

/-! ## The body and the frame -/

/-- The memory of a constructed `report_transport_body`. -/
def freshBody : List UInt8 := List.replicate reportTransportBiggestBody 0

lemma length_freshBody : freshBody.length = reportTransportBiggestBody := List.length_replicate

/-- `report_transport_struct`, packed; `rtBody` is the array `record`. -/
structure ReportTransportStruct where
  rtHdr : RepHdr
  rtBody : List UInt8

namespace ReportTransportStruct

/-- `init`. -/
def init (h : HostEndianness) : ReportTransportStruct where
  rtHdr := { RepHdr.new h 0 with bLen := FixedEndian.ofHost h (UInt16.ofNat freshBody.length) }
  rtBody := freshBody

/-- The value of `rt_hdr.b_len`. -/
def bLen (h : HostEndianness) (t : ReportTransportStruct) : ℕ := (t.rtHdr.bLen.toHost h).toNat

/-- `report_transport_struct(QString const &in_str)`: copy the UTF-8 form of a text that is not
empty and write a terminator at `b_len`, which is one more than the text's code units.  `none` as
for `ofData`. -/
def ofString (h : HostEndianness) (inStr : QString) : Option ReportTransportStruct := do
  let t := init h
  if inStr.length ≠ 0 then
    let inBytes := inStr.toUtf8
    let t := { t with
      rtHdr := { t.rtHdr with bLen := FixedEndian.ofHost h (UInt16.ofNat (inStr.length + 1)) }
      rtBody := freshBody }
    let record ← memcpy t.rtBody 0 inBytes 0 inBytes.length
    let record ← memcpy record (t.bLen h) [0] 0 1
    return { t with rtBody := record }
  else return t

/-- `report_transport_struct(unsigned int size, const QByteArray report_data)`: clear the record,
copy `b_len` bytes and write a terminator behind them.  `none` when one of the accesses leaves
the record or the argument. -/
def ofData (h : HostEndianness) (size : ℕ) (reportData : List UInt8) :
    Option ReportTransportStruct := do
  let t := init h
  let t := { t with
    rtHdr := { t.rtHdr with bLen := FixedEndian.ofHost h (UInt16.ofNat size) }
    rtBody := freshBody }
  let record ← memcpy t.rtBody 0 reportData 0 (t.bLen h)
  let record ← memcpy record (t.bLen h) [0] 0 1
  return { t with rtBody := record }

/-- The frame's bytes in memory. -/
def image (h : HostEndianness) (t : ReportTransportStruct) : List UInt8 :=
  t.rtHdr.image h ++ t.rtBody

/-- The part of the frame that goes over the wire: the header and `b_len` bytes of the body. -/
def wireImage (h : HostEndianness) (t : ReportTransportStruct) : List UInt8 :=
  (t.image h).take (RepHdr.size + t.bLen h)

/-- A frame with the constructor's header, the given `b_len` and the given record. -/
def withBody (h : HostEndianness) (bLen : ℕ) (record : List UInt8) : ReportTransportStruct where
  rtHdr := { RepHdr.new h 0 with bLen := FixedEndian.ofHost h (UInt16.ofNat bLen) }
  rtBody := record

lemma bLen_withBody {h : HostEndianness} {n : ℕ} (hn : n < 65536) (record : List UInt8) :
    (withBody h n record).bLen h = n := by
  rw [bLen, withBody, FixedEndian.toHost_ofHost, UInt16.toNat_ofNat']
  omega

lemma wireImage_withBody {h : HostEndianness} {n : ℕ} (hn : n < 65536) (record : List UInt8) :
    (withBody h n record).wireImage h = RepHdr.bytes n ++ record.take n := by
  have himage : ((withBody h n record).rtHdr).image h = RepHdr.bytes n := RepHdr.image_new h n
  have hsize : RepHdr.size = (RepHdr.bytes n).length := rfl
  rw [wireImage, bLen_withBody hn, image, himage, hsize, List.take_length_add_append]
  rfl

/-- What follows the clearing of the record: a copy of the first `n` bytes of `src`, and a
terminator at `b_len`. -/
lemma copy_terminate (h : HostEndianness) (n bLen : ℕ) (src : List UInt8) :
    ((memcpy freshBody 0 src 0 n).bind fun record =>
      (memcpy record bLen [0] 0 1).bind fun record => some (withBody h bLen record))
      = if n ≤ src.length ∧ n ≤ reportTransportBiggestBody ∧ bLen < reportTransportBiggestBody then
          some (withBody h bLen (overwrite (overwrite freshBody 0 (src.take n)) bLen [0]))
        else none := by
  have hfresh := length_freshBody
  by_cases hcopy : n ≤ src.length ∧ n ≤ reportTransportBiggestBody
  · rcases hcopy with ⟨hsrc, hdst⟩
    have htake : (src.take n).length = n := by
      rw [List.length_take]
      omega
    have hrecord : (overwrite freshBody 0 (src.take n)).length = reportTransportBiggestBody := by
      rw [length_overwrite (by omega), hfresh]
    rw [memcpy_eq_some (by omega) (by omega), List.drop_zero, Option.bind_some]
    by_cases hplace : bLen < reportTransportBiggestBody
    · rw [memcpy_eq_some (by simp) (by omega), if_pos ⟨hsrc, hdst, hplace⟩]
      rfl
    · rw [memcpy, if_neg (by omega), if_neg fun h => hplace h.2.2]
      rfl
  · rw [memcpy, if_neg (by omega), if_neg fun h => hcopy ⟨h.1, h.2.1⟩]
    rfl

/-- **The constructor from data** goes through exactly if the data has `size` bytes and the record
has a place for the terminator behind them. -/
theorem ofData_eq (h : HostEndianness) {size : ℕ} (hsize : size < 65536) (data : List UInt8) :
    ofData h size data = if size ≤ data.length ∧ size < reportTransportBiggestBody then
        some (withBody h size (overwrite (overwrite freshBody 0 (data.take size)) size [0]))
      else none := by
  have hcopies : ofData h size data
      = (memcpy freshBody 0 data 0 ((withBody h size freshBody).bLen h)).bind fun record =>
          (memcpy record ((withBody h size freshBody).bLen h) [0] 0 1).bind fun record =>
            some (withBody h size record) := rfl
  rw [hcopies, bLen_withBody hsize, copy_terminate]
  by_cases hfits : size ≤ data.length ∧ size < reportTransportBiggestBody
  · rw [if_pos hfits, if_pos ⟨hfits.1, Nat.le_of_lt hfits.2, hfits.2⟩]
  · rw [if_neg hfits, if_neg fun hall => hfits ⟨hall.1, hall.2.2⟩]

/-- **The constructor from a text** goes through exactly if the record has a place for the UTF-8
form and for the terminator, whose place is counted in code units. -/
theorem ofString_eq (h : HostEndianness) {inStr : QString} (hne : inStr ≠ [])
    (hlen : inStr.length + 1 < 65536) :
    ofString h inStr = if inStr.toUtf8.length ≤ reportTransportBiggestBody ∧
        inStr.length + 1 < reportTransportBiggestBody then
        some (withBody h (inStr.length + 1)
          (overwrite (overwrite freshBody 0 inStr.toUtf8) (inStr.length + 1) [0]))
      else none := by
  have hlength : inStr.length ≠ 0 := by
    rwa [Ne, List.length_eq_zero_iff]
  have hcopies : ofString h inStr
      = (memcpy freshBody 0 inStr.toUtf8 0 inStr.toUtf8.length).bind fun record =>
          (memcpy record ((withBody h (inStr.length + 1) freshBody).bLen h) [0] 0 1).bind
            fun record => some (withBody h (inStr.length + 1) record) := by
    rw [ofString, if_pos hlength]
    rfl
  rw [hcopies, bLen_withBody hlen, copy_terminate, List.take_length]
  by_cases hfits : inStr.toUtf8.length ≤ reportTransportBiggestBody ∧
      inStr.length + 1 < reportTransportBiggestBody
  · rw [if_pos hfits, if_pos ⟨Nat.le_refl _, hfits⟩]
  · rw [if_neg hfits, if_neg fun hall => hfits hall.2]

end ReportTransportStruct

/-! ## The accumulator of report frames -/

/-- `var_st_xport<rep_hdr_t, 'S', 2, 4096, report_transport_body_t>` on a host of the given byte
order and signedness of `char`. -/
def reportXport (h : HostEndianness) (charSigned : Bool) : XportSpec where
  hdrSize := RepHdr.size
  freshHdr := (RepHdr.new h 0).image h
  hdrType mem := (RepHdr.ofImage h mem).type.toNat
  hdrLen mem := (RepHdr.ofImage h mem).len.toNat
  hdrVersion mem := (RepHdr.ofImage h mem).version.toNat
  hdrBLen mem := ((RepHdr.ofImage h mem).bLen.toHost h).toNat
  validType := reportTransportType
  validVersion := reportTransportVersion
  bodyBiggest := reportTransportBiggestBody
  freshBody := freshBody
  charSigned := charSigned
  hdrSize_pos := by decide
  hdrSize_lt := by decide
  length_freshHdr := RepHdr.length_image h _
  hdrBLen_lt _ := UInt16.toNat_lt _
  body_fits := by rw [freshBody, List.length_replicate]

section Instance

variable (h : HostEndianness) (charSigned : Bool)

/-- Only the byte `S` starts a frame. -/
lemma isStart_reportXport (b : UInt8) :
    VarStXport.isStart (reportXport h charSigned) b = true ↔ b = 83 := by
  have hnum : (83 : UInt8).toNat = 83 := rfl
  simp only [VarStXport.isStart, reportXport, reportTransportType, beq_iff_eq]
  rw [CTypes.toUnsigned_charValue_eq_iff (by decide), ← hnum, UInt8.toNat_inj]

/-- **The headers that are accepted**: type `S`, length 5, version 2 and a body length up to
4096. -/
theorem headerValid_reportXport (t l v hi lo : UInt8) :
    VarStXport.headerValid (reportXport h charSigned) [t, l, v, hi, lo] = true ↔
      t = 83 ∧ l = 5 ∧ v = 2 ∧ hi.toNat * 256 + lo.toNat ≤ 4096 := by
  have ht : t.toNat = 83 ↔ t = 83 := by
    rw [← UInt8.toNat_inj]
    rfl
  have hl : l.toNat = 5 ↔ l = 5 := by
    rw [← UInt8.toNat_inj]
    rfl
  have hv : v.toNat = 2 ↔ v = 2 := by
    rw [← UInt8.toNat_inj]
    rfl
  simp only [VarStXport.headerValid, reportXport, RepHdr.bLen_ofImage, Bool.and_eq_true,
    beq_iff_eq, decide_eq_true_eq, reportTransportType, reportTransportVersion, RepHdr.size,
    reportTransportBiggestBody]
  simp only [RepHdr.ofImage, List.getD_cons_zero, List.getD_cons_succ, ht, hl, hv]
  tauto

/-- An accepted header, byte by byte. -/
lemma headerValid_cases {h : HostEndianness} {charSigned : Bool} {hdr : List UInt8}
    (hlen : hdr.length = 5) (hv : VarStXport.headerValid (reportXport h charSigned) hdr = true) :
    ∃ hi lo : UInt8, hdr = [83, 5, 2, hi, lo] ∧
      (reportXport h charSigned).hdrBLen hdr = hi.toNat * 256 + lo.toNat ∧
      hi.toNat * 256 + lo.toNat ≤ 4096 := by
  obtain ⟨t, l, v, hi, lo, rfl⟩ : ∃ t l v hi lo, hdr = [t, l, v, hi, lo] := by
    match hdr, hlen with
    | [t, l, v, hi, lo], _ => exact ⟨t, l, v, hi, lo, rfl⟩
  rw [headerValid_reportXport] at hv
  rcases hv with ⟨rfl, rfl, rfl, hle⟩
  exact ⟨hi, lo, rfl, RepHdr.bLen_ofImage h 83 5 2 hi lo, hle⟩

end Instance

end LightControl
