import LightControl.Transport.Soundness
import Mathlib.Data.List.Forall2

/-!
# Decoding undoes encoding

A stream of report frames, with other bytes between them that contain no `S`, is decoded to
exactly those frames, whatever the byte orders of the two hosts and however the stream is cut.

* `decode_filler`, `decode_frame` — the decoder on one gap and on one frame.
* `decode_stream` — by induction, on a stream of frames and gaps.
* `wire_eq` — what the constructor of `report_transport_struct` sends for a size that fits.
* **`addChunks_roundTrip`** — the encoder, the wire and the accumulator put together.
-/

namespace LightControl

open Transducer VarStXport Memory

variable {P : XportSpec}

/-! ## The decoder on gaps and frames -/

/-- Bytes that start nothing are skipped. -/
lemma decode_filler {bs : List UInt8} (h : ∀ b ∈ bs, isStart P b = false) :
    feed (decodeStep P) .idle bs = (.idle, []) := by
  induction bs with
  | nil => rfl
  | cons b bs ih =>
      have hb : decodeStep P .idle b = (.idle, []) := by
        simp [decodeStep, idleStep, h b (by simp)]
      have hrest : ∀ c ∈ bs, isStart P c = false := by
        intro c hc
        exact h c (List.mem_cons_of_mem b hc)
      rw [feed_cons, hb, ih hrest]
      rfl

/-- A piece of a header that does not complete it. -/
lemma decode_header_of_lt {bs got : List UInt8} (hlen : got.length + bs.length < P.hdrSize) :
    feed (decodeStep P) (.header got) bs = (.header (got ++ bs), []) := by
  induction bs generalizing got with
  | nil => rw [List.append_nil, feed_nil]
  | cons b bs ih =>
      simp only [List.length_cons] at hlen
      have hone : decodeStep P (.header got) b = (.header (got ++ [b]), []) := by
        rw [decodeStep, pushHeader, if_pos (by omega)]
      rw [feed_cons, hone, ih (by simp; omega), List.append_assoc]
      rfl

/-- The rest of a header, accepted or rejected. -/
lemma decode_header {bs got : List UInt8} (hne : bs ≠ [])
    (hlen : got.length + bs.length = P.hdrSize) :
    feed (decodeStep P) (.header got) bs
      = (if headerValid P (got ++ bs) then .body (got ++ bs) [] else .idle, []) := by
  rcases List.eq_nil_or_concat' bs with rfl | ⟨init, b, rfl⟩
  · exact absurd rfl hne
  · simp only [List.length_append, List.length_singleton] at hlen
    have happ : got ++ init ++ [b] = got ++ (init ++ [b]) := List.append_assoc _ _ _
    rw [feed_append, decode_header_of_lt (by omega), feed_singleton, decodeStep, pushHeader,
      if_neg (by simp; omega), happ, List.append_nil]

lemma decode_body {bs hdr got : List UInt8} (hne : bs ≠ [])
    (hlen : got.length + bs.length = P.hdrBLen hdr) :
    feed (decodeStep P) (.body hdr got) bs = (.idle, [⟨hdr, got ++ bs⟩]) := by
  induction bs generalizing got with
  | nil => exact absurd rfl hne
  | cons b bs ih =>
      cases bs with
      | nil =>
          rw [List.length_singleton] at hlen
          rw [feed_singleton, decodeStep_incomplete (by omega), pushBody, if_pos (by omega)]
      | cons c bs =>
          simp only [List.length_cons] at hlen
          have hone : decodeStep P (.body hdr got) b = (.body hdr (got ++ [b]), []) := by
            rw [decodeStep_incomplete (by omega), pushBody, if_neg (by omega)]
          have hrest : feed (decodeStep P) (.body hdr (got ++ [b])) (c :: bs)
              = (.idle, [⟨hdr, got ++ [b] ++ c :: bs⟩]) :=
            ih (by simp) (by simp; omega)
          rw [feed_cons, hone, hrest, List.nil_append, List.append_assoc]
          rfl

/-- **One frame**, with at least one byte in its body. -/
lemma decode_frame {f : Frame} (hf : f.Valid P) (hbody : f.body ≠ []) {s : UInt8}
    {rest : List UInt8} (hhdr : f.hdr = s :: rest) (hstart : isStart P s = true) :
    feed (decodeStep P) .idle (f.hdr ++ f.body) = (.idle, [f]) := by
  have hlen := hf.length_hdr
  have hidle : ∀ bs, feed (decodeStep P) .idle (s :: bs)
      = feed (decodeStep P) (.header []) (s :: bs) := by
    intro bs
    simp only [feed_cons, decodeStep, idleStep, hstart, if_true]
  have hheader : feed (decodeStep P) .idle f.hdr = (.body f.hdr [], []) := by
    rw [hhdr, hidle, ← hhdr, decode_header (by simp [hhdr]) (by simpa using hlen),
      List.nil_append, if_pos hf.headerValid]
  rw [feed_append, hheader,
    decode_body hbody (by simpa using hf.length_body)]
  rfl

/-- **A stream of frames and gaps.** -/
theorem decode_stream {fgs : List (Frame × List UInt8)} {g : List UInt8}
    (hg : ∀ b ∈ g, isStart P b = false)
    (h : ∀ p ∈ fgs, feed (decodeStep P) .idle (p.1.hdr ++ p.1.body) = (.idle, [p.1]) ∧
      ∀ b ∈ p.2, isStart P b = false) :
    feed (decodeStep P) .idle (layout g fgs) = (.idle, fgs.map Prod.fst) := by
  induction fgs generalizing g with
  | nil =>
      rw [layout, List.map_nil, List.flatten_nil, List.append_nil]
      exact decode_filler hg
  | cons fg fgs ih =>
      rcases fg with ⟨f, gap⟩
      rcases h (f, gap) (by simp) with ⟨hf, hgap⟩
      have hrest : feed (decodeStep P) .idle (layout gap fgs) = (.idle, fgs.map Prod.fst) := by
        refine ih hgap ?_
        intro p hp
        exact h p (List.mem_cons_of_mem _ hp)
      have hlay : layout g ((f, gap) :: fgs) = g ++ ((f.hdr ++ f.body) ++ layout gap fgs) := by
        simp [layout]
      rw [hlay, feed_append, decode_filler hg, feed_append, hf, hrest]
      rfl

/-! ## The encoder -/

/-- A header that announces the length of the body makes a valid frame. -/
lemma valid_of_length (h : HostEndianness) (charSigned : Bool) {n : ℕ} {body : List UInt8}
    (hn : n ≤ 4096) (hlen : body.length = n) :
    Frame.Valid (reportXport h charSigned) ⟨RepHdr.bytes n, body⟩ ∧
      (reportXport h charSigned).hdrBLen (RepHdr.bytes n) = n := by
  have hval : (UInt8.ofNat (n % 65536 / 256)).toNat * 256 + (UInt8.ofNat (n % 256)).toNat = n := by
    simp only [UInt8.toNat_ofNat']
    omega
  have hbLen : (reportXport h charSigned).hdrBLen (RepHdr.bytes n) = n :=
    (RepHdr.bLen_ofImage h 83 5 2 _ _).trans hval
  refine ⟨⟨rfl, ?_, ?_⟩, hbLen⟩
  · rw [RepHdr.bytes, headerValid_reportXport]
    exact ⟨rfl, rfl, rfl, by omega⟩
  · rw [hbLen, hlen]

/-- The arguments of the constructor that the receiver's limit and the argument's own length
allow. -/
structure ReportFrame where
  size : ℕ
  data : List UInt8
  pos : 1 ≤ size
  le : size ≤ 4095
  fits : size ≤ data.length

/-- Bytes without an `S`. -/
structure Filler where
  bytes : List UInt8
  no_start : (83 : UInt8) ∉ bytes

namespace ReportFrame

/-- The bytes that go over the wire for a frame. -/
def wire (h : HostEndianness) (f : ReportFrame) : Option (List UInt8) :=
  (ReportTransportStruct.ofData h f.size f.data).map (ReportTransportStruct.wireImage h)

/-- The frame that the receiver is to see. -/
def frame (f : ReportFrame) : Frame :=
  ⟨[83, 5, 2, UInt8.ofNat (f.size % 65536 / 256), UInt8.ofNat (f.size % 256)],
    f.data.take f.size⟩

/-- **The constructor and the wire image**: the five header bytes and the first `size` bytes of
the data, on every host. -/
theorem wire_eq (h : HostEndianness) (f : ReportFrame) :
    f.wire h = some (f.frame.hdr ++ f.frame.body) := by
  have hle := f.le
  have hfits := f.fits
  have hsize : f.size < 65536 := by omega
  have hfresh := length_freshBody
  have hbig : reportTransportBiggestBody = 4096 := rfl
  have hdata : (f.data.take f.size).length = f.size := by
    rw [List.length_take]
    omega
  -- the terminator lies behind the bytes that are sent
  have htake : (overwrite (overwrite freshBody 0 (f.data.take f.size)) f.size [0]).take f.size
      = f.data.take f.size := by
    have hfit : 0 + (f.data.take f.size).length ≤ freshBody.length := by omega
    have hprefix := take_overwrite hfit
    rw [hdata, Nat.zero_add, List.take_zero, List.nil_append] at hprefix
    rw [take_overwrite_of_le (Nat.le_refl _) (by rw [length_overwrite hfit]; omega), hprefix]
  rw [wire, ReportTransportStruct.ofData_eq h hsize, if_pos ⟨hfits, by omega⟩, Option.map_some,
    ReportTransportStruct.wireImage_withBody hsize, htake]
  rfl

lemma valid (h : HostEndianness) (charSigned : Bool) (f : ReportFrame) :
    f.frame.Valid (reportXport h charSigned) ∧
      (reportXport h charSigned).hdrBLen f.frame.hdr = f.size := by
  have hle := f.le
  have hfits := f.fits
  refine valid_of_length h charSigned (by omega) ?_
  rw [List.length_take]
  omega

/-- A call that delivers the frame reports its size, and begins its record with its data. -/
lemma of_frameOf {h : HostEndianness} {charSigned : Bool} {c : HandlerCall} {f : ReportFrame}
    (hc : c.frameOf (reportXport h charSigned) = f.frame) :
    ((RepHdr.ofImage h c.hdr).bLen.toHost h).toNat = f.size ∧
      (c.varPart.getD []).take f.size = f.data.take f.size := by
  rcases Frame.mk.inj hc with ⟨hhdr, hbody⟩
  have hsize : (reportXport h charSigned).hdrBLen c.hdr = f.size := by
    rw [hhdr]
    exact (f.valid h charSigned).2
  rw [HandlerCall.body, hsize] at hbody
  exact ⟨hsize, hbody⟩

end ReportFrame

/-! ## Encoder, wire and decoder -/

/-- The stream of the frames' wire images, with a filler in front and one behind each. -/
def wireStream (g : Filler) (wires : List (List UInt8)) (gaps : List Filler) : List UInt8 :=
  g.bytes ++ (List.zipWith (fun w gap => w ++ gap.bytes) wires gaps).flatten

lemma Filler.isStart_eq_false (h : HostEndianness) (charSigned : Bool) (g : Filler) :
    ∀ b ∈ g.bytes, isStart (reportXport h charSigned) b = false := by
  intro b hb
  rw [Bool.eq_false_iff]
  intro hs
  rw [isStart_reportXport] at hs
  exact g.no_start (hs ▸ hb)

/-- **Decode undoes encode.**  `sender` builds the frames and `receiver` reads the stream; the
handler is called once for each frame, in order, with its size and its data, and nothing is left
pending. -/
theorem addChunks_roundTrip (sender receiver : HostEndianness) (charSigned : Bool) (g : Filler)
    (fs : List (ReportFrame × Filler)) :
    ∃ wires, fs.mapM (fun p => p.1.wire sender) = some wires ∧
      ∀ chunks : List (List UInt8), chunks.flatten = wireStream g wires (fs.map Prod.snd) →
        ∃ acc calls,
          addChunks (reportXport receiver charSigned)
            (new (reportXport receiver charSigned) .nullptr).setVarStHandler chunks
              = some (acc, calls) ∧
          List.Forall₂ (fun (c : HandlerCall) (p : ReportFrame × Filler) =>
            ((RepHdr.ofImage receiver c.hdr).bLen.toHost receiver).toNat = p.1.size ∧
              (c.varPart.getD []).take p.1.size = p.1.data.take p.1.size) calls fs ∧
          acc.bufferInProgress = false := by
  have hwires : fs.mapM (fun p => p.1.wire sender)
      = some (fs.map fun p => p.1.frame.hdr ++ p.1.frame.body) := by
    simp only [ReportFrame.wire_eq]
    exact List.mapM_pure
  refine ⟨_, hwires, ?_⟩
  intro chunks hchunks
  obtain ⟨acc, calls, hrun, hdec⟩ :=
    addChunks_new (P := reportXport receiver charSigned) .nullptr chunks
  have hstream : chunks.flatten
      = layout g.bytes (fs.map fun p => (p.1.frame, p.2.bytes)) := by
    rw [hchunks, wireStream, layout, List.zipWith_map, List.zipWith_self, List.map_map]
    rfl
  have hstart : isStart (reportXport receiver charSigned) 83 = true :=
    (isStart_reportXport receiver charSigned 83).mpr rfl
  have hframes : ∀ p ∈ fs.map (fun p : ReportFrame × Filler => (p.1.frame, p.2.bytes)),
      feed (decodeStep (reportXport receiver charSigned)) .idle (p.1.hdr ++ p.1.body)
        = (.idle, [p.1]) ∧
      ∀ b ∈ p.2, isStart (reportXport receiver charSigned) b = false := by
    intro p hp
    rcases List.mem_map.mp hp with ⟨q, -, rfl⟩
    have hpos := q.1.pos
    have hfits := q.1.fits
    refine ⟨decode_frame (q.1.valid receiver charSigned).1 ?_ rfl hstart,
      q.2.isStart_eq_false receiver charSigned⟩
    rw [← List.length_pos_iff, ReportFrame.frame, List.length_take]
    omega
  rw [hstream, decode_stream (g.isStart_eq_false receiver charSigned) hframes,
    Prod.mk.injEq, List.map_map] at hdec
  rcases hdec with ⟨hidle, hcalls⟩
  have hpair : List.Forall₂ (fun (c : HandlerCall) (p : ReportFrame × Filler) =>
      c.frameOf (reportXport receiver charSigned) = p.1.frame) calls fs := by
    refine List.forall₂_map_left_iff.mp (List.forall₂_map_right_iff.mp ?_)
    rw [List.forall₂_eq_eq_eq]
    exact hcalls.symm
  exact ⟨acc, calls, hrun, hpair.imp fun _ _ => ReportFrame.of_frameOf,
    bufferInProgress_of_idle hidle.symm⟩

end LightControl
