import LightControl.Transport.HeldFrames

/-!
# Recovery on a quiet line

Whatever garbage has been read, the accumulator finds back to the frames when the line carries no
start byte for long enough: a header in progress is completed or thrown away, and a body in
progress is completed.

* `Phase.debt` — how many more bytes a phase can swallow; `quiet_step` lowers it.
* `decode_quiet` — a quiet line completes one frame at most, and ends idle when it is as long as
  the debt.
* `recovery_bound_iff` — for report frames 4100 bytes are enough from every reachable state, and
  fewer are not.
* `recovery_roundTrip` — the frames behind such a line are delivered, and before them one piece
  of junk at most.
-/

namespace LightControl

open Transducer VarStXport

variable {P : XportSpec}

/-- How many bytes without a start byte make the decoder idle.  An empty body is given up with the
byte behind it. -/
def Phase.debt (P : XportSpec) : Phase → ℕ
  | idle => 0
  | header got => P.hdrSize - got.length + max 1 P.bodyBiggest
  | body hdr got => max 1 (P.hdrBLen hdr - got.length)

lemma Phase.Reads.ok {s : List UInt8} {fs : List Frame} {ph : Phase} (h : ph.Reads P s fs) :
    ph.Ok P := by
  cases ph with
  | idle => trivial
  | header got =>
      rcases h with ⟨r, -, -, -, hlt⟩
      exact hlt
  | body hdr got =>
      rcases h with ⟨r, -, -, hlen, -, hv, hlt | ⟨rfl, -⟩⟩
      · exact ⟨hlen, hv, hlt.le⟩
      · exact ⟨hlen, hv, Nat.zero_le _⟩

/-- A header in progress has its start byte, so no phase owes more than the rest of a header and
the biggest body. -/
lemma Phase.Reads.debt_le {s : List UInt8} {fs : List Frame} {ph : Phase}
    (h : ph.Reads P s fs) : ph.debt P ≤ P.hdrSize - 1 + max 1 P.bodyBiggest := by
  cases ph with
  | idle => exact Nat.zero_le _
  | header got =>
      rcases h with ⟨r, -, -, hstart, -⟩
      have hpos := List.length_pos_iff.mpr hstart.ne_nil
      simp only [Phase.debt]
      omega
  | body hdr got =>
      rcases h with ⟨r, -, -, -, -, hv, -⟩
      have hle := bLen_le_of_headerValid hv
      simp only [Phase.debt]
      omega

/-- **One quiet byte**: the decoder gives something up, with one frame at most, or it goes on with
what it is reading and owes less. -/
lemma quiet_step {ph : Phase} (hok : ph.Ok P) {b : UInt8} (hb : isStart P b = false) :
    (∃ fs, decodeStep P ph b = (.idle, fs) ∧ fs.length ≤ 1) ∨
      ∃ ph', decodeStep P ph b = (ph', []) ∧ ph'.Ok P ∧ ph'.debt P < ph.debt P := by
  have hidle : idleStep P b = .idle := by rw [idleStep, if_neg (by simp [hb])]
  cases ph with
  | idle => exact Or.inl ⟨[], by rw [decodeStep, hidle], by simp⟩
  | header got =>
      have hlt : got.length < P.hdrSize := hok
      rw [decodeStep, pushHeader]
      split
      case isTrue hmore =>
        refine Or.inr ⟨_, rfl, by simpa [Phase.Ok] using hmore, ?_⟩
        simp only [Phase.debt, List.length_append, List.length_singleton]
        omega
      case isFalse hdone =>
        split
        case isTrue hv =>
          have hle := bLen_le_of_headerValid hv
          refine Or.inr ⟨_, rfl, ⟨by simp; omega, hv, Nat.zero_le _⟩, ?_⟩
          simp only [Phase.debt, List.length_nil]
          omega
        case isFalse => exact Or.inl ⟨[], rfl, by simp⟩
  | body hdr got =>
      rcases hok with ⟨hlen, hv, hle⟩
      rcases le_or_gt (P.hdrBLen hdr) got.length with hge | hlt
      · exact Or.inl ⟨_, by rw [decodeStep_complete hge, hidle], by simp⟩
      · rw [decodeStep_incomplete hlt, pushBody]
        split
        case isTrue => exact Or.inl ⟨_, rfl, by simp⟩
        case isFalse hmore =>
          refine Or.inr ⟨_, rfl, ⟨hlen, hv, by simp; omega⟩, ?_⟩
          simp only [Phase.debt, List.length_append, List.length_singleton]
          omega

/-- **A quiet line** completes one frame at most, and when it is long enough it leaves nothing
pending. -/
lemma decode_quiet {q : List UInt8} (hq : ∀ b ∈ q, isStart P b = false) :
    ∀ {ph : Phase}, ph.Ok P → (feed (decodeStep P) ph q).2.length ≤ 1 ∧
      (ph.debt P ≤ q.length → (feed (decodeStep P) ph q).1 = .idle) := by
  induction q with
  | nil =>
      intro ph _
      refine ⟨by simp, ?_⟩
      intro hle
      cases ph with
      | idle => rfl
      | header got => simp [Phase.debt] at hle
      | body hdr got => simp [Phase.debt] at hle
  | cons b q ih =>
      intro ph hok
      have hrest : ∀ c ∈ q, isStart P c = false := by
        intro c hc
        exact hq c (List.mem_cons_of_mem b hc)
      rw [feed_cons]
      rcases quiet_step hok (hq b List.mem_cons_self) with ⟨fs, hstep, hfs⟩ | ⟨ph', hstep, hok', hlt⟩
      · rw [hstep, decode_filler hrest]
        exact ⟨by simpa using hfs, fun _ => rfl⟩
      · rw [hstep]
        rcases ih hrest hok' with ⟨hone, hidle⟩
        refine ⟨by simpa using hone, ?_⟩
        intro hle
        rw [List.length_cons] at hle
        exact hidle (by omega)

namespace VarStXport

/-- What a quiet line does to an accumulator that calls can bring about. -/
lemma Reachable.quiet {a : VarStXport} (h : Reachable P a) {q : List UInt8}
    (hq : ∀ b ∈ q, isStart P b = false) :
    (feed (decodeStep P) a.phase q).2.length ≤ 1 ∧
      (P.hdrSize - 1 + max 1 P.bodyBiggest ≤ q.length →
        (feed (decodeStep P) a.phase q).1 = .idle) := by
  rcases h with ⟨out, ops, hrun⟩
  have hreads := reads_feed (P := P) (ops.flatMap Op.bytes)
  rw [← run_phase ops hrun] at hreads
  rcases decode_quiet hq hreads.ok with ⟨hone, hidle⟩
  exact ⟨hone, fun hle => hidle (hreads.debt_le.trans hle)⟩

end VarStXport

/-! ## The shortest line that is long enough -/

lemma idle_of_bufferInProgress {a : VarStXport} (h : a.bufferInProgress = false) :
    a.phase = .idle := by
  cases hstate : a.inAccum with
  | bufEmpty => simp only [VarStXport.phase, hstate]
  | waitingForHdrComplete => simp [bufferInProgress, hstate] at h
  | waitingForBufferComplete => simp [bufferInProgress, hstate] at h

/-- A piece of a body that does not complete it. -/
lemma decode_body_of_lt {bs hdr got : List UInt8} (hlen : got.length + bs.length < P.hdrBLen hdr) :
    feed (decodeStep P) (.body hdr got) bs = (.body hdr (got ++ bs), []) := by
  induction bs generalizing got with
  | nil => rw [List.append_nil, feed_nil]
  | cons b bs ih =>
      simp only [List.length_cons] at hlen
      have hone : decodeStep P (.body hdr got) b = (.body hdr (got ++ [b]), []) := by
        rw [decodeStep_incomplete (by omega), pushBody, if_neg (by omega)]
      rw [feed_cons, hone, ih (by simp; omega), List.append_assoc]
      rfl

section Report

variable {h : HostEndianness} {charSigned : Bool}

lemma not_isStart_of_not_mem {q : List UInt8} (hq : (83 : UInt8) ∉ q) :
    ∀ b ∈ q, isStart (reportXport h charSigned) b = false :=
  Filler.isStart_eq_false h charSigned ⟨q, hq⟩

/-- The longest line that leaves something pending: the rest of a header that announces the
biggest body, and all of the body but its last byte. -/
def longestWait : List UInt8 := [5, 2, 16, 0] ++ List.replicate 4095 0

lemma length_longestWait : longestWait.length = 4099 := by
  rw [longestWait, List.length_append, List.length_replicate]
  rfl

lemma not_mem_longestWait : (83 : UInt8) ∉ longestWait := by
  rw [longestWait, List.mem_append, not_or, List.mem_replicate]
  decide

lemma decode_longestWait :
    (feed (decodeStep (reportXport h charSigned)) .idle ([83] ++ longestWait)).1 ≠ .idle := by
  have hvalid : headerValid (reportXport h charSigned) [83, 5, 2, 16, 0] = true :=
    (headerValid_reportXport h charSigned 83 5 2 16 0).mpr ⟨rfl, rfl, rfl, by decide⟩
  have hlen : (reportXport h charSigned).hdrBLen [83, 5, 2, 16, 0] = 4096 :=
    RepHdr.bLen_ofImage h 83 5 2 16 0
  have hstarts : Starts (reportXport h charSigned) [83, 5, 2, 16, 0] :=
    ⟨83, _, rfl, (isStart_reportXport h charSigned 83).mpr rfl⟩
  have hsplit : [83] ++ longestWait = [83, 5, 2, 16, 0] ++ List.replicate 4095 0 := rfl
  rw [hsplit, feed_append, decode_whole_header rfl hstarts, if_pos hvalid,
    decode_body_of_lt (by rw [hlen, List.length_replicate]; decide)]
  exact Phase.noConfusion

/-- Whatever the decoder reads behind some bytes, some accumulator reads. -/
lemma exists_reachable (bytes : List UInt8) : ∃ a, Reachable P a ∧ ∀ rest,
    (feed (decodeStep P) a.phase rest).1 = (feed (decodeStep P) .idle (bytes ++ rest)).1 := by
  have hnew : Inv P (new P .nullptr) := inv_new .nullptr
  refine ⟨(feed (byteStep P) (new P .nullptr) bytes).1, ⟨.nullptr, [.addBytes bytes], ?_⟩, ?_⟩
  · rw [Runs.run_cons, Op.apply, addBytes_eq_feed hnew]
    rfl
  · intro rest
    rw [phase_feed hnew, feed_append]
    rfl

/-- **How long the line has to be quiet.**  The least number of bytes without an `S` after which
the accumulator has nothing pending, from whatever state calls have brought it to, is 4100. -/
theorem recovery_bound_iff (h : HostEndianness) (charSigned : Bool) (n : ℕ) :
    (∀ a, Reachable (reportXport h charSigned) a → ∀ q : List UInt8, 83 ∉ q → n ≤ q.length →
      ∀ r, addBytes (reportXport h charSigned) a q = some r → r.1.bufferInProgress = false) ↔
      4100 ≤ n := by
  constructor
  · intro hall
    by_contra hlt
    rcases exists_reachable (P := reportXport h charSigned) [83] with ⟨a, ha, hsame⟩
    have hdone := hall a ha longestWait not_mem_longestWait (by rw [length_longestWait]; omega) _
      (addBytes_eq_feed ha.inv _)
    have hidle := idle_of_bufferInProgress hdone
    rw [phase_feed ha.inv, hsame] at hidle
    exact decode_longestWait hidle
  · intro hle a ha q hq hn r hr
    rw [addBytes_eq_feed ha.inv, Option.some.injEq] at hr
    rw [← hr]
    refine bufferInProgress_of_idle ?_
    rw [phase_feed ha.inv]
    exact (ha.quiet (not_isStart_of_not_mem hq)).2 (hle.trans hn)

/-! ## The frames behind it -/

/-- The decoder on the frames of a sender. -/
lemma decode_wireStream (sender receiver : HostEndianness) (charSigned : Bool) (g : Filler)
    (fs : List (ReportFrame × Filler)) :
    ∃ wires, fs.mapM (fun p => p.1.wire sender) = some wires ∧
      feed (decodeStep (reportXport receiver charSigned)) .idle
          (wireStream g wires (fs.map Prod.snd))
        = (.idle, fs.map fun p => p.1.frame) := by
  have hwires : fs.mapM (fun p => p.1.wire sender)
      = some (fs.map fun p => p.1.frame.hdr ++ p.1.frame.body) := by
    simp only [ReportFrame.wire_eq]
    exact List.mapM_pure
  have hlayout : wireStream g (fs.map fun p => p.1.frame.hdr ++ p.1.frame.body) (fs.map Prod.snd)
      = layout g.bytes (fs.map fun p => (p.1.frame, p.2.bytes)) := by
    rw [wireStream, layout, List.zipWith_map, List.zipWith_self, List.map_map]
    rfl
  have hframes : ∀ p ∈ fs.map (fun p : ReportFrame × Filler => (p.1.frame, p.2.bytes)),
      feed (decodeStep (reportXport receiver charSigned)) .idle (p.1.hdr ++ p.1.body)
        = (.idle, [p.1]) ∧
      ∀ b ∈ p.2, isStart (reportXport receiver charSigned) b = false := by
    intro p hp
    rcases List.mem_map.mp hp with ⟨q, -, rfl⟩
    have hbody : q.1.frame.body ≠ [] := by
      have hpos := q.1.pos
      have hfits := q.1.fits
      rw [← List.length_pos_iff, ReportFrame.frame, List.length_take]
      omega
    exact ⟨decode_frame (q.1.valid receiver charSigned).1 hbody rfl
      ((isStart_reportXport receiver charSigned 83).mpr rfl),
      q.2.isStart_eq_false receiver charSigned⟩
  refine ⟨_, hwires, ?_⟩
  rw [hlayout, decode_stream (g.isStart_eq_false receiver charSigned) hframes, List.map_map]
  rfl

/-- **Recovery.**  Let an accumulator with a handler be in any state that calls can bring about,
and let 4100 or more bytes without an `S` go over the line before the wire images of some frames
with bodies of 1 to 4095 bytes, with fillers between them and cut in any way: the handler is called
once at most for what was pending, and then exactly once for each frame, in order, with its size and
its data. -/
theorem recovery_roundTrip (sender receiver : HostEndianness) (charSigned : Bool)
    {a : VarStXport} (ha : Reachable (reportXport receiver charSigned) a) (hsh : a.sh = true)
    (q : Filler) (hq : 4100 ≤ q.bytes.length) (fs : List (ReportFrame × Filler)) :
    ∃ wires, fs.mapM (fun p => p.1.wire sender) = some wires ∧
      ∀ chunks : List (List UInt8), chunks.flatten = wireStream q wires (fs.map Prod.snd) →
        ∃ acc junk calls,
          addChunks (reportXport receiver charSigned) a chunks = some (acc, junk ++ calls) ∧
          junk.length ≤ 1 ∧
          List.Forall₂ (fun (c : HandlerCall) (p : ReportFrame × Filler) =>
            ((RepHdr.ofImage receiver c.hdr).bLen.toHost receiver).toNat = p.1.size ∧
              (c.varPart.getD []).take p.1.size = p.1.data.take p.1.size) calls fs ∧
          acc.bufferInProgress = false := by
  rcases decode_wireStream sender receiver charSigned ⟨[], List.not_mem_nil⟩ fs
    with ⟨wires, hwires, hdecode⟩
  refine ⟨wires, hwires, ?_⟩
  intro chunks hchunks
  have hsplit : chunks.flatten
      = q.bytes ++ wireStream ⟨[], List.not_mem_nil⟩ wires (fs.map Prod.snd) := hchunks
  rcases ha.quiet (q.isStart_eq_false receiver charSigned) with ⟨hone, hidle⟩
  rcases addChunks_decode ha.inv hsh chunks with ⟨acc, all, hrun, hdec⟩
  rw [hsplit, feed_append, hidle hq, hdecode, Prod.mk.injEq] at hdec
  rcases hdec with ⟨hphase, hcalls⟩
  obtain ⟨junk, calls, rfl, hjunk, hframes⟩ := List.map_eq_append_iff.mp hcalls.symm
  refine ⟨acc, junk, calls, hrun, ?_, ?_, bufferInProgress_of_idle hphase.symm⟩
  · rw [← List.length_map, hjunk]
    exact hone
  · have hpair : List.Forall₂ (fun (c : HandlerCall) (p : ReportFrame × Filler) =>
        c.frameOf (reportXport receiver charSigned) = p.1.frame) calls fs := by
      refine List.forall₂_map_left_iff.mp (List.forall₂_map_right_iff.mp ?_)
      rw [List.forall₂_eq_eq_eq]
      exact hframes
    exact hpair.imp fun _ _ => ReportFrame.of_frameOf

/-- A line that carries zeros. -/
def Filler.zeros (n : ℕ) : Filler := ⟨List.replicate n 0, by simp [List.mem_replicate]⟩

/-- A start byte that nothing follows, a quiet line and a frame of one byte. -/
theorem recovery_roundTrip_one :
    ∃ a wires acc junk c, Reachable (reportXport .little true) a ∧
      addChunks (reportXport .little true) a
        [wireStream (Filler.zeros 4100) wires [Filler.zeros 0]] = some (acc, junk ++ [c]) ∧
      (c.varPart.getD []).take 1 = [9] := by
  have hnew : Inv (reportXport .little true) (new (reportXport .little true) .nullptr) :=
    inv_new .nullptr
  have hreach : Reachable (reportXport .little true) (feed (byteStep (reportXport .little true))
      (new (reportXport .little true) .nullptr).setVarStHandler [83]).1 := by
    refine ⟨.nullptr, [.setVarStHandler, .addBytes [83]], ?_⟩
    rw [Runs.run_cons, Op.apply, Option.bind_some, Runs.run_cons, Op.apply,
      addBytes_eq_feed hnew.setVarStHandler]
    rfl
  have hlong : 4100 ≤ (Filler.zeros 4100).bytes.length := by
    rw [Filler.zeros, List.length_replicate]
  rcases recovery_roundTrip .little .little true hreach rfl (Filler.zeros 4100) hlong
    [(⟨1, [9], by decide, by decide, by decide⟩, Filler.zeros 0)] with ⟨wires, -, hrun⟩
  rcases hrun [_] List.flatten_singleton with ⟨acc, junk, calls, hadd, -, hpair, -⟩
  rcases List.forall₂_cons_right_iff.mp hpair with ⟨c, rest, hc, hrest, rfl⟩
  rw [List.forall₂_nil_right_iff.mp hrest] at hadd
  exact ⟨_, wires, acc, junk, c, hreach, hadd, hc.2⟩

end Report

end LightControl
