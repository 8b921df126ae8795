import LightControl.Transport.Representation
import LightControl.Transport.Grammar

/-!
# Frames that are held back

The loop of `add_bytes` hands a frame over in an iteration that finds its body complete, and it
makes an iteration only while there is input.  A body of length zero is complete with its header,
so when the header ends a chunk, the frame waits for the next call.

`nothingHeld_iff` says exactly which runs hold nothing back: those in which no call ends right
behind the header of an empty frame.
-/

namespace LightControl.VarStXport

open Runs Transducer

variable {P : XportSpec}

/-- **The law in one state**: the body that the accumulator waits for is not complete. -/
def NothingHeld (P : XportSpec) (a : VarStXport) : Prop :=
  a.inAccum = .waitingForBufferComplete → a.bytesInVarPart < P.hdrBLen a.wholeHeader

/-- The bytes that a call feeds. -/
def Op.bytes : Op → List UInt8
  | .setVarStHandler => []
  | .addByte b => [b]
  | .addBytes bytes => bytes

/-! ## The phase does not depend on the handler -/

/-- What a piece of the stream does to the phase. -/
lemma phase_feed {a : VarStXport} (h : Inv P a) (bytes : List UInt8) :
    (feed (byteStep P) a bytes).1.phase = (feed (decodeStep P) a.phase bytes).1 := by
  have hset : ∀ (bytes : List UInt8) (a : VarStXport),
      (feed (byteStep P) a.setVarStHandler bytes).1
        = (feed (byteStep P) a bytes).1.setVarStHandler := by
    intro bytes
    induction bytes with
    | nil =>
        intro a
        rfl
    | cons b bytes ih =>
        intro a
        have hstep : (byteStep P a.setVarStHandler b).1 = (byteStep P a b).1.setVarStHandler :=
          byteStep_withHandler a true b
        rw [feed_cons, feed_cons, hstep, ih]
  rcases addChunks_decode h.setVarStHandler rfl [bytes] with ⟨acc, calls, hrun, hdec⟩
  rw [addChunks_eq_feed _ h.setVarStHandler, Option.some.injEq, List.flatten_singleton] at hrun
  have hacc : (feed (byteStep P) a bytes).1.setVarStHandler = acc := by
    rw [← hset, hrun]
  have hphase : a.setVarStHandler.phase = a.phase := rfl
  rw [List.flatten_singleton, hphase] at hdec
  rw [hdec, ← hacc]
  rfl

/-- **The phase after a sequence of calls** is the decoder's after all the bytes they feed. -/
lemma run_phase {out : OutRecord P} (ops : List Op) {a : VarStXport}
    (h : run (Op.apply P) (new P out) ops = some a) :
    a.phase = (feed (decodeStep P) .idle (ops.flatMap Op.bytes)).1 := by
  have hfinal : Inv P a ∧ a.phase = (feed (decodeStep P) .idle (ops.flatMap Op.bytes)).1 := by
    refine run_history_invariant (I := fun ops a =>
      Inv P a ∧ a.phase = (feed (decodeStep P) .idle (ops.flatMap Op.bytes)).1)
      ⟨inv_new out, rfl⟩ ?_ ops h
    rintro ops a op a' - ⟨hinv, hphase⟩ happly
    refine ⟨inv_apply hinv happly, ?_⟩
    have hbytes : (ops ++ [op]).flatMap Op.bytes = ops.flatMap Op.bytes ++ op.bytes := by simp
    have hadd : ∀ bytes, (addBytes P a bytes).map Prod.fst = some a' →
        a'.phase = (feed (decodeStep P) a.phase bytes).1 := by
      intro bytes hadd
      rw [addBytes_eq_feed hinv, Option.map_some, Option.some.injEq] at hadd
      rw [← hadd, phase_feed hinv]
    rw [hbytes, feed_append, ← hphase]
    cases op with
    | setVarStHandler =>
        rw [Op.apply, Option.some.injEq] at happly
        rw [← happly]
        rfl
    | addByte b => exact hadd [b] happly
    | addBytes bytes => exact hadd bytes happly
  exact hfinal.2

/-! ## When nothing is held back -/

/-- The stream ends right behind the header of an empty frame. -/
def EndsInEmptyFrame (P : XportSpec) (stream : List UInt8) : Prop :=
  ∃ r fs hdr, stream = r ++ hdr ∧ Parsed P r fs ∧ hdr.length = P.hdrSize ∧ Starts P hdr ∧
    headerValid P hdr = true ∧ P.hdrBLen hdr = 0

/-- A frame is held back exactly if the decoder waits for a body of length zero. -/
lemma not_nothingHeld_iff {a : VarStXport} (h : Inv P a) :
    ¬ NothingHeld P a ↔ ∃ hdr, a.phase = .body hdr [] ∧ P.hdrBLen hdr = 0 := by
  constructor
  · intro hheld
    simp only [NothingHeld, not_forall, Nat.not_lt] at hheld
    rcases hheld with ⟨hstate, hle⟩
    rcases h.body hstate with ⟨-, -, -, hlt | ⟨hvar, hzero⟩⟩
    · omega
    · refine ⟨a.wholeHeader, ?_, hzero⟩
      simp only [phase, hstate, hvar, List.take_zero]
  · rintro ⟨hdr, hphase, hzero⟩ hall
    cases hstate : a.inAccum with
    | bufEmpty => simp [phase, hstate] at hphase
    | waitingForHdrComplete => simp [phase, hstate] at hphase
    | waitingForBufferComplete =>
        simp only [phase, hstate, Phase.body.injEq] at hphase
        have hlt := hall hstate
        rw [hphase.1, hzero] at hlt
        exact absurd hlt (Nat.not_lt_zero _)

/-- The decoder waits for a body of length zero exactly behind the header of an empty frame. -/
lemma phase_empty_iff (stream : List UInt8) :
    (∃ hdr, (feed (decodeStep P) .idle stream).1 = .body hdr [] ∧ P.hdrBLen hdr = 0) ↔
      EndsInEmptyFrame P stream := by
  constructor
  · rintro ⟨hdr, hphase, hzero⟩
    have hreads := reads_feed (P := P) stream
    rw [hphase] at hreads
    rcases hreads with ⟨r, hr, hstream, hlen, hstart, hv, -⟩
    rw [List.append_nil] at hstream
    exact ⟨r, _, hdr, hstream, hr, hlen, hstart, hv, hzero⟩
  · rintro ⟨r, fs, hdr, rfl, hr, hlen, hstart, hv, hzero⟩
    refine ⟨hdr, ?_, hzero⟩
    rw [feed_append, (feed_parsed hr).feed hstart.ne_nil, decode_whole_header hlen hstart,
      if_pos hv]

/-- The headers of empty report frames. -/
lemma endsInEmptyFrame_report {h : HostEndianness} {charSigned : Bool} {stream : List UInt8} :
    EndsInEmptyFrame (reportXport h charSigned) stream ↔
      ∃ r fs, Parsed (reportXport h charSigned) r fs ∧ stream = r ++ [83, 5, 2, 0, 0] := by
  constructor
  · rintro ⟨r, fs, hdr, rfl, hr, hlen, -, hv, hzero⟩
    rcases headerValid_cases hlen hv with ⟨hi, lo, rfl, hbLen, -⟩
    have hhi : hi = 0 := UInt8.toNat_inj.mp (by rw [UInt8.toNat_zero]; omega)
    have hlo : lo = 0 := UInt8.toNat_inj.mp (by rw [UInt8.toNat_zero]; omega)
    exact ⟨r, fs, hr, by rw [hhi, hlo]⟩
  · rintro ⟨r, fs, hr, rfl⟩
    refine ⟨r, fs, _, rfl, hr, rfl, ⟨83, _, rfl, ?_⟩, ?_, ?_⟩
    · exact (isStart_reportXport h charSigned 83).mpr rfl
    · exact (headerValid_reportXport h charSigned 83 5 2 0 0).mpr ⟨rfl, rfl, rfl, by decide⟩
    · exact RepHdr.bLen_ofImage h 83 5 2 0 0

/-- **When no complete frame is held back.**  For every sequence of calls on a constructed
accumulator: no call returns with a complete frame pending if and only if no call ends with the
header of an empty frame, behind a stream that divides into skipped bytes, rejected headers and
whole frames. -/
theorem nothingHeld_iff (h : HostEndianness) (charSigned : Bool)
    (out : OutRecord (reportXport h charSigned)) (ops : List Op) :
    Throughout (Op.apply (reportXport h charSigned)) (NothingHeld (reportXport h charSigned))
        (new (reportXport h charSigned) out) ops ↔
      ∀ pre post, ops = pre ++ post → ∀ r fs, Parsed (reportXport h charSigned) r fs →
        pre.flatMap Op.bytes ≠ r ++ [83, 5, 2, 0, 0] := by
  have hheld : ∀ (pre : List Op) (a : VarStXport),
      run (Op.apply (reportXport h charSigned)) (new (reportXport h charSigned) out) pre = some a →
      (¬ NothingHeld (reportXport h charSigned) a ↔ ∃ r fs,
        Parsed (reportXport h charSigned) r fs ∧ pre.flatMap Op.bytes = r ++ [83, 5, 2, 0, 0]) := by
    intro pre a hrun
    have hinv : Inv (reportXport h charSigned) a := Reachable.inv ⟨out, pre, hrun⟩
    rw [not_nothingHeld_iff hinv, run_phase pre hrun, phase_empty_iff, endsInEmptyFrame_report]
  constructor
  · intro hall pre post hops r fs hr hstream
    obtain ⟨a, hrun⟩ : ∃ a, run (Op.apply (reportXport h charSigned))
        (new (reportXport h charSigned) out) pre = some a := by
      rcases run_apply out pre with ⟨a, hrun, -⟩
      exact ⟨a, hrun⟩
    exact (hheld pre a hrun).mpr ⟨r, fs, hr, hstream⟩ (hall pre post a hops hrun)
  · intro hall pre post a hops hrun
    by_contra hnot
    rcases (hheld pre a hrun).mp hnot with ⟨r, fs, hr, hstream⟩
    exact hall pre post hops r fs hr hstream

/-- **An empty frame is held back** when its header ends a chunk. -/
theorem not_nothingHeld :
    ¬ ∀ (h : HostEndianness) (charSigned : Bool) (out : OutRecord (reportXport h charSigned))
      (ops : List Op), Throughout (Op.apply (reportXport h charSigned))
        (NothingHeld (reportXport h charSigned)) (new (reportXport h charSigned) out) ops := by
  intro hall
  have hlt := hall .little true .nullptr [.addBytes [83, 5, 2, 0, 0]]
    [.addBytes [83, 5, 2, 0, 0]] [] _ rfl rfl rfl
  exact absurd hlt (by decide)

end LightControl.VarStXport
