import LightControl.Transport.Frames
import LightControl.Transport.TransportRecord

/-!
# Every frame handed over was in the stream

The decoder hands over only frames that lie in the stream, whole and in order: what it has read
so far is a list of frames with gaps of other bytes around them, followed by what is pending.

`Explains` is that statement as an invariant.  A rejected header moves the pending bytes into the
last gap; nothing else moves bytes around.
-/

namespace LightControl

open Transducer VarStXport

variable {P : XportSpec}

/-- The stream made of the gap `g` and of frames, each followed by a gap. -/
def layout (g : List UInt8) (fgs : List (Frame × List UInt8)) : List UInt8 :=
  g ++ (fgs.map fun p => p.1.hdr ++ p.1.body ++ p.2).flatten

/-- More bytes without a frame widen the last gap. -/
lemma layout_append_gap (g : List UInt8) (fgs : List (Frame × List UInt8)) (bs : List UInt8) :
    ∃ g' fgs', fgs'.map Prod.fst = fgs.map Prod.fst ∧ layout g fgs ++ bs = layout g' fgs' := by
  rcases List.eq_nil_or_concat fgs with rfl | ⟨init, ⟨f, gap⟩, rfl⟩
  · exact ⟨g ++ bs, [], rfl, by simp [layout]⟩
  · exact ⟨g, init ++ [(f, gap ++ bs)], by simp, by simp [layout]⟩

lemma layout_append_frame (g : List UInt8) (fgs : List (Frame × List UInt8)) (f : Frame) :
    layout g (fgs ++ [(f, [])]) = layout g fgs ++ (f.hdr ++ f.body) := by
  simp [layout]

/-- The stream read so far: frames with gaps around them, and the pending bytes. -/
def Explains (stream : List UInt8) (frames : List Frame) (ph : Phase) : Prop :=
  ∃ g fgs, fgs.map Prod.fst = frames ∧ stream = layout g fgs ++ ph.pending

/-- Pending bytes that turn out to be no frame join the last gap. -/
lemma Explains.drop {stream : List UInt8} {frames : List Frame} {ph : Phase}
    (h : Explains stream frames ph) (bs : List UInt8) : Explains (stream ++ bs) frames .idle := by
  rcases h with ⟨g, fgs, hfgs, rfl⟩
  rcases layout_append_gap g fgs (ph.pending ++ bs) with ⟨g', fgs', hfgs', heq⟩
  exact ⟨g', fgs', hfgs'.trans hfgs, by
    rw [List.append_assoc, heq, Phase.pending, List.append_nil]⟩

/-- A pending header and body that are complete are the next frame. -/
lemma Explains.deliver {stream : List UInt8} {frames : List Frame} {hdr body : List UInt8}
    (h : Explains stream frames (.body hdr body)) :
    Explains stream (frames ++ [⟨hdr, body⟩]) .idle := by
  rcases h with ⟨g, fgs, hfgs, rfl⟩
  refine ⟨g, fgs ++ [(⟨hdr, body⟩, [])], by rw [List.map_append, hfgs]; rfl, ?_⟩
  rw [layout_append_frame]
  simp [Phase.pending]

/-- One more pending byte. -/
lemma Explains.push {stream : List UInt8} {frames : List Frame} {ph ph' : Phase} {b : UInt8}
    (h : Explains stream frames ph) (hpend : ph'.pending = ph.pending ++ [b]) :
    Explains (stream ++ [b]) frames ph' := by
  rcases h with ⟨g, fgs, hfgs, rfl⟩
  exact ⟨g, fgs, hfgs, by rw [hpend, List.append_assoc]⟩

lemma explains_pushHeader {stream got : List UInt8} {frames : List Frame}
    (h : Explains stream frames (.header got)) (b : UInt8) :
    Explains (stream ++ [b]) frames (pushHeader P got b) := by
  simp only [pushHeader]
  split
  · exact h.push rfl
  · split
    · exact h.push (by simp [Phase.pending])
    · exact h.drop [b]

lemma explains_idleStep {stream : List UInt8} {frames : List Frame}
    (h : Explains stream frames .idle) (b : UInt8) :
    Explains (stream ++ [b]) frames (idleStep P b) := by
  simp only [idleStep]
  split
  · have hempty : Explains stream frames (.header []) := h
    exact explains_pushHeader hempty b
  · exact h.drop [b]

/-- **One byte.** -/
lemma explains_decodeStep {stream : List UInt8} {frames : List Frame} {ph : Phase}
    (h : Explains stream frames ph) (b : UInt8) :
    Explains (stream ++ [b]) (frames ++ (decodeStep P ph b).2) (decodeStep P ph b).1 := by
  cases ph with
  | idle =>
      rw [decodeStep, List.append_nil]
      exact explains_idleStep h b
  | header got =>
      rw [decodeStep, List.append_nil]
      exact explains_pushHeader h b
  | body hdr got =>
      rcases le_or_gt (P.hdrBLen hdr) got.length with hge | hlt
      · rw [decodeStep_complete hge]
        exact explains_idleStep h.deliver b
      · have hpush : Explains (stream ++ [b]) frames (.body hdr (got ++ [b])) :=
          h.push (by simp [Phase.pending])
        rw [decodeStep_incomplete hlt]
        simp only [pushBody]
        split
        · exact hpush.deliver
        · rw [List.append_nil]
          exact hpush

/-- **A whole input.** -/
theorem explains_feed (bs : List UInt8) {stream : List UInt8} {frames : List Frame} {ph : Phase}
    (h : Explains stream frames ph) :
    Explains (stream ++ bs) (frames ++ (feed (decodeStep P) ph bs).2)
      (feed (decodeStep P) ph bs).1 := by
  induction bs generalizing stream frames ph with
  | nil => simpa using h
  | cons b bs ih =>
      have hrec := ih (explains_decodeStep (P := P) h b)
      rw [feed_cons]
      simpa only [List.append_assoc, List.singleton_append] using hrec

/-- Reading two lists that agree through `f` in step. -/
lemma map_eq_zipWith {α β γ δ : Type*} (f : δ → α) (h : α → β → γ) {cs : List δ}
    {ps : List (α × β)} (heq : ps.map Prod.fst = cs.map f) :
    ps.map (fun p => h p.1 p.2) = List.zipWith (fun c b => h (f c) b) cs (ps.map Prod.snd) := by
  rw [← List.zipWith_map_left, ← heq, List.zipWith_map, List.zipWith_self]

/-! ## The frames are valid -/

/-- A frame with an accepted header and a body of the announced length. -/
structure Frame.Valid (P : XportSpec) (f : Frame) : Prop where
  length_hdr : f.hdr.length = P.hdrSize
  headerValid : headerValid P f.hdr = true
  length_body : f.body.length = P.hdrBLen f.hdr

/-- The phases the decoder can be in: a header that is pending is incomplete, one whose body is
pending was accepted, and the body does not exceed its announced length. -/
def Phase.Ok (P : XportSpec) : Phase → Prop
  | idle => True
  | header got => got.length < P.hdrSize
  | body hdr got =>
      hdr.length = P.hdrSize ∧ VarStXport.headerValid P hdr = true ∧ got.length ≤ P.hdrBLen hdr

lemma ok_pushHeader {got : List UInt8} (h : got.length < P.hdrSize) (b : UInt8) :
    (pushHeader P got b).Ok P := by
  simp only [pushHeader]
  split
  case isTrue hlt => simpa [Phase.Ok] using hlt
  case isFalse hge =>
    split
    case isTrue hv => exact ⟨by simp; omega, hv, Nat.zero_le _⟩
    case isFalse => trivial

lemma ok_idleStep (b : UInt8) : (idleStep P b).Ok P := by
  simp only [idleStep]
  split
  · exact ok_pushHeader (by simpa using P.hdrSize_pos) b
  · trivial

lemma valid_decodeStep {ph : Phase} (h : ph.Ok P) (b : UInt8) :
    (decodeStep P ph b).1.Ok P ∧ ∀ f ∈ (decodeStep P ph b).2, f.Valid P := by
  cases ph with
  | idle => exact ⟨ok_idleStep b, by simp [decodeStep]⟩
  | header got => exact ⟨ok_pushHeader h b, by simp [decodeStep]⟩
  | body hdr got =>
      rcases h with ⟨hlen, hv, hle⟩
      rcases le_or_gt (P.hdrBLen hdr) got.length with hge | hlt
      · rw [decodeStep_complete hge]
        refine ⟨ok_idleStep b, ?_⟩
        intro f hf
        rw [List.mem_singleton] at hf
        exact hf ▸ ⟨hlen, hv, by dsimp only; omega⟩
      · rw [decodeStep_incomplete hlt]
        simp only [pushBody]
        split
        case isTrue hdone =>
          refine ⟨trivial, ?_⟩
          intro f hf
          rw [List.mem_singleton] at hf
          exact hf ▸ ⟨hlen, hv, by simp; omega⟩
        case isFalse hmore => exact ⟨⟨hlen, hv, by simp; omega⟩, by simp⟩

/-- **Soundness of the decoder.** -/
theorem decode_sound (stream : List UInt8) :
    (∃ ph, Explains stream (feed (decodeStep P) .idle stream).2 ph) ∧
      ∀ f ∈ (feed (decodeStep P) .idle stream).2, f.Valid P := by
  have hinit : Explains [] [] .idle := ⟨[], [], rfl, rfl⟩
  exact ⟨⟨_, explains_feed stream hinit⟩,
    (feed_invariant (I := Phase.Ok P) (fun _ b hok => valid_decodeStep hok b) stream .idle
      trivial).2⟩

/-! ## Report frames -/

/-- The header of a valid report frame, byte by byte. -/
lemma Frame.Valid.report {h : HostEndianness} {charSigned : Bool} {f : Frame}
    (hf : f.Valid (reportXport h charSigned)) :
    ∃ hi lo : UInt8, f.hdr = [83, 5, 2, hi, lo] ∧
      f.body.length = hi.toNat * 256 + lo.toNat ∧ f.body.length ≤ 4096 := by
  rcases headerValid_cases hf.length_hdr hf.headerValid with ⟨hi, lo, hhdr, hbLen, hle⟩
  have hbody := hf.length_body
  exact ⟨hi, lo, hhdr, hbody.trans hbLen, by omega⟩

/-- **No frame is invented, altered, repeated, reordered or put together.**  Whatever the stream
and however it is cut, the frames handed over lie in it one after the other, each with its header
directly before its body, and each header is a valid one that announces the length of its body. -/
theorem addChunks_sound (h : HostEndianness) (charSigned : Bool)
    (out : OutRecord (reportXport h charSigned)) (chunks : List (List UInt8)) :
    ∃ acc calls,
      addChunks (reportXport h charSigned) (new (reportXport h charSigned) out).setVarStHandler
        chunks = some (acc, calls) ∧
      (∃ g gaps, gaps.length = calls.length ∧ chunks.flatten = g ++ (List.zipWith
        (fun c gap => c.hdr ++ c.body (reportXport h charSigned) ++ gap) calls gaps).flatten) ∧
      ∀ c ∈ calls, ∃ hi lo : UInt8, c.hdr = [83, 5, 2, hi, lo] ∧
        (c.body (reportXport h charSigned)).length = hi.toNat * 256 + lo.toNat ∧
        (c.body (reportXport h charSigned)).length ≤ 4096 := by
  rcases addChunks_new out chunks with ⟨acc, calls, hrun, hdec⟩
  obtain ⟨⟨ph, g, fgs, hfgs, hstream⟩, hvalid⟩ :=
    decode_sound (P := reportXport h charSigned) chunks.flatten
  rw [hdec] at hfgs hvalid
  refine ⟨acc, calls, hrun, ?_, ?_⟩
  · -- the pending bytes end the last gap
    rcases layout_append_gap g fgs ph.pending with ⟨g', fgs', hfgs', hlay⟩
    have hcalls : fgs'.map Prod.fst = calls.map (HandlerCall.frameOf (reportXport h charSigned)) :=
      hfgs'.trans hfgs
    refine ⟨g', fgs'.map Prod.snd, ?_, ?_⟩
    · have := congrArg List.length hcalls
      simpa using this
    · rw [hstream, hlay, layout]
      congr 2
      exact map_eq_zipWith (HandlerCall.frameOf (reportXport h charSigned))
        (fun f gap => f.hdr ++ f.body ++ gap) hcalls
  · intro c hc
    rcases (hvalid _ (List.mem_map_of_mem hc)).report with ⟨hi, lo, hhdr, hlen, hle⟩
    exact ⟨hi, lo, hhdr, hlen, hle⟩

end LightControl
