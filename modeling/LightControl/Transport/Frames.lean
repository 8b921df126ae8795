import LightControl.Transport.AddBytes

/-!
# The decoder that the accumulator implements

What the accumulator is for, without its buffers and counters: a machine that reads bytes and
remembers the piece of the stream it is in the middle of.

* `Phase`, `decodeStep` — nothing pending, some bytes of a header, or an accepted header with
  some bytes of its body.
* `phase`, `frameOf` — what an accumulator and a handler call stand for.
* **`addChunks_decode`** — the accumulator with a handler set decodes: on every input, in every
  segmentation, its phase and its calls are those of the decoder.
-/

namespace LightControl

open Transducer VarStXport Memory

/-- A header with its body. -/
structure Frame where
  hdr : List UInt8
  body : List UInt8
  deriving DecidableEq, Repr

/-- Where in the stream the decoder is. -/
inductive Phase
  | idle
  | header (got : List UInt8)
  | body (hdr got : List UInt8)
  deriving DecidableEq, Repr

/-- The bytes that belong to a frame not yet complete. -/
def Phase.pending : Phase → List UInt8
  | idle => []
  | header got => got
  | body hdr got => hdr ++ got

variable (P : XportSpec)

/-- One more byte of a header. -/
def pushHeader (got : List UInt8) (b : UInt8) : Phase :=
  if got.length + 1 < P.hdrSize then .header (got ++ [b])
  else if headerValid P (got ++ [b]) then .body (got ++ [b]) []
  else .idle

/-- One more byte of a body. -/
def pushBody (hdr got : List UInt8) (b : UInt8) : Phase × List Frame :=
  if P.hdrBLen hdr ≤ got.length + 1 then (.idle, [⟨hdr, got ++ [b]⟩])
  else (.body hdr (got ++ [b]), [])

/-- A byte with nothing pending. -/
def idleStep (b : UInt8) : Phase := if isStart P b then pushHeader P [] b else .idle

/-- **The decoder.** -/
def decodeStep : Phase → UInt8 → Phase × List Frame
  | .idle, b => (idleStep P b, [])
  | .header got, b => (pushHeader P got b, [])
  | .body hdr got, b =>
      if P.hdrBLen hdr ≤ got.length then (idleStep P b, [⟨hdr, got⟩]) else pushBody P hdr got b

variable {P} in
/-- A complete body is handed over before the next byte is looked at. -/
lemma decodeStep_complete {hdr got : List UInt8} (h : P.hdrBLen hdr ≤ got.length) (b : UInt8) :
    decodeStep P (.body hdr got) b = (idleStep P b, [⟨hdr, got⟩]) := by
  simp only [decodeStep, if_pos h]

variable {P} in
lemma decodeStep_incomplete {hdr got : List UInt8} (h : got.length < P.hdrBLen hdr) (b : UInt8) :
    decodeStep P (.body hdr got) b = pushBody P hdr got b := by
  simp only [decodeStep, if_neg (not_le.mpr h)]

/-! ## What the accumulator stands for -/

/-- The phase of an accumulator. -/
def VarStXport.phase (a : VarStXport) : Phase :=
  match a.inAccum with
  | .bufEmpty => .idle
  | .waitingForHdrComplete => .header (a.wholeHeader.take a.bytesInHeader)
  | .waitingForBufferComplete =>
      .body a.wholeHeader ((a.varPart.getD []).take a.bytesInVarPart)

/-- The body that a handler call delivers: the first `b_len` bytes of the record. -/
def HandlerCall.body (c : HandlerCall) : List UInt8 :=
  (c.varPart.getD []).take (P.hdrBLen c.hdr)

/-- The frame that a handler call delivers. -/
def HandlerCall.frameOf (c : HandlerCall) : Frame := ⟨c.hdr, c.body P⟩

variable {P}

lemma bufferInProgress_of_idle {a : VarStXport} (h : a.phase = .idle) :
    a.bufferInProgress = false := by
  simp only [VarStXport.phase] at h
  cases hstate : a.inAccum with
  | bufEmpty =>
      rw [bufferInProgress, hstate]
      rfl
  | waitingForHdrComplete => simp [hstate] at h
  | waitingForBufferComplete => simp [hstate] at h

lemma phase_checkHeader_putHeader {a : VarStXport} (hlen : a.wholeHeader.length = P.hdrSize)
    (hlt : a.bytesInHeader < P.hdrSize) (b : UInt8) :
    (checkHeader P (putHeader a [b])).phase
      = pushHeader P (a.wholeHeader.take a.bytesInHeader) b := by
  have hfit : a.bytesInHeader + [b].length ≤ a.wholeHeader.length := by
    rw [List.length_singleton]
    omega
  have htake := take_overwrite hfit
  have hgot : (a.wholeHeader.take a.bytesInHeader).length = a.bytesInHeader := by
    rw [List.length_take]
    omega
  unfold checkHeader pushHeader putHeader
  rw [hgot]
  simp only [List.length_singleton]
  rw [List.length_singleton] at htake
  split
  case isTrue => simp only [phase, htake]
  case isFalse hge =>
    have hwhole : overwrite a.wholeHeader a.bytesInHeader [b]
        = a.wholeHeader.take a.bytesInHeader ++ [b] := by
      rw [← htake, List.take_of_length_le]
      rw [length_overwrite hfit]
      omega
    rw [hwhole]
    split
    case isTrue => simp only [phase, List.take_zero]
    case isFalse => rfl

lemma phase_emptyStep {a : VarStXport} (h : Inv P a) (hstate : a.inAccum = .bufEmpty)
    (b : UInt8) : (emptyStep P a b).phase = idleStep P b := by
  rcases h.empty hstate with ⟨hh, -⟩
  have hpos := P.hdrSize_pos
  simp only [emptyStep, idleStep]
  split
  · rw [phase_checkHeader_putHeader h.length_header (by omega), hh, List.take_zero]
  · simp only [phase, hstate]

/-- **One byte of the accumulator is one step of the decoder.** -/
theorem decodeStep_phase {a : VarStXport} (h : Inv P a) (hsh : a.sh = true) (b : UInt8) :
    decodeStep P a.phase b
      = ((byteStep P a b).1.phase, (byteStep P a b).2.map (HandlerCall.frameOf P)) := by
  cases hstate : a.inAccum with
  | bufEmpty =>
      simp only [byteStep, hstate]
      rw [phase_emptyStep h hstate, show a.phase = .idle by simp only [phase, hstate]]
      rfl
  | waitingForHdrComplete =>
      rcases h.hdr hstate with ⟨-, hlt, -⟩
      simp only [byteStep, hstate]
      rw [phase_checkHeader_putHeader h.length_header hlt,
        show a.phase = .header (a.wholeHeader.take a.bytesInHeader) by simp only [phase, hstate]]
      rfl
  | waitingForBufferComplete =>
      rcases h.body hstate with ⟨hhdr, hv, hsome, hvar⟩
      rcases Option.isSome_iff_exists.mp hsome with ⟨r, hr⟩
      have hbig := h.length_record r hr
      have hle := bLen_le_of_headerValid hv
      have hgot : (r.take a.bytesInVarPart).length = a.bytesInVarPart := by
        rw [List.length_take]
        omega
      have hphase : a.phase = .body a.wholeHeader (r.take a.bytesInVarPart) := by
        simp only [phase, hstate, hr, Option.getD_some]
      rw [hphase]
      simp only [byteStep, hstate, decodeStep, hgot]
      split
      case isTrue hdone =>
        rw [checkBody_of_complete hdone]
        dsimp only
        have hidle := phase_emptyStep (a :=
          { a with bytesInHeader := 0, bytesInVarPart := 0, inAccum := .bufEmpty })
          ⟨h.length_header, h.length_record, fun _ => ⟨rfl, rfl⟩, by simp, by simp⟩ rfl b
        have hzero : P.hdrBLen a.wholeHeader = a.bytesInVarPart := by omega
        rw [hidle, hsh, if_pos rfl]
        simp [HandlerCall.frameOf, HandlerCall.body, hr, hzero]
      case isFalse hmore =>
        have hfit : a.bytesInVarPart + [b].length ≤ r.length := by
          rw [List.length_singleton]
          omega
        have htake := take_overwrite hfit
        rw [List.length_singleton] at htake
        simp only [pushBody, hgot, checkBody, putBody, hr, Option.map_some, List.length_singleton]
        split
        case isTrue hdone =>
          have hlast : P.hdrBLen a.wholeHeader = a.bytesInVarPart + 1 := by omega
          simp [phase, HandlerCall.frameOf, HandlerCall.body, hlast, htake]
        case isFalse => simp [phase, hstate, htake]

/-- The accumulator with a handler installed, or without one. -/
def VarStXport.withHandler (a : VarStXport) (set : Bool) : VarStXport := { a with sh := set }

/-- A byte does the same to the accumulator whether or not a handler is installed. -/
lemma byteStep_withHandler (a : VarStXport) (set : Bool) (b : UInt8) :
    (byteStep P (a.withHandler set) b).1 = (byteStep P a b).1.withHandler set := by
  have hheader : ∀ a : VarStXport, checkHeader P (putHeader (a.withHandler set) [b])
      = (checkHeader P (putHeader a [b])).withHandler set := by
    intro a
    unfold checkHeader putHeader VarStXport.withHandler
    dsimp only
    split
    · rfl
    · split <;> rfl
  have hempty : ∀ a : VarStXport, emptyStep P (a.withHandler set) b
      = (emptyStep P a b).withHandler set := by
    intro a
    simp only [emptyStep]
    split
    · exact hheader a
    · rfl
  have hbody : ∀ a : VarStXport, (checkBody P (a.withHandler set)).1
      = (checkBody P a).1.withHandler set := by
    intro a
    by_cases hle : P.hdrBLen a.wholeHeader ≤ a.bytesInVarPart
    · have hle' : P.hdrBLen (a.withHandler set).wholeHeader ≤ (a.withHandler set).bytesInVarPart :=
        hle
      rw [checkBody, if_pos hle', checkBody, if_pos hle]
      rfl
    · have hle' :
          ¬ P.hdrBLen (a.withHandler set).wholeHeader ≤ (a.withHandler set).bytesInVarPart := hle
      rw [checkBody, if_neg hle', checkBody, if_neg hle]
  have hstate : (a.withHandler set).inAccum = a.inAccum := rfl
  have hwhole : (a.withHandler set).wholeHeader = a.wholeHeader := rfl
  have hgot : (a.withHandler set).bytesInVarPart = a.bytesInVarPart := rfl
  simp only [byteStep, hstate, hwhole, hgot]
  cases a.inAccum with
  | bufEmpty => exact hempty a
  | waitingForHdrComplete => exact hheader a
  | waitingForBufferComplete =>
      dsimp only
      split
      · exact (congrArg (fun a => emptyStep P a b) (hbody a)).trans (hempty _)
      · exact hbody (putBody a [b])

lemma sh_byteStep (a : VarStXport) (b : UInt8) : (byteStep P a b).1.sh = a.sh := by
  have hsame := congrArg VarStXport.sh (byteStep_withHandler (P := P) a a.sh b)
  exact hsame

lemma inv_byteStep {a : VarStXport} (h : Inv P a) (b : UInt8) : Inv P (byteStep P a b).1 := by
  have := inv_feed h [b]
  rwa [feed_singleton] at this

/-- **The accumulator decodes**, in every segmentation. -/
theorem addChunks_decode {a : VarStXport} (h : Inv P a) (hsh : a.sh = true)
    (chunks : List (List UInt8)) :
    ∃ acc calls, addChunks P a chunks = some (acc, calls) ∧
      feed (decodeStep P) a.phase chunks.flatten
        = (acc.phase, calls.map (HandlerCall.frameOf P)) := by
  refine ⟨_, _, addChunks_eq_feed chunks h, ?_⟩
  refine feed_simulation (I := fun a => Inv P a ∧ a.sh = true) phase (HandlerCall.frameOf P)
    ?_ ?_ _ a ⟨h, hsh⟩
  · rintro a b ⟨hinv, hset⟩
    exact ⟨inv_byteStep hinv b, (sh_byteStep a b).trans hset⟩
  · rintro a b ⟨hinv, hset⟩
    exact decodeStep_phase hinv hset b

/-- From the constructed accumulator, with its handler set, the decoder starts idle. -/
lemma addChunks_new (out : OutRecord P) (chunks : List (List UInt8)) :
    ∃ acc calls, addChunks P (new P out).setVarStHandler chunks = some (acc, calls) ∧
      feed (decodeStep P) .idle chunks.flatten
        = (acc.phase, calls.map (HandlerCall.frameOf P)) :=
  addChunks_decode (inv_new out).setVarStHandler rfl chunks

end LightControl
