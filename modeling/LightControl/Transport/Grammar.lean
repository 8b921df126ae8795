import LightControl.Transport.RoundTrip

/-!
# The grammar of the stream

How the decoder divides a stream, said without a decoder: from the left, each byte that is no start
byte is skipped, each start byte begins a header, a rejected header is thrown away with all its
bytes, and an accepted one is a frame together with the body it announces.

* `Parsed` — the stream divides into such pieces, with these frames.
* `reads_feed` — whatever has been read is such a stream, followed by what is pending.
* `feed_parsed` — behind such a stream the decoder is between two frames.
-/

namespace LightControl

open Transducer VarStXport

variable {P : XportSpec}

/-- The bytes begin with a start byte. -/
def Starts (P : XportSpec) (bs : List UInt8) : Prop := ∃ b rest, bs = b :: rest ∧ isStart P b = true

lemma Starts.ne_nil {bs : List UInt8} (h : Starts P bs) : bs ≠ [] := by
  rcases h with ⟨b, rest, rfl, -⟩
  exact List.cons_ne_nil b rest

lemma Starts.append {bs : List UInt8} (h : Starts P bs) (cs : List UInt8) :
    Starts P (bs ++ cs) := by
  rcases h with ⟨b, rest, rfl, hb⟩
  exact ⟨b, rest ++ cs, rfl, hb⟩

/-- **The grammar.** -/
inductive Parsed (P : XportSpec) : List UInt8 → List Frame → Prop
  | nil : Parsed P [] []
  | skip {s : List UInt8} {fs : List Frame} {b : UInt8} (h : Parsed P s fs)
      (hb : isStart P b = false) : Parsed P (s ++ [b]) fs
  | reject {s hdr : List UInt8} {fs : List Frame} (h : Parsed P s fs)
      (hlen : hdr.length = P.hdrSize) (hstart : Starts P hdr)
      (hv : headerValid P hdr = false) : Parsed P (s ++ hdr) fs
  | frame {s : List UInt8} {fs : List Frame} {f : Frame} (h : Parsed P s fs) (hf : f.Valid P)
      (hstart : Starts P f.hdr) : Parsed P (s ++ (f.hdr ++ f.body)) (fs ++ [f])

/-! ## Everything read has the grammar -/

/-- The stream `s` divides into the pieces of the grammar, with the frames `fs`, and the bytes that
are pending. -/
def Phase.Reads (P : XportSpec) (s : List UInt8) (fs : List Frame) : Phase → Prop
  | idle => Parsed P s fs
  | header got => ∃ r, Parsed P r fs ∧ s = r ++ got ∧ Starts P got ∧ got.length < P.hdrSize
  | body hdr got =>
      ∃ r, Parsed P r fs ∧ s = r ++ (hdr ++ got) ∧ hdr.length = P.hdrSize ∧ Starts P hdr ∧
        headerValid P hdr = true ∧
        (got.length < P.hdrBLen hdr ∨ got = [] ∧ P.hdrBLen hdr = 0)

lemma reads_pushHeader {r got : List UInt8} {fs : List Frame} {b : UInt8} (h : Parsed P r fs)
    (hlt : got.length < P.hdrSize) (hstart : Starts P (got ++ [b])) :
    (pushHeader P got b).Reads P (r ++ (got ++ [b])) fs := by
  simp only [pushHeader]
  split
  case isTrue hmore => exact ⟨r, h, rfl, hstart, by simpa using hmore⟩
  case isFalse hdone =>
    have hlen : (got ++ [b]).length = P.hdrSize := by
      rw [List.length_append, List.length_singleton]
      omega
    split
    case isTrue hv =>
      refine ⟨r, h, by rw [List.append_nil], hlen, hstart, hv, ?_⟩
      rcases Nat.eq_zero_or_pos (P.hdrBLen (got ++ [b])) with hzero | hpos
      · exact Or.inr ⟨rfl, hzero⟩
      · exact Or.inl hpos
    case isFalse hv => exact h.reject hlen hstart (Bool.eq_false_iff.mpr hv)

lemma reads_idleStep {s : List UInt8} {fs : List Frame} (h : Parsed P s fs) (b : UInt8) :
    (idleStep P b).Reads P (s ++ [b]) fs := by
  simp only [idleStep]
  split
  case isTrue hb =>
    exact reads_pushHeader h (by simpa using P.hdrSize_pos) ⟨b, [], rfl, hb⟩
  case isFalse hb => exact h.skip (Bool.eq_false_iff.mpr hb)

/-- **One byte.** -/
lemma reads_decodeStep {s : List UInt8} {fs : List Frame} {ph : Phase} (h : ph.Reads P s fs)
    (b : UInt8) :
    (decodeStep P ph b).1.Reads P (s ++ [b]) (fs ++ (decodeStep P ph b).2) := by
  cases ph with
  | idle =>
      rw [decodeStep, List.append_nil]
      exact reads_idleStep h b
  | header got =>
      rcases h with ⟨r, hr, rfl, hstart, hlt⟩
      rw [decodeStep, List.append_nil, List.append_assoc]
      exact reads_pushHeader hr hlt (hstart.append [b])
  | body hdr got =>
      rcases h with ⟨r, hr, rfl, hlen, hstart, hv, hgot⟩
      rcases hgot with hlt | ⟨rfl, hzero⟩
      · rw [decodeStep_incomplete hlt]
        have hassoc : r ++ (hdr ++ got) ++ [b] = r ++ (hdr ++ (got ++ [b])) := by
          simp only [List.append_assoc]
        simp only [pushBody, hassoc]
        split
        case isTrue hdone =>
          have hvalid : Frame.Valid P ⟨hdr, got ++ [b]⟩ := ⟨hlen, hv, by simp; omega⟩
          exact hr.frame hvalid hstart
        case isFalse hmore =>
          rw [List.append_nil]
          exact ⟨r, hr, rfl, hlen, hstart, hv, Or.inl (by simp; omega)⟩
      · -- an empty body is complete with its header
        have hvalid : Frame.Valid P ⟨hdr, []⟩ := ⟨hlen, hv, hzero.symm⟩
        rw [decodeStep_complete (by rw [hzero]; exact Nat.zero_le _)]
        exact reads_idleStep (hr.frame hvalid hstart) b

/-- **Whatever is read has the grammar**, with the frames that the decoder has handed over. -/
theorem reads_feed (stream : List UInt8) :
    (feed (decodeStep P) .idle stream).1.Reads P stream (feed (decodeStep P) .idle stream).2 := by
  induction stream using List.reverseRecOn with
  | nil => exact Parsed.nil
  | append_singleton s b ih =>
      rw [feed_append, feed_singleton]
      exact reads_decodeStep ih b

/-! ## Behind a stream of the grammar -/

/-- Nothing is pending but, perhaps, a frame with an empty body. -/
def Phase.Between (P : XportSpec) (ph : Phase) : Prop :=
  ph = .idle ∨ ∃ hdr, ph = .body hdr [] ∧ P.hdrBLen hdr = 0

/-- Between two frames the next byte is read as if nothing were pending. -/
lemma Phase.Between.step {ph : Phase} (h : ph.Between P) (b : UInt8) :
    (decodeStep P ph b).1 = idleStep P b := by
  rcases h with rfl | ⟨hdr, rfl, hzero⟩
  · rfl
  · rw [decodeStep_complete (by rw [hzero]; exact Nat.zero_le _)]

lemma Phase.Between.feed {ph : Phase} (h : ph.Between P) {bs : List UInt8} (hne : bs ≠ []) :
    (feed (decodeStep P) ph bs).1 = (feed (decodeStep P) .idle bs).1 := by
  rcases List.exists_cons_of_ne_nil hne with ⟨b, bs, rfl⟩
  have hidle : (decodeStep P .idle b).1 = idleStep P b := rfl
  rw [feed_cons, feed_cons]
  simp only [h.step b, hidle]

/-- A header is read from its first byte on. -/
lemma decode_starts {bs : List UInt8} (h : Starts P bs) :
    feed (decodeStep P) .idle bs = feed (decodeStep P) (.header []) bs := by
  rcases h with ⟨b, rest, rfl, hb⟩
  simp only [feed_cons, decodeStep, idleStep, hb, if_true]

/-- A whole header, accepted or rejected. -/
lemma decode_whole_header {hdr : List UInt8} (hlen : hdr.length = P.hdrSize)
    (h : Starts P hdr) :
    feed (decodeStep P) .idle hdr = (if headerValid P hdr then .body hdr [] else .idle, []) := by
  rw [decode_starts h, decode_header h.ne_nil (by simpa using hlen), List.nil_append]

/-- **Behind a stream of the grammar the decoder is between two frames.** -/
theorem feed_parsed {s : List UInt8} {fs : List Frame} (h : Parsed P s fs) :
    (feed (decodeStep P) .idle s).1.Between P := by
  induction h with
  | nil => exact Or.inl rfl
  | skip _ hb ih =>
      rw [feed_append, ih.feed (by simp), feed_singleton]
      simp only [decodeStep, idleStep, hb]
      exact Or.inl rfl
  | reject _ hlen hstart hv ih =>
      rw [feed_append, ih.feed hstart.ne_nil, decode_whole_header hlen hstart,
        if_neg (by simp [hv])]
      exact Or.inl rfl
  | @frame s fs f _ hf hstart ih =>
      have hhdr : feed (decodeStep P) .idle f.hdr = (.body f.hdr [], []) := by
        rw [decode_whole_header hf.length_hdr hstart, if_pos hf.headerValid]
      have hne : f.hdr ++ f.body ≠ [] := (hstart.append f.body).ne_nil
      rw [feed_append, ih.feed hne, feed_append, hhdr]
      by_cases hbody : f.body = []
      · have hzero : P.hdrBLen f.hdr = 0 := by
          rw [← hf.length_body, hbody, List.length_nil]
        rw [hbody, feed_nil]
        exact Or.inr ⟨f.hdr, rfl, hzero⟩
      · rw [decode_body hbody (by simpa using hf.length_body)]
        exact Or.inl rfl

end LightControl
