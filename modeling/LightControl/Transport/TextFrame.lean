import LightControl.Transport.RoundTrip

/-!
# Frames that carry a text

The constructor of `report_transport_struct` that takes a text announces one byte for each of its
code units and one for the terminator, and copies its UTF-8 form.

* `wireImage_ofString` — what is sent: as much of the UTF-8 form and the terminator as announced.
* `addChunks_frame` — what the accumulator makes of a single frame, however it is cut.
* `carriesText_iff` — the two together: a text arrives exactly if its UTF-8 form has as many bytes
  as the text has code units.
-/

namespace LightControl

open Transducer VarStXport Memory QString ReportTransportStruct

/-! ## What is sent -/

/-- The part of the UTF-8 form and its terminator that the frame announces. -/
def sentText (s : QString) : List UInt8 := (s.toUtf8 ++ [0]).take (s.length + 1)

lemma length_sentText (s : QString) : (sentText s).length = s.length + 1 := by
  have hle := (length_toUtf8 s).1
  rw [sentText, List.length_take, List.length_append, List.length_singleton]
  omega

lemma sentText_eq_iff (s : QString) : sentText s = s.toUtf8 ++ [0] ↔ OneByteEach s := by
  have hle := (length_toUtf8 s).1
  have hlength : (s.toUtf8 ++ [0]).length = s.toUtf8.length + 1 := by simp
  rw [← (length_toUtf8 s).2]
  constructor
  · intro heq
    have hsent := length_sentText s
    rw [heq, hlength] at hsent
    omega
  · intro heq
    exact List.take_of_length_le (by omega)

/-- The record up to the announced length: behind the text the cleared record goes on with
zeros. -/
lemma take_record {s : QString} (hle : s.toUtf8.length < reportTransportBiggestBody) :
    (overwrite (overwrite freshBody 0 s.toUtf8) (s.length + 1) [0]).take (s.length + 1)
      = sentText s := by
  have hlength := (length_toUtf8 s).1
  have hfresh := length_freshBody
  have hfit : 0 + s.toUtf8.length ≤ freshBody.length := by omega
  have hdrop : freshBody.drop s.toUtf8.length
      = 0 :: List.replicate (reportTransportBiggestBody - s.toUtf8.length - 1) 0 := by
    rw [freshBody, List.drop_replicate, ← List.replicate_succ]
    congr 1
    omega
  have hrecord : overwrite freshBody 0 s.toUtf8 = (s.toUtf8 ++ [0])
      ++ List.replicate (reportTransportBiggestBody - s.toUtf8.length - 1) 0 := by
    rw [overwrite, List.take_zero, List.nil_append, Nat.zero_add, hdrop, List.append_assoc]
    rfl
  rw [take_overwrite_of_le (Nat.le_refl _) (by rw [length_overwrite hfit]; omega), hrecord,
    List.take_append_of_le_length (by simp; omega), sentText]

/-- **The wire image of a text.** -/
lemma wireImage_ofString (h : HostEndianness) {s : QString} (hne : s ≠ [])
    (hle : s.toUtf8.length ≤ 4094) :
    ∃ t, ofString h s = some t ∧
      t.wireImage h = RepHdr.bytes (s.length + 1) ++ sentText s := by
  have hlength := (length_toUtf8 s).1
  have hbig : reportTransportBiggestBody = 4096 := rfl
  have hsize : s.length + 1 < 65536 := by omega
  refine ⟨_, by rw [ofString_eq h hne hsize, if_pos ⟨by omega, by omega⟩], ?_⟩
  rw [wireImage_withBody hsize, take_record (by omega)]

/-! ## What arrives -/

/-- **A single frame**: the handler is called once, with that frame. -/
lemma addChunks_frame (h : HostEndianness) (charSigned : Bool) {n : ℕ} {body : List UInt8}
    (hn : n ≤ 4096) (hlen : body.length = n) (hne : body ≠ []) {chunks : List (List UInt8)}
    (hchunks : chunks.flatten = RepHdr.bytes n ++ body) :
    ∃ acc c, addChunks (reportXport h charSigned)
        (new (reportXport h charSigned) .nullptr).setVarStHandler chunks = some (acc, [c]) ∧
      ((RepHdr.ofImage h c.hdr).bLen.toHost h).toNat = n ∧
      c.body (reportXport h charSigned) = body := by
  obtain ⟨acc, calls, hrun, hdec⟩ :=
    addChunks_new (P := reportXport h charSigned) .nullptr chunks
  rcases valid_of_length h charSigned hn hlen with ⟨hvalid, hbLen⟩
  have hstart : isStart (reportXport h charSigned) 83 = true :=
    (isStart_reportXport h charSigned 83).mpr rfl
  have hframe := decode_frame hvalid hne rfl hstart
  rw [hchunks, hframe, Prod.mk.injEq] at hdec
  rcases hdec with ⟨-, hcalls⟩
  rcases List.map_eq_singleton_iff.mp hcalls.symm with ⟨c, rfl, hc⟩
  rcases Frame.mk.inj hc with ⟨hhdr, hbody⟩
  refine ⟨acc, c, hrun, ?_, hbody⟩
  rw [hhdr]
  exact hbLen

/-! ## Texts that arrive -/

/-- **The text arrives**: however the wire image of its frame is cut, the handler is called
exactly once, and the body is the UTF-8 form of the text and a terminator, as long as announced. -/
def CarriesText (sender receiver : HostEndianness) (charSigned : Bool) (s : QString) : Prop :=
  ∃ t, ofString sender s = some t ∧
    ∀ chunks : List (List UInt8), chunks.flatten = t.wireImage sender →
      ∃ acc c, addChunks (reportXport receiver charSigned)
          (new (reportXport receiver charSigned) .nullptr).setVarStHandler chunks
            = some (acc, [c]) ∧
        ((RepHdr.ofImage receiver c.hdr).bLen.toHost receiver).toNat
          = (s.toUtf8 ++ [0]).length ∧
        c.body (reportXport receiver charSigned) = s.toUtf8 ++ [0]

lemma text_arrives (sender receiver : HostEndianness) (charSigned : Bool) {s : QString}
    (hpos : 1 ≤ s.toUtf8.length) (hle : s.toUtf8.length ≤ 4094) :
    ∃ t, ofString sender s = some t ∧
      ∀ chunks : List (List UInt8), chunks.flatten = t.wireImage sender →
        ∃ acc c, addChunks (reportXport receiver charSigned)
            (new (reportXport receiver charSigned) .nullptr).setVarStHandler chunks
              = some (acc, [c]) ∧
          ((RepHdr.ofImage receiver c.hdr).bLen.toHost receiver).toNat = s.length + 1 ∧
          c.body (reportXport receiver charSigned) = sentText s := by
  have hlength := (length_toUtf8 s).1
  have hne : s ≠ [] := by
    rintro rfl
    exact absurd hpos (by decide)
  rcases wireImage_ofString sender hne hle with ⟨t, ht, hwire⟩
  refine ⟨t, ht, ?_⟩
  intro chunks hchunks
  refine addChunks_frame receiver charSigned (by omega) (length_sentText s) ?_
    (hchunks.trans hwire)
  rw [← List.length_pos_iff, length_sentText]
  omega

lemma carriesText_of_oneByteEach (sender receiver : HostEndianness) (charSigned : Bool)
    {s : QString} (hpos : 1 ≤ s.toUtf8.length) (hle : s.toUtf8.length ≤ 4094)
    (hone : OneByteEach s) : CarriesText sender receiver charSigned s := by
  rcases text_arrives sender receiver charSigned hpos hle with ⟨t, ht, harrives⟩
  refine ⟨t, ht, ?_⟩
  intro chunks hchunks
  rcases harrives chunks hchunks with ⟨acc, c, hrun, hbLen, hbody⟩
  have htext := (sentText_eq_iff s).mpr hone
  refine ⟨acc, c, hrun, ?_, hbody.trans htext⟩
  rw [hbLen, ← htext, length_sentText]

lemma oneByteEach_of_carriesText {sender receiver : HostEndianness} {charSigned : Bool}
    {s : QString} (hpos : 1 ≤ s.toUtf8.length) (hle : s.toUtf8.length ≤ 4094)
    (hcarries : CarriesText sender receiver charSigned s) : OneByteEach s := by
  rcases text_arrives sender receiver charSigned hpos hle with ⟨t, ht, harrives⟩
  rcases hcarries with ⟨t', ht', hcarries⟩
  obtain rfl : t' = t := Option.some.inj (ht'.symm.trans ht)
  -- one segment is enough to see the difference
  have hwhole : [t'.wireImage sender].flatten = t'.wireImage sender := by simp
  rcases hcarries _ hwhole with ⟨acc, c, hrun, -, hbody⟩
  rcases harrives _ hwhole with ⟨acc', c', hrun', -, hbody'⟩
  have hcalls : c = c' := by
    have heq := congrArg (Option.map Prod.snd) (hrun.symm.trans hrun')
    simpa using heq
  rw [← hcalls] at hbody'
  exact (sentText_eq_iff s).mp (hbody'.symm.trans hbody)

/-- **Which texts arrive.**  For every text whose UTF-8 form has between 1 and 4094 bytes, on
hosts of any byte order: it arrives if and only if each of its code units takes one byte. -/
theorem carriesText_iff (sender receiver : HostEndianness) (charSigned : Bool) {s : QString}
    (hpos : 1 ≤ s.toUtf8.length) (hle : s.toUtf8.length ≤ 4094) :
    CarriesText sender receiver charSigned s ↔ OneByteEach s :=
  ⟨oneByteEach_of_carriesText hpos hle,
    carriesText_of_oneByteEach sender receiver charSigned hpos hle⟩

/-- A word without accents. -/
theorem carriesText_ok : CarriesText .little .big true (literal "ok") :=
  (carriesText_iff .little .big true (by decide) (by decide)).mpr (by decide)

/-- **A text with an accent does not arrive**: of `é`, two bytes and no terminator are sent. -/
theorem not_carriesText :
    ¬ ∀ (sender receiver : HostEndianness) (charSigned : Bool) (s : QString),
      (∀ u ∈ s, u ≠ 0) → 1 ≤ s.toUtf8.length → s.toUtf8.length ≤ 4094 →
      CarriesText sender receiver charSigned s := by
  intro h
  have hone : OneByteEach [0xE9] := oneByteEach_of_carriesText (by decide) (by decide)
    (h .little .little true [0xE9] (by simp) (by decide) (by decide))
  exact absurd hone (by decide)

end LightControl
