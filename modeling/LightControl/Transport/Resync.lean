import LightControl.Transport.Grammar

/-!
# Finding the next frame after garbage

A start byte in the garbage in front of a frame begins a header.  When that header is rejected, all
five of its bytes are thrown away, and when they reach into the frame, the frame is lost.

* `overrun` — how far the last false start of the garbage reaches.
* `decode_garbage` — the decoder behind every piece of the garbage.
* **`resync_iff`** — the frame is delivered, and nothing before it, exactly if the false starts end
  where the garbage does; otherwise it is lost.
-/

namespace LightControl

open Transducer VarStXport

/-- How many bytes behind the garbage its last false start takes along: each `S` that is not itself
part of a false start takes the four bytes behind it. -/
def overrun (garbage : List UInt8) : ℕ :=
  garbage.foldl (fun n b => if n = 0 then (if b = 83 then 4 else 0) else n - 1) 0

lemma overrun_concat (q : List UInt8) (b : UInt8) :
    overrun (q ++ [b])
      = if overrun q = 0 then (if b = 83 then 4 else 0) else overrun q - 1 := by
  rw [overrun, List.foldl_append]
  rfl

/-- No valid header starts in the garbage `g`, with the bytes `w` behind it. -/
def NoHeaderStarts (P : XportSpec) (g w : List UInt8) : Prop :=
  ∀ k < g.length, headerValid P (((g ++ w).drop k).take P.hdrSize) = false

section Report

variable {h : HostEndianness} {charSigned : Bool} {g w : List UInt8}

/-- A header that is pending at the end of a piece of the garbage is rejected. -/
lemma headerValid_eq_false {p got r : List UInt8}
    (hno : NoHeaderStarts (reportXport h charSigned) g w) (hg : p.length < g.length)
    (hsplit : g ++ w = p ++ got ++ r) (hlen : got.length = 5) :
    headerValid (reportXport h charSigned) got = false := by
  have hwindow := hno p.length hg
  have hsize : (reportXport h charSigned).hdrSize = got.length := hlen.symm
  rwa [hsplit, List.append_assoc, List.drop_left, hsize, List.take_left] at hwindow

/-- The decoder behind a piece of the garbage: idle, or in the header of a false start. -/
inductive GarbagePhase (q : List UInt8) : Phase → Prop
  | idle (hover : overrun q = 0) : GarbagePhase q .idle
  | header {p got : List UInt8} (hq : q = p ++ got) (hne : got ≠ []) (hpos : 0 < overrun q)
      (hlen : got.length + overrun q = 5) : GarbagePhase q (.header got)

/-- **The decoder in the garbage** hands nothing over. -/
lemma decode_garbage (hno : NoHeaderStarts (reportXport h charSigned) g w) (q : List UInt8) :
    ∀ r, g = q ++ r → ∃ ph,
      feed (decodeStep (reportXport h charSigned)) .idle q = (ph, []) ∧ GarbagePhase q ph := by
  have hsize : (reportXport h charSigned).hdrSize = 5 := rfl
  induction q using List.reverseRecOn with
  | nil =>
      intro r _
      exact ⟨.idle, rfl, .idle rfl⟩
  | append_singleton q b ih =>
      intro r hr
      rcases ih ([b] ++ r) (by rw [hr, List.append_assoc]) with ⟨ph, hfeed, hphase⟩
      rw [feed_append, feed_singleton, hfeed, List.nil_append]
      cases hphase with
      | idle hover =>
          by_cases hb : b = 83
          · have hstart := (isStart_reportXport h charSigned b).mpr hb
            have hover' : overrun (q ++ [b]) = 4 := by
              rw [overrun_concat, if_pos hover, if_pos hb]
            refine ⟨.header [b], ?_, .header rfl (by simp) (by omega) (by rw [hover']; rfl)⟩
            rw [decodeStep, idleStep, if_pos hstart, pushHeader, if_pos (by rw [hsize]; decide),
              List.nil_append]
          · have hstart : ¬ isStart (reportXport h charSigned) b = true := by
              rwa [isStart_reportXport]
            refine ⟨.idle, ?_, .idle (by rw [overrun_concat, if_pos hover, if_neg hb])⟩
            rw [decodeStep, idleStep, if_neg hstart]
      | @header p got hq hne hpos hlen =>
          have hover' : overrun (q ++ [b]) = overrun q - 1 := by
            rw [overrun_concat, if_neg (by omega)]
          rw [decodeStep, pushHeader]
          by_cases hmore : got.length + 1 < 5
          · refine ⟨.header (got ++ [b]), by rw [hsize, if_pos hmore], ?_⟩
            refine .header (p := p) (by rw [hq, List.append_assoc]) (by simp) (by omega) ?_
            rw [List.length_append, List.length_singleton]
            omega
          · -- the header is complete, and its first byte lies in the garbage
            have hlen5 : (got ++ [b]).length = 5 := by
              rw [List.length_append, List.length_singleton]
              omega
            have hp : p.length < g.length := by
              rw [hr, hq, List.length_append, List.length_append, List.length_append]
              have := List.length_pos_iff.mpr hne
              omega
            have hv : headerValid (reportXport h charSigned) (got ++ [b]) = false := by
              refine headerValid_eq_false (p := p) (r := r ++ w) hno hp ?_ hlen5
              rw [hr, hq]
              simp only [List.append_assoc]
            refine ⟨.idle, ?_, .idle (by omega)⟩
            rw [hsize, if_neg hmore, hv]
            rfl

/-- A frame handed over is no longer than the stream. -/
lemma length_le_of_mem {P : XportSpec} {f : Frame} {stream : List UInt8}
    (hf : f ∈ (feed (decodeStep P) .idle stream).2) :
    f.hdr.length + f.body.length ≤ stream.length := by
  rcases (decode_sound (P := P) stream).1 with ⟨ph, g, fgs, hfgs, hstream⟩
  rw [← hfgs, List.mem_map] at hf
  rcases hf with ⟨fg, hmem, rfl⟩
  have hpiece : fg.1.hdr ++ fg.1.body ++ fg.2
      ∈ fgs.map fun p => p.1.hdr ++ p.1.body ++ p.2 := List.mem_map_of_mem hmem
  have hle := (List.sublist_flatten_of_mem hpiece).length_le
  rw [hstream, layout]
  simp only [List.length_append] at hle ⊢
  omega

/-- The decoder on the garbage and the frame. -/
lemma decode_resync {body : List UInt8} (hpos : 1 ≤ body.length) (hle : body.length ≤ 4096)
    (hno : NoHeaderStarts (reportXport h charSigned) g (RepHdr.bytes body.length ++ body)) :
    (overrun g = 0 →
      (feed (decodeStep (reportXport h charSigned)) .idle
        (g ++ (RepHdr.bytes body.length ++ body))).2 = [⟨RepHdr.bytes body.length, body⟩]) ∧
    (overrun g ≠ 0 →
      ⟨RepHdr.bytes body.length, body⟩ ∉
        (feed (decodeStep (reportXport h charSigned)) .idle
          (g ++ (RepHdr.bytes body.length ++ body))).2) := by
  rcases decode_garbage hno g [] (List.append_nil g).symm with ⟨ph, hfeed, hphase⟩
  rw [feed_append, hfeed, List.nil_append]
  cases hphase with
  | idle hover =>
      refine ⟨fun _ => ?_, fun hne => absurd hover hne⟩
      have hvalid := (valid_of_length h charSigned hle rfl).1
      have hne : body ≠ [] := List.ne_nil_of_length_pos hpos
      have hstart := (isStart_reportXport h charSigned 83).mpr rfl
      dsimp only
      rw [decode_frame hvalid hne rfl hstart]
  | @header p got hq hne hover hlen =>
      refine ⟨fun hzero => absurd hzero (by omega), fun _ hmem => ?_⟩
      -- the false start takes `overrun g` bytes of the frame along
      have hcut : RepHdr.bytes body.length ++ body
          = (RepHdr.bytes body.length ++ body).take (overrun g)
            ++ (RepHdr.bytes body.length ++ body).drop (overrun g) :=
        (List.take_append_drop _ _).symm
      have hwire : (RepHdr.bytes body.length ++ body).length = 5 + body.length := by
        rw [List.length_append]
        rfl
      have htake : ((RepHdr.bytes body.length ++ body).take (overrun g)).length = overrun g := by
        rw [List.length_take]
        omega
      have hgot := List.length_pos_iff.mpr hne
      have hg : p.length < g.length := by
        rw [hq, List.length_append]
        omega
      have hv : headerValid (reportXport h charSigned)
          (got ++ (RepHdr.bytes body.length ++ body).take (overrun g)) = false := by
        refine headerValid_eq_false (p := p)
          (r := (RepHdr.bytes body.length ++ body).drop (overrun g)) hno hg ?_ ?_
        · nth_rewrite 1 [hq, hcut]
          simp only [List.append_assoc]
        · rw [List.length_append]
          omega
      have hrejected : feed (decodeStep (reportXport h charSigned)) (.header got)
          ((RepHdr.bytes body.length ++ body).take (overrun g)) = (.idle, []) := by
        rw [decode_header (List.ne_nil_of_length_pos (by omega)) (by rw [htake]; exact hlen), hv]
        rfl
      dsimp only at hmem
      rw [hcut, feed_append, hrejected, List.nil_append] at hmem
      have hlong := length_le_of_mem hmem
      have hhdr : (RepHdr.bytes body.length).length = 5 := rfl
      rw [List.length_drop] at hlong
      dsimp only at hlong
      omega

section Calls

variable {out : OutRecord (reportXport h charSigned)} {body : List UInt8}
  (hpos : 1 ≤ body.length) (hle : body.length ≤ 4096)
  (hno : NoHeaderStarts (reportXport h charSigned) g (RepHdr.bytes body.length ++ body))
  {chunks : List (List UInt8)}
  (hchunks : chunks.flatten = g ++ (RepHdr.bytes body.length ++ body))
  {acc : VarStXport} {calls : List HandlerCall}
  (hrun : addChunks (reportXport h charSigned)
    (new (reportXport h charSigned) out).setVarStHandler chunks = some (acc, calls))

include hpos hle hno hchunks hrun

/-- The calls that a stream of the garbage and the frame causes: one with the frame, or none
with it. -/
lemma calls_resync :
    (overrun g = 0 → calls.map (HandlerCall.frameOf (reportXport h charSigned))
      = [⟨RepHdr.bytes body.length, body⟩]) ∧
    (overrun g ≠ 0 → ⟨RepHdr.bytes body.length, body⟩ ∉
      calls.map (HandlerCall.frameOf (reportXport h charSigned))) := by
  have hcalls : calls.map (HandlerCall.frameOf (reportXport h charSigned))
      = (feed (decodeStep (reportXport h charSigned)) .idle
          (g ++ (RepHdr.bytes body.length ++ body))).2 := by
    rcases addChunks_new out chunks with ⟨acc', calls', hrun', hdec⟩
    rw [hrun, Option.some.injEq, Prod.mk.injEq] at hrun'
    rw [← hchunks, hdec, hrun'.2]
  rw [hcalls]
  exact decode_resync hpos hle hno

lemma delivered_iff :
    (∃ rest, calls.map (HandlerCall.frameOf (reportXport h charSigned))
        = ⟨RepHdr.bytes body.length, body⟩ :: rest ∧
      ⟨RepHdr.bytes body.length, body⟩ ∉ rest) ↔ overrun g = 0 := by
  rcases calls_resync hpos hle hno hchunks hrun with ⟨hdelivered, hlost⟩
  constructor
  · rintro ⟨rest, heq, -⟩
    by_contra hover
    exact hlost hover (by rw [heq]; exact List.mem_cons_self)
  · intro hover
    exact ⟨[], hdelivered hover, List.not_mem_nil⟩

end Calls

/-- **Which garbage loses the frame behind it.**  Let no valid header start in the garbage `g` in
front of the wire image of a frame with a body of 1 to 4096 bytes, and let the stream be cut in any
way: the frame is delivered exactly once and nothing before it, if and only if the false starts of
the garbage end where the garbage does.  If they do not, the frame is not delivered at all. -/
theorem resync_iff (h : HostEndianness) (charSigned : Bool)
    (out : OutRecord (reportXport h charSigned)) {g body : List UInt8} (hpos : 1 ≤ body.length)
    (hle : body.length ≤ 4096)
    (hno : NoHeaderStarts (reportXport h charSigned) g (RepHdr.bytes body.length ++ body))
    (chunks : List (List UInt8))
    (hchunks : chunks.flatten = g ++ (RepHdr.bytes body.length ++ body)) :
    ∃ acc calls,
      addChunks (reportXport h charSigned) (new (reportXport h charSigned) out).setVarStHandler
        chunks = some (acc, calls) ∧
      ((∃ rest, calls.map (HandlerCall.frameOf (reportXport h charSigned))
            = ⟨RepHdr.bytes body.length, body⟩ :: rest ∧
          ⟨RepHdr.bytes body.length, body⟩ ∉ rest) ↔ overrun g = 0) ∧
      (overrun g ≠ 0 → ⟨RepHdr.bytes body.length, body⟩ ∉
        calls.map (HandlerCall.frameOf (reportXport h charSigned))) := by
  rcases addChunks_new out chunks with ⟨acc, calls, hrun, -⟩
  exact ⟨acc, calls, hrun, delivered_iff hpos hle hno hchunks hrun,
    (calls_resync hpos hle hno hchunks hrun).2⟩

/-- No valid header starts in one byte of garbage in front of a frame of one byte. -/
lemma noHeaderStarts_one (b : UInt8) :
    NoHeaderStarts (reportXport .little true) [b] (RepHdr.bytes [(9 : UInt8)].length ++ [9]) := by
  intro k hk
  match k, hk with
  | 0, _ =>
      rw [Bool.eq_false_iff]
      intro hv
      exact absurd ((headerValid_reportXport .little true b 83 5 2 0).mp hv).2.1 (by decide)

/-- A byte that starts nothing, and then a frame of one byte, in two chunks. -/
theorem resync_iff_one : ∃ acc calls,
    addChunks (reportXport .little true) (new (reportXport .little true) .nullptr).setVarStHandler
      [[1, 83, 5], [2, 0, 1, 9]] = some (acc, calls) ∧
    ∃ rest, calls.map (HandlerCall.frameOf (reportXport .little true))
      = ⟨[83, 5, 2, 0, 1], [9]⟩ :: rest := by
  rcases resync_iff .little true .nullptr (by decide) (by decide) (noHeaderStarts_one 1)
    [[1, 83, 5], [2, 0, 1, 9]] rfl with ⟨acc, calls, hrun, hiff, -⟩
  rcases hiff.mpr rfl with ⟨rest, hrest, -⟩
  exact ⟨acc, calls, hrun, rest, hrest⟩

/-- **A single start byte in front of a frame loses it.** -/
theorem not_resync :
    ¬ ∀ (h : HostEndianness) (charSigned : Bool) (out : OutRecord (reportXport h charSigned))
      (g body : List UInt8), 1 ≤ body.length → body.length ≤ 4096 →
      NoHeaderStarts (reportXport h charSigned) g (RepHdr.bytes body.length ++ body) →
      ∀ chunks : List (List UInt8),
        chunks.flatten = g ++ (RepHdr.bytes body.length ++ body) →
        ∃ acc calls,
          addChunks (reportXport h charSigned) (new (reportXport h charSigned) out).setVarStHandler
            chunks = some (acc, calls) ∧
          ∃ rest, calls.map (HandlerCall.frameOf (reportXport h charSigned))
              = ⟨RepHdr.bytes body.length, body⟩ :: rest ∧
            ⟨RepHdr.bytes body.length, body⟩ ∉ rest := by
  intro hall
  have hchunks : [[83, 83, 5, 2, 0, 1, 9]].flatten
      = [83] ++ (RepHdr.bytes [(9 : UInt8)].length ++ [9]) := rfl
  rcases hall .little true .nullptr [83] [9] (by decide) (by decide) (noHeaderStarts_one 83)
    [[83, 83, 5, 2, 0, 1, 9]] hchunks with ⟨acc, calls, hrun, hdelivered⟩
  have hover := (delivered_iff (by decide) (by decide) (noHeaderStarts_one 83) hchunks hrun).mp
    hdelivered
  exact absurd hover (by decide)

end Report

end LightControl
