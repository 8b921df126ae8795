import LightControl.Transport.UnsignedLoop

/-!
# The accumulator's memory

What the accumulator's fields mean in each of its states, wherever its loop tests its guard, and
that every copy the loop makes stays inside the chunk it reads and inside the part of the header or
of the record that it is to fill.

`iterationCopy` is what the `memcpy` of an iteration is told, and `loopBody_run` says that the
iteration is made of it.  The copy lengths come from differences of unsigned numbers, one of which
is the body length that the stream announced.  `Inv` keeps them from wrapping; `Started` adds that a
header that is pending began with a start byte.
-/

namespace LightControl.VarStXport

open CTypes Memory WhileLoop Transducer

/-! ## The copies of one iteration -/

/-- What a `memcpy` of the loop is told: where to write in its destination, where to read in the
chunk, and how many bytes. -/
structure CopyArgs where
  dstOff : ℕ
  srcOff : ℕ
  n : ℕ
  deriving DecidableEq, Repr

/-- A `memcpy` of the loop, by its destination. -/
inductive Copy
  | header (args : CopyArgs)
  | record (args : CopyArgs)
  deriving DecidableEq, Repr

/-- It reads inside a chunk of the given length, and writes inside the header or inside the part
of the record that a body can take. -/
def Copy.InBounds (hdrSize bodyBiggest chunk : ℕ) : Copy → Prop
  | header args => args.srcOff + args.n ≤ chunk ∧ args.dstOff + args.n ≤ hdrSize
  | record args => args.srcOff + args.n ≤ chunk ∧ args.dstOff + args.n ≤ bodyBiggest

variable (P : XportSpec)

/-- The `memcpy` of `case WAITING_FOR_HDR_COMPLETE`. -/
def headerCopy (l : LoopState) : CopyArgs where
  dstOff := l.acc.bytesInHeader
  srcOff := l.bytesUsed
  n := min l.bytesAvailable (usub 64 P.hdrSize l.acc.bytesInHeader)

/-- The `memcpy` of `case WAITING_FOR_BUFFER_COMPLETE`. -/
def recordCopy (l : LoopState) : CopyArgs where
  dstOff := l.acc.bytesInVarPart
  srcOff := l.bytesUsed
  n := min (min l.bytesAvailable (P.hdrBLen l.acc.wholeHeader))
    (usub 32 (P.hdrBLen l.acc.wholeHeader) l.acc.bytesInVarPart)

/-- The `memcpy` of an iteration, if it makes one. -/
def iterationCopy (bytes : List UInt8) (l : LoopState) : Option Copy :=
  match l.acc.inAccum with
  | .bufEmpty =>
      bytes[l.bytesUsed]?.bind fun b =>
        if isStart P b then some (.header (headerCopy P l)) else none
  | .waitingForHdrComplete => some (.header (headerCopy P l))
  | .waitingForBufferComplete => some (.record (recordCopy P l))

/-- What the `memcpy` leaves in its destination, if it stays inside. -/
def Copy.run (bytes : List UInt8) (l : LoopState) : Copy → Option (List UInt8)
  | header args => memcpy l.acc.wholeHeader args.dstOff bytes args.srcOff args.n
  | record args => l.acc.varPart.bind fun record =>
      memcpy record args.dstOff bytes args.srcOff args.n

/-- The iteration once its `memcpy` has left those bytes. -/
def Copy.finish (l : LoopState) (dst : List UInt8) : Copy → LoopState
  | header args => { l with
      acc := checkHeader P { l.acc with
        inAccum := .waitingForHdrComplete
        wholeHeader := dst
        bytesInHeader := l.acc.bytesInHeader + args.n }
      bytesAvailable := l.bytesAvailable - args.n
      bytesUsed := l.bytesUsed + args.n }
  | record args =>
      let r := checkBody P { l.acc with
        varPart := some dst
        bytesInVarPart := l.acc.bytesInVarPart + args.n }
      { acc := r.1
        bytesAvailable := l.bytesAvailable - args.n
        bytesUsed := l.bytesUsed + args.n
        calls := l.calls ++ r.2 }

variable {P} {bytes : List UInt8} {target : VarStXport × List HandlerCall} {l l' : LoopState}

lemma copyHeader_run (hstate : l.acc.inAccum = .waitingForHdrComplete) :
    copyHeader P bytes l = ((Copy.header (headerCopy P l)).run bytes l).map fun dst =>
      (Copy.header (headerCopy P l)).finish P l dst := by
  rw [copyHeader, Copy.run]
  simp only [Copy.finish, ← hstate]
  rfl

lemma copyBody_run :
    copyBody P bytes l = ((Copy.record (recordCopy P l)).run bytes l).map fun dst =>
      (Copy.record (recordCopy P l)).finish P l dst := by
  rw [copyBody, Copy.run, Option.map_bind]
  rfl

/-- **The iteration is its copy**: it goes wrong if the `memcpy` does, and otherwise goes on with
what that leaves. -/
theorem loopBody_run {c : Copy} (hc : iterationCopy P bytes l = some c) :
    loopBody P bytes l = (c.run bytes l).map fun dst => c.finish P l dst := by
  cases hstate : l.acc.inAccum with
  | bufEmpty =>
      simp only [iterationCopy, hstate, Option.bind_eq_some_iff] at hc
      rcases hc with ⟨b, hb, hc⟩
      split at hc
      case isFalse => cases hc
      case isTrue hstart =>
        cases hc
        simp only [loopBody, hstate, hb, Option.bind_some, if_pos hstart]
        exact copyHeader_run rfl
  | waitingForHdrComplete =>
      simp only [iterationCopy, hstate, Option.some.injEq] at hc
      rw [← hc, loopBody, hstate]
      exact copyHeader_run hstate
  | waitingForBufferComplete =>
      simp only [iterationCopy, hstate, Option.some.injEq] at hc
      rw [← hc, loopBody, hstate]
      exact copyBody_run

lemma headerCopy_n (hlt : l.acc.bytesInHeader ≤ P.hdrSize) :
    (headerCopy P l).n = min l.bytesAvailable (P.hdrSize - l.acc.bytesInHeader) := by
  have hsize := P.hdrSize_lt
  rw [headerCopy, usub_of_le hlt (by omega)]

lemma recordCopy_n (hle : l.acc.bytesInVarPart ≤ P.hdrBLen l.acc.wholeHeader) :
    (recordCopy P l).n
      = min l.bytesAvailable (P.hdrBLen l.acc.wholeHeader - l.acc.bytesInVarPart) := by
  have hlt := P.hdrBLen_lt l.acc.wholeHeader
  simp only [recordCopy]
  rw [usub_of_le hle (by omega)]
  omega

/-- **Every copy stays inside.** -/
theorem inBounds_iterationCopy (h : LoopInv P bytes target l) {c : Copy}
    (hc : iterationCopy P bytes l = some c) :
    c.InBounds P.hdrSize P.bodyBiggest bytes.length := by
  have hcnt := h.counters
  have hheader : l.acc.bytesInHeader ≤ P.hdrSize →
      (Copy.header (headerCopy P l)).InBounds P.hdrSize P.bodyBiggest bytes.length := by
    intro hle
    have hn := headerCopy_n (l := l) hle
    refine ⟨?_, ?_⟩
    · simp only [headerCopy] at hn ⊢
      omega
    · simp only [headerCopy] at hn ⊢
      omega
  cases hstate : l.acc.inAccum with
  | bufEmpty =>
      simp only [iterationCopy, hstate, Option.bind_eq_some_iff] at hc
      rcases hc with ⟨b, -, hb⟩
      split at hb
      case isFalse => cases hb
      case isTrue =>
        rw [Option.some.injEq] at hb
        rw [← hb]
        have hzero := (h.acc.empty hstate).1
        exact hheader (by omega)
  | waitingForHdrComplete =>
      simp only [iterationCopy, hstate, Option.some.injEq] at hc
      rw [← hc]
      have hlt := (h.acc.hdr hstate).2.1
      exact hheader (by omega)
  | waitingForBufferComplete =>
      simp only [iterationCopy, hstate, Option.some.injEq] at hc
      rw [← hc]
      rcases h.acc.body hstate with ⟨-, hv, -, hvar⟩
      have hbig := bLen_le_of_headerValid hv
      have hn := recordCopy_n (P := P) (l := l) (by omega)
      refine ⟨?_, ?_⟩
      · simp only [recordCopy] at hn ⊢
        omega
      · simp only [recordCopy] at hn ⊢
        omega

/-! ## A pending header begins with a start byte -/

variable (P) in
/-- A header that is pending began with a start byte. -/
def Started (a : VarStXport) : Prop :=
  a.inAccum = .waitingForHdrComplete → ∃ b, a.wholeHeader.head? = some b ∧ isStart P b = true

lemma started_checkHeader {a : VarStXport}
    (h : ∃ b, a.wholeHeader.head? = some b ∧ isStart P b = true) :
    Started P (checkHeader P a) := by
  intro _
  unfold checkHeader
  split
  · exact h
  · split
    · exact h
    · exact h

lemma started_checkBody {a : VarStXport} (hstate : a.inAccum = .waitingForBufferComplete) :
    Started P (checkBody P a).1 := by
  intro hwait
  simp only [checkBody] at hwait
  split at hwait
  · cases hwait
  · rw [hstate] at hwait
    cases hwait

lemma started_copyHeader (hlen : l.acc.wholeHeader.length = P.hdrSize)
    (hlt : l.acc.bytesInHeader < P.hdrSize)
    (hcnt : l.bytesAvailable + l.bytesUsed = bytes.length) (havail : 0 < l.bytesAvailable)
    (hstart : l.acc.bytesInHeader = 0 →
      ∃ b, bytes[l.bytesUsed]? = some b ∧ isStart P b = true)
    (hpend : 0 < l.acc.bytesInHeader →
      ∃ b, l.acc.wholeHeader.head? = some b ∧ isStart P b = true)
    (hcopy : copyHeader P bytes l = some l') : Started P l'.acc := by
  rcases copyHeader_eq hlen hlt hcnt with ⟨n, hn, heq⟩
  rw [heq, Option.some.injEq] at hcopy
  rw [← hcopy]
  refine started_checkHeader ?_
  rcases Nat.eq_zero_or_pos l.acc.bytesInHeader with hzero | hpos
  · rcases hstart hzero with ⟨b, hb, hs⟩
    have hhead : ((bytes.drop l.bytesUsed).take n).head? = some b := by
      rw [List.head?_take, if_neg (by omega), List.head?_drop, hb]
    have hne : (bytes.drop l.bytesUsed).take n ≠ [] := by
      intro hnil
      rw [hnil] at hhead
      cases hhead
    refine ⟨b, ?_, hs⟩
    simp only [putHeader, hzero]
    rw [head?_overwrite_zero hne, hhead]
  · rcases hpend hpos with ⟨b, hb, hs⟩
    refine ⟨b, ?_, hs⟩
    simp only [putHeader]
    rw [head?_overwrite_of_pos hpos (by omega), hb]

/-- **One iteration** leaves a pending header that began with a start byte. -/
lemma started_loopBody (h : LoopInv P bytes target l) (hs : Started P l.acc)
    (hguard : loopGuard l = true) (hbody : loopBody P bytes l = some l') : Started P l'.acc := by
  have havail : 0 < l.bytesAvailable := by simpa [loopGuard] using hguard
  cases hstate : l.acc.inAccum with
  | bufEmpty =>
      rcases h.acc.empty hstate with ⟨hzero, -⟩
      have hpos := P.hdrSize_pos
      rcases h.next_byte havail with ⟨b, hb, -⟩
      simp only [loopBody, hstate, hb, Option.bind_some] at hbody
      split at hbody
      case isTrue hstart =>
        have hlt : l.acc.bytesInHeader < P.hdrSize := by omega
        exact started_copyHeader h.acc.length_header hlt h.counters havail
          (fun _ => ⟨b, hb, hstart⟩) (fun hgt => absurd hzero (Nat.ne_of_gt hgt)) hbody
      case isFalse =>
        rw [Option.some.injEq] at hbody
        rw [← hbody]
        exact hs
  | waitingForHdrComplete =>
      rcases h.acc.hdr hstate with ⟨hgt, hlt, -⟩
      simp only [loopBody, hstate] at hbody
      exact started_copyHeader h.acc.length_header hlt h.counters havail
        (fun hzero => absurd hzero (by omega)) (fun _ => hs hstate) hbody
  | waitingForBufferComplete =>
      simp only [loopBody, hstate] at hbody
      rcases copyBody_eq h.acc hstate h.counters with ⟨n, -, heq⟩
      rw [heq, Option.some.injEq] at hbody
      rw [← hbody]
      exact started_checkBody hstate

/-! ## Everywhere in the loop -/

/-- What holds wherever the loop tests its guard. -/
lemma passes_invariant {a : VarStXport} (h : Inv P a) (hs : Started P a)
    (hpass : Passes loopGuard (loopBody P bytes)
      { acc := a, bytesAvailable := bytes.length, bytesUsed := 0, calls := [] } l) :
    LoopInv P bytes (feed (byteStep P) a bytes) l ∧ Started P l.acc := by
  refine hpass.invariant (I := fun l =>
    LoopInv P bytes (feed (byteStep P) a bytes) l ∧ Started P l.acc) ⟨loopInv_entry h bytes, hs⟩ ?_
  rintro l l' ⟨hinv, hstarted⟩ hguard hl'
  refine ⟨?_, started_loopBody hinv hstarted hguard hl'⟩
  rcases loopBody_feed l hinv hguard with ⟨l₁, hl₁, hinv₁, -⟩
  rw [hl₁, Option.some.injEq] at hl'
  exact hl' ▸ hinv₁

lemma started_addBytes {a a' : VarStXport} (h : Inv P a) (hs : Started P a)
    (hadd : (addBytes P a bytes).map Prod.fst = some a') : Started P a' := by
  rcases addBytesLoop_eq h bytes with ⟨l, hl, -⟩
  rw [addBytes, hl, Option.map_some, Option.map_some, Option.some.injEq] at hadd
  rw [← hadd]
  exact (passes_invariant h hs (passes_while _ hl)).2

/-- A sequence of calls goes through. -/
lemma run_apply (out : OutRecord P) (ops : List Op) :
    ∃ a, Runs.run (Op.apply P) (new P out) ops = some a ∧ Inv P a ∧ Started P a := by
  induction ops using List.reverseRecOn with
  | nil => exact ⟨_, rfl, inv_new out, by simp [Started, new]⟩
  | append_singleton ops op ih =>
      rcases ih with ⟨a, hrun, hinv, hs⟩
      have hadd : ∀ bytes, (addBytes P a bytes).map Prod.fst
          = some (feed (byteStep P) a bytes).1 := by
        intro bytes
        rw [addBytes_eq_feed hinv, Option.map_some]
      obtain ⟨a', ha', hs'⟩ : ∃ a', op.apply P a = some a' ∧ Started P a' := by
        cases op with
        | setVarStHandler => exact ⟨_, rfl, hs⟩
        | addByte b => exact ⟨_, hadd [b], started_addBytes hinv hs (hadd [b])⟩
        | addBytes bytes => exact ⟨_, hadd bytes, started_addBytes hinv hs (hadd bytes)⟩
      refine ⟨a', ?_, inv_apply hinv ha', hs'⟩
      rw [Runs.run_append, hrun, Option.bind_some, Runs.run_cons, ha', Option.bind_some,
        Runs.run_nil]

/-! ## Report frames -/

/-- The representation of the accumulator of report frames: what its counters and its header are
in each of its states. -/
structure Represents (a : VarStXport) : Prop where
  empty : a.inAccum = .bufEmpty → a.bytesInHeader = 0 ∧ a.bytesInVarPart = 0
  header : a.inAccum = .waitingForHdrComplete →
    0 < a.bytesInHeader ∧ a.bytesInHeader < 5 ∧ a.wholeHeader.head? = some 83
  body : a.inAccum = .waitingForBufferComplete →
    ∃ hi lo : UInt8, a.wholeHeader = [83, 5, 2, hi, lo] ∧ hi.toNat * 256 + lo.toNat ≤ 4096 ∧
      a.bytesInVarPart ≤ hi.toNat * 256 + lo.toNat

lemma represents_of_inv {h : HostEndianness} {charSigned : Bool} {a : VarStXport}
    (ha : Inv (reportXport h charSigned) a) (hs : Started (reportXport h charSigned) a) :
    Represents a where
  empty := ha.empty
  header hstate := by
    rcases ha.hdr hstate with ⟨hpos, hlt, -⟩
    rcases hs hstate with ⟨b, hb, hstart⟩
    rw [isStart_reportXport] at hstart
    exact ⟨hpos, hlt, hstart ▸ hb⟩
  body hstate := by
    rcases ha.body hstate with ⟨-, hv, -, hvar⟩
    rcases headerValid_cases ha.length_header hv with ⟨hi, lo, hhdr, hbLen, hle⟩
    exact ⟨hi, lo, hhdr, hle, by omega⟩

/-- **The representation invariant and the copies.**  Every sequence of calls goes through, and in
the state it reaches the fields mean what `Represents` says.  The same holds wherever the loop of
the next call tests its guard; there the iteration is defined, it is what its `memcpy` leaves, and
the `memcpy` reads inside the chunk and writes inside the five bytes of the header or the first 4096
of the record. -/
theorem run_represents (h : HostEndianness) (charSigned : Bool)
    (out : OutRecord (reportXport h charSigned)) (ops : List Op) :
    ∃ a, Runs.run (Op.apply (reportXport h charSigned)) (new (reportXport h charSigned) out) ops
        = some a ∧
      Represents a ∧
      ∀ bytes l, Passes loopGuard (loopBody (reportXport h charSigned) bytes)
          { acc := a, bytesAvailable := bytes.length, bytesUsed := 0, calls := [] } l →
        Represents l.acc ∧
        (loopGuard l = true → (loopBody (reportXport h charSigned) bytes l).isSome ∧
          ∀ c, iterationCopy (reportXport h charSigned) bytes l = some c →
            c.InBounds 5 4096 bytes.length ∧
            loopBody (reportXport h charSigned) bytes l
              = (c.run bytes l).map fun dst => c.finish (reportXport h charSigned) l dst) := by
  rcases run_apply out ops with ⟨a, hrun, hinv, hs⟩
  refine ⟨a, hrun, represents_of_inv hinv hs, ?_⟩
  intro bytes l hpass
  rcases passes_invariant hinv hs hpass with ⟨hloop, hstarted⟩
  refine ⟨represents_of_inv hloop.acc hstarted, ?_⟩
  intro hguard
  rcases loopBody_feed l hloop hguard with ⟨l', hl', -⟩
  exact ⟨Option.isSome_of_eq_some hl',
    fun c hc => ⟨inBounds_iterationCopy hloop hc, loopBody_run hc⟩⟩

end LightControl.VarStXport
