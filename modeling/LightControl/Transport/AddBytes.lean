import LightControl.Core.Transducer
import LightControl.Transport.VarStXport

/-!
# `add_bytes` is a byte machine

The loop of `add_bytes` copies in bulk: as much as is available and as much as fits.  This file
shows that it nevertheless does exactly what reading its input one byte at a time does.

* `Inv` — the representation invariant of the accumulator.
* `byteStep` — what one byte does to the accumulator, and the handler calls it causes.
* `feed_putHeader`, `feed_putBody` — one bulk copy is the byte machine run over the bytes copied.
* `loopBody_feed` — one iteration of the loop, in those terms: it keeps the invariant, lowers the
  measure, and leaves the run of the byte machine over the rest of the input to be done.
* **`addBytes_eq_feed`** — the whole call: it is defined, and it is the byte machine run over its
  input.  `addChunks_eq_feed` lifts it to any number of calls.
-/

namespace LightControl.VarStXport

open CTypes Memory WhileLoop Transducer

variable {P : XportSpec}

/-- The representation invariant. -/
structure Inv (P : XportSpec) (a : VarStXport) : Prop where
  length_header : a.wholeHeader.length = P.hdrSize
  length_record : ∀ r, a.varPart = some r → P.bodyBiggest ≤ r.length
  empty : a.inAccum = .bufEmpty → a.bytesInHeader = 0 ∧ a.bytesInVarPart = 0
  hdr : a.inAccum = .waitingForHdrComplete →
    0 < a.bytesInHeader ∧ a.bytesInHeader < P.hdrSize ∧ a.bytesInVarPart = 0
  body : a.inAccum = .waitingForBufferComplete →
    a.bytesInHeader = P.hdrSize ∧ headerValid P a.wholeHeader = true ∧ a.varPart.isSome ∧
      (a.bytesInVarPart < P.hdrBLen a.wholeHeader ∨
        a.bytesInVarPart = 0 ∧ P.hdrBLen a.wholeHeader = 0)

lemma bLen_le_of_headerValid {hdr : List UInt8} (h : headerValid P hdr = true) :
    P.hdrBLen hdr ≤ P.bodyBiggest := by
  simp only [headerValid, Bool.and_eq_true, decide_eq_true_eq] at h
  exact h.2

/-- A constructed accumulator satisfies the invariant, whatever record it was given to fill. -/
lemma inv_new (out : OutRecord P) : Inv P (new P out) where
  length_header := P.length_freshHdr
  length_record := out.fits
  empty _ := ⟨rfl, rfl⟩
  hdr h := by simp [new] at h
  body h := by simp [new] at h

lemma Inv.setVarStHandler {a : VarStXport} (h : Inv P a) : Inv P a.setVarStHandler :=
  ⟨h.length_header, h.length_record, h.empty, h.hdr, h.body⟩

/-! ## One byte -/

/-- The bytes written behind those already in the header. -/
def putHeader (a : VarStXport) (bs : List UInt8) : VarStXport :=
  { a with
    wholeHeader := overwrite a.wholeHeader a.bytesInHeader bs
    bytesInHeader := a.bytesInHeader + bs.length }

/-- The bytes written behind those already in the record. -/
def putBody (a : VarStXport) (bs : List UInt8) : VarStXport :=
  { a with
    varPart := a.varPart.map fun r => overwrite r a.bytesInVarPart bs
    bytesInVarPart := a.bytesInVarPart + bs.length }

variable (P) in
/-- A byte that finds the accumulator empty. -/
def emptyStep (a : VarStXport) (b : UInt8) : VarStXport :=
  if isStart P b then checkHeader P (putHeader a [b]) else a

variable (P) in
/-- **One byte.**  A body of length zero is complete before any byte of it arrives; it is handed
over when the next byte does, and that byte then finds the accumulator empty. -/
def byteStep (a : VarStXport) (b : UInt8) : VarStXport × List HandlerCall :=
  match a.inAccum with
  | .bufEmpty => (emptyStep P a b, [])
  | .waitingForHdrComplete => (checkHeader P (putHeader a [b]), [])
  | .waitingForBufferComplete =>
      if P.hdrBLen a.wholeHeader ≤ a.bytesInVarPart then
        (emptyStep P (checkBody P a).1 b, (checkBody P a).2)
      else checkBody P (putBody a [b])

/-! ## The invariant -/

/-- Bytes that fit into the header leave the accumulator in order once they are checked. -/
lemma inv_checkHeader_putHeader {a : VarStXport} {bs : List UInt8}
    (hlen : a.wholeHeader.length = P.hdrSize)
    (hrec : ∀ r, a.varPart = some r → P.bodyBiggest ≤ r.length) (hvar : a.bytesInVarPart = 0)
    (hne : bs ≠ []) (hfit : a.bytesInHeader + bs.length ≤ P.hdrSize) :
    Inv P (checkHeader P (putHeader a bs)) := by
  have hlen' : (overwrite a.wholeHeader a.bytesInHeader bs).length = P.hdrSize := by
    rw [length_overwrite (by omega), hlen]
  have hpos : 0 < bs.length := List.length_pos_iff.mpr hne
  unfold checkHeader putHeader
  split
  case isTrue hlt =>
    dsimp only at hlt
    exact ⟨hlen', hrec, by simp, fun _ => ⟨by dsimp only; omega, hlt, hvar⟩, by simp⟩
  case isFalse hlt =>
    dsimp only at hlt
    split
    case isTrue hv =>
      refine ⟨hlen', ?_, by simp, by simp, fun _ => ⟨by dsimp only; omega, hv, rfl, ?_⟩⟩
      · intro r hr
        dsimp only at hr
        cases hvp : a.varPart with
        | none =>
            rw [hvp, Option.getD_none, Option.some.injEq] at hr
            exact hr ▸ P.body_fits
        | some r' =>
            rw [hvp, Option.getD_some, Option.some.injEq] at hr
            exact hr ▸ hrec r' hvp
      · dsimp only
        omega
    case isFalse =>
      exact ⟨hlen', hrec, fun _ => ⟨rfl, hvar⟩, by simp, by simp⟩

lemma inv_checkBody {a : VarStXport} (hlen : a.wholeHeader.length = P.hdrSize)
    (hrec : ∀ r, a.varPart = some r → P.bodyBiggest ≤ r.length)
    (hstate : a.inAccum = .waitingForBufferComplete) (hhdr : a.bytesInHeader = P.hdrSize)
    (hv : headerValid P a.wholeHeader = true) (hsome : a.varPart.isSome) :
    Inv P (checkBody P a).1 := by
  simp only [checkBody]
  split
  case isTrue => exact ⟨hlen, hrec, fun _ => ⟨rfl, rfl⟩, by simp, by simp⟩
  case isFalse hlt =>
    exact ⟨hlen, hrec, by simp [hstate], by simp [hstate],
      fun _ => ⟨hhdr, hv, hsome, Or.inl (by dsimp only; omega)⟩⟩

lemma inv_checkBody_putBody {a : VarStXport} (h : Inv P a)
    (hstate : a.inAccum = .waitingForBufferComplete) (bs : List UInt8)
    (hfit : a.bytesInVarPart + bs.length ≤ P.hdrBLen a.wholeHeader) :
    Inv P (checkBody P (putBody a bs)).1 := by
  rcases h.body hstate with ⟨hhdr, hv, hsome, -⟩
  refine inv_checkBody h.length_header ?_ hstate hhdr hv (by simpa [putBody] using hsome)
  intro r hr
  simp only [putBody, Option.map_eq_some_iff] at hr
  rcases hr with ⟨r', hr', rfl⟩
  have hbig := h.length_record r' hr'
  have hle := bLen_le_of_headerValid hv
  rw [length_overwrite (by omega)]
  exact hbig

lemma checkBody_of_complete {a : VarStXport} (h : P.hdrBLen a.wholeHeader ≤ a.bytesInVarPart) :
    checkBody P a = ({ a with bytesInHeader := 0, bytesInVarPart := 0, inAccum := .bufEmpty },
      if a.sh then [⟨a.wholeHeader, a.varPart⟩] else []) := by
  rw [checkBody, if_pos h]

/-! ## Bulk copies -/

/-- A bulk copy into the header is the byte machine run over the bytes copied. -/
lemma feed_putHeader (bs : List UInt8) {a : VarStXport}
    (hstate : a.inAccum = .waitingForHdrComplete) (hlen : a.wholeHeader.length = P.hdrSize)
    (hne : bs ≠ []) (hfit : a.bytesInHeader + bs.length ≤ P.hdrSize) :
    feed (byteStep P) a bs = (checkHeader P (putHeader a bs), []) := by
  induction bs generalizing a with
  | nil => exact absurd rfl hne
  | cons b bs ih =>
      cases bs with
      | nil =>
          rw [feed_singleton]
          simp only [byteStep, hstate]
      | cons c bs =>
          simp only [List.length_cons] at hfit
          have hone : byteStep P a b = (putHeader a [b], []) := by
            simp only [byteStep, hstate, checkHeader, putHeader, List.length_singleton]
            rw [if_pos (by omega)]
          have hlen' : (putHeader a [b]).wholeHeader.length = P.hdrSize := by
            simp only [putHeader]
            rw [length_overwrite (by rw [List.length_singleton]; omega), hlen]
          have hjoin : putHeader (putHeader a [b]) (c :: bs) = putHeader a (b :: c :: bs) := by
            simp only [putHeader]
            rw [overwrite_overwrite (by rw [List.length_singleton]; omega)]
            simp only [List.singleton_append, List.length_cons, List.length_nil]
            congr 1
            omega
          have hrest : feed (byteStep P) (putHeader a [b]) (c :: bs)
              = (checkHeader P (putHeader (putHeader a [b]) (c :: bs)), []) := by
            refine ih hstate hlen' (by simp) ?_
            simp only [putHeader, List.length_cons, List.length_nil]
            omega
          rw [feed_cons, hone, hrest, hjoin, List.nil_append]

/-- A bulk copy into the record is the byte machine run over the bytes copied. -/
lemma feed_putBody (bs : List UInt8) {a : VarStXport} (h : Inv P a)
    (hstate : a.inAccum = .waitingForBufferComplete) (hne : bs ≠ [])
    (hfit : a.bytesInVarPart + bs.length ≤ P.hdrBLen a.wholeHeader) :
    feed (byteStep P) a bs = checkBody P (putBody a bs) := by
  induction bs generalizing a with
  | nil => exact absurd rfl hne
  | cons b bs ih =>
      cases bs with
      | nil =>
          rw [List.length_singleton] at hfit
          rw [feed_singleton]
          simp only [byteStep, hstate]
          rw [if_neg (by omega)]
      | cons c bs =>
          simp only [List.length_cons] at hfit
          have hcheck : checkBody P (putBody a [b]) = (putBody a [b], []) := by
            rw [checkBody, if_neg]
            simp only [putBody, List.length_singleton]
            omega
          have hone : byteStep P a b = (putBody a [b], []) := by
            simp only [byteStep, hstate]
            rw [if_neg (by omega), hcheck]
          have hinv : Inv P (putBody a [b]) := by
            have := inv_checkBody_putBody h hstate [b] (by rw [List.length_singleton]; omega)
            rwa [hcheck] at this
          have hjoin : putBody (putBody a [b]) (c :: bs) = putBody a (b :: c :: bs) := by
            rcases h.body hstate with ⟨-, hv, hsome, -⟩
            rcases Option.isSome_iff_exists.mp hsome with ⟨r, hr⟩
            have hbig := h.length_record r hr
            have hle := bLen_le_of_headerValid hv
            simp only [putBody, hr, Option.map_some, List.length_cons, List.length_nil]
            rw [show a.bytesInVarPart + (0 + 1) = a.bytesInVarPart + [b].length by simp,
              overwrite_overwrite (by rw [List.length_singleton]; omega)]
            simp only [List.singleton_append, List.length_singleton]
            congr 1
            omega
          have hrest : feed (byteStep P) (putBody a [b]) (c :: bs)
              = checkBody P (putBody (putBody a [b]) (c :: bs)) := by
            refine ih hinv hstate (by simp) ?_
            simp only [putBody, List.length_cons, List.length_nil]
            omega
          rw [feed_cons, hone, hrest, hjoin, List.nil_append]

/-! ## One iteration of the loop -/

/-- The loop invariant: the two counters add up to the input, and what is still to be read takes
the byte machine from the state reached to the `target`. -/
structure LoopInv (P : XportSpec) (bytes : List UInt8) (target : VarStXport × List HandlerCall)
    (l : LoopState) : Prop where
  acc : Inv P l.acc
  counters : l.bytesAvailable + l.bytesUsed = bytes.length
  rest : ((feed (byteStep P) l.acc (bytes.drop l.bytesUsed)).1,
    l.calls ++ (feed (byteStep P) l.acc (bytes.drop l.bytesUsed)).2) = target

/-- An iteration that copies nothing leaves the waiting state. -/
def loopMeasure (l : LoopState) : ℕ :=
  2 * l.bytesAvailable + if l.acc.inAccum = .waitingForBufferComplete then 1 else 0

lemma loopMeasure_lt {l l' : LoopState} (h : l'.bytesAvailable < l.bytesAvailable) :
    loopMeasure l' < loopMeasure l := by
  simp only [loopMeasure]
  split <;> split <;> omega

/-- An iteration that reads `n` bytes, as the byte machine would. -/
lemma LoopInv.advance {bytes : List UInt8} {target : VarStXport × List HandlerCall}
    {l : LoopState} (h : LoopInv P bytes target l) {n : ℕ} (hn : n ≤ l.bytesAvailable)
    {a : VarStXport} {out : List HandlerCall}
    (hfeed : feed (byteStep P) l.acc ((bytes.drop l.bytesUsed).take n) = (a, out))
    (ha : Inv P a) :
    LoopInv P bytes target ⟨a, l.bytesAvailable - n, l.bytesUsed + n, l.calls ++ out⟩ where
  acc := ha
  counters := by
    have := h.counters
    dsimp only
    omega
  rest := by
    have hsplit : bytes.drop l.bytesUsed
        = (bytes.drop l.bytesUsed).take n ++ bytes.drop (l.bytesUsed + n) := by
      rw [← List.drop_drop, List.take_append_drop]
    have hrest := h.rest
    rw [hsplit, feed_append, hfeed] at hrest
    simpa only [List.append_assoc] using hrest

/-- The header copy, with its length and its bounds settled. -/
lemma copyHeader_eq {bytes : List UInt8} {l : LoopState}
    (hlen : l.acc.wholeHeader.length = P.hdrSize) (hlt : l.acc.bytesInHeader < P.hdrSize)
    (hcnt : l.bytesAvailable + l.bytesUsed = bytes.length) :
    ∃ n, n = min l.bytesAvailable (P.hdrSize - l.acc.bytesInHeader) ∧
      copyHeader P bytes l = some
        ⟨checkHeader P (putHeader l.acc ((bytes.drop l.bytesUsed).take n)),
          l.bytesAvailable - n, l.bytesUsed + n, l.calls⟩ := by
  refine ⟨_, rfl, ?_⟩
  have hsize := P.hdrSize_lt
  have hn : ((bytes.drop l.bytesUsed).take
      (min l.bytesAvailable (P.hdrSize - l.acc.bytesInHeader))).length
        = min l.bytesAvailable (P.hdrSize - l.acc.bytesInHeader) := by
    rw [List.length_take, List.length_drop]
    omega
  simp only [copyHeader, putHeader]
  rw [usub_of_le (by omega) (by omega), memcpy_eq_some (by omega) (by omega), hn,
    Option.map_some]

/-- The body copy, with its length and its bounds settled. -/
lemma copyBody_eq {bytes : List UInt8} {l : LoopState} (h : Inv P l.acc)
    (hstate : l.acc.inAccum = .waitingForBufferComplete)
    (hcnt : l.bytesAvailable + l.bytesUsed = bytes.length) :
    ∃ n, n = min l.bytesAvailable (P.hdrBLen l.acc.wholeHeader - l.acc.bytesInVarPart) ∧
      copyBody P bytes l = some
        ⟨(checkBody P (putBody l.acc ((bytes.drop l.bytesUsed).take n))).1,
          l.bytesAvailable - n, l.bytesUsed + n,
          l.calls ++ (checkBody P (putBody l.acc ((bytes.drop l.bytesUsed).take n))).2⟩ := by
  refine ⟨_, rfl, ?_⟩
  rcases h.body hstate with ⟨-, hv, hsome, hvar⟩
  rcases Option.isSome_iff_exists.mp hsome with ⟨r, hr⟩
  have hbig := h.length_record r hr
  have hle := bLen_le_of_headerValid hv
  have hlt := P.hdrBLen_lt l.acc.wholeHeader
  have hmin : min (min l.bytesAvailable (P.hdrBLen l.acc.wholeHeader))
      (P.hdrBLen l.acc.wholeHeader - l.acc.bytesInVarPart)
        = min l.bytesAvailable (P.hdrBLen l.acc.wholeHeader - l.acc.bytesInVarPart) := by
    omega
  have hn : ((bytes.drop l.bytesUsed).take
      (min l.bytesAvailable (P.hdrBLen l.acc.wholeHeader - l.acc.bytesInVarPart))).length
        = min l.bytesAvailable (P.hdrBLen l.acc.wholeHeader - l.acc.bytesInVarPart) := by
    rw [List.length_take, List.length_drop]
    omega
  simp only [copyBody, putBody, hr, Option.bind_some, Option.map_some]
  rw [usub_of_le (by omega) (by omega), hmin, memcpy_eq_some (by omega) (by omega), hn,
    Option.map_some]

lemma LoopInv.next_byte {bytes : List UInt8} {target : VarStXport × List HandlerCall}
    {l : LoopState} (h : LoopInv P bytes target l) (havail : 0 < l.bytesAvailable) :
    ∃ b, bytes[l.bytesUsed]? = some b ∧
      bytes.drop l.bytesUsed = b :: bytes.drop (l.bytesUsed + 1) := by
  have hlt : l.bytesUsed < bytes.length := by
    have := h.counters
    omega
  exact ⟨bytes[l.bytesUsed], List.getElem?_eq_getElem hlt, List.drop_eq_getElem_cons hlt⟩

/-- A start byte that finds the accumulator empty is the first byte of a header. -/
lemma byteStep_start {a : VarStXport} (hstate : a.inAccum = .bufEmpty) {b : UInt8}
    (hs : isStart P b = true) :
    byteStep P a b = byteStep P { a with inAccum := .waitingForHdrComplete } b := by
  simp only [byteStep, hstate, emptyStep, hs, if_true]
  rfl

/-- The header case of the `switch`, entered in a state `a` from which the byte machine reads
the rest of the input as it does from the state the iteration began in. -/
lemma copyHeader_feed {bytes : List UInt8} {target : VarStXport × List HandlerCall}
    {l : LoopState} (h : LoopInv P bytes target l) (havail : 0 < l.bytesAvailable)
    {a : VarStXport} (hstate : a.inAccum = .waitingForHdrComplete)
    (hlen : a.wholeHeader.length = P.hdrSize) (hlt : a.bytesInHeader < P.hdrSize)
    (hvar : a.bytesInVarPart = 0) (hrec : ∀ r, a.varPart = some r → P.bodyBiggest ≤ r.length)
    (hsame : ∀ b, bytes[l.bytesUsed]? = some b → byteStep P l.acc b = byteStep P a b) :
    ∃ l', copyHeader P bytes { l with acc := a } = some l' ∧ LoopInv P bytes target l' ∧
      loopMeasure l' < loopMeasure l := by
  have hcnt := h.counters
  rcases h.next_byte havail with ⟨b, hb, hdrop⟩
  rcases copyHeader_eq (l := { l with acc := a }) hlen hlt hcnt with ⟨n, hn, hcopy⟩
  dsimp only at hn hcopy
  obtain ⟨bs, hbs⟩ : ∃ bs, (bytes.drop l.bytesUsed).take n = b :: bs := by
    rw [hdrop, show n = n - 1 + 1 by omega, List.take_succ_cons]
    exact ⟨_, rfl⟩
  have hlen' : ((bytes.drop l.bytesUsed).take n).length = n := by
    rw [List.length_take, List.length_drop]
    omega
  have hne : (bytes.drop l.bytesUsed).take n ≠ [] := by
    rw [hbs]
    simp
  have hfeed : feed (byteStep P) l.acc ((bytes.drop l.bytesUsed).take n)
      = (checkHeader P (putHeader a ((bytes.drop l.bytesUsed).take n)), []) := by
    rw [← feed_putHeader _ hstate hlen hne (by omega), hbs, feed_cons, feed_cons, hsame b hb]
  have hnext := h.advance (by omega) hfeed
    (inv_checkHeader_putHeader hlen hrec hvar hne (by omega))
  rw [List.append_nil] at hnext
  exact ⟨_, hcopy, hnext, loopMeasure_lt (by dsimp only; omega)⟩

lemma copyBody_feed {bytes : List UInt8} {target : VarStXport × List HandlerCall}
    {l : LoopState} (h : LoopInv P bytes target l) (havail : 0 < l.bytesAvailable)
    (hstate : l.acc.inAccum = .waitingForBufferComplete) :
    ∃ l', copyBody P bytes l = some l' ∧ LoopInv P bytes target l' ∧
      loopMeasure l' < loopMeasure l := by
  have hcnt := h.counters
  rcases h.acc.body hstate with ⟨hhdr, hv, hsome, hvar⟩
  rcases copyBody_eq h.acc hstate hcnt with ⟨n, hn, hcopy⟩
  rcases hvar with hlt | ⟨hvar, hzero⟩
  · have hlen' : ((bytes.drop l.bytesUsed).take n).length = n := by
      rw [List.length_take, List.length_drop]
      omega
    have hne : (bytes.drop l.bytesUsed).take n ≠ [] := by
      rw [← List.length_pos_iff]
      omega
    have hfeed := feed_putBody _ h.acc hstate hne (by omega)
    exact ⟨_, hcopy, h.advance (by omega) hfeed (inv_checkBody_putBody h.acc hstate _ (by omega)),
      loopMeasure_lt (by dsimp only; omega)⟩
  · -- a body of length zero: nothing is copied, the structure is handed over, and the byte
    -- machine does the same before it looks at the next byte
    have hn0 : n = 0 := by omega
    subst hn0
    have hput : putBody l.acc [] = l.acc := by
      simp [putBody]
    rw [List.take_zero, hput] at hcopy
    have hle : P.hdrBLen l.acc.wholeHeader ≤ l.acc.bytesInVarPart := by omega
    have hcheck := checkBody_of_complete hle
    rcases h.next_byte havail with ⟨b, -, hdrop⟩
    refine ⟨_, hcopy, ⟨inv_checkBody h.acc.length_header h.acc.length_record hstate hhdr hv hsome,
      hcnt, ?_⟩, ?_⟩
    · rw [← h.rest]
      dsimp only
      rw [Nat.add_zero, hdrop]
      simp only [feed_cons, byteStep, hstate, if_pos hle, hcheck, List.append_assoc,
        List.nil_append]
    · simp only [loopMeasure]
      rw [hcheck]
      simp [hstate]

/-- **One iteration.**  It is defined, it keeps the loop invariant and it lowers the measure. -/
theorem loopBody_feed {bytes : List UInt8} {target : VarStXport × List HandlerCall}
    (l : LoopState) (h : LoopInv P bytes target l) (hguard : loopGuard l = true) :
    ∃ l', loopBody P bytes l = some l' ∧ LoopInv P bytes target l' ∧
      loopMeasure l' < loopMeasure l := by
  have havail : 0 < l.bytesAvailable := by simpa [loopGuard] using hguard
  cases hstate : l.acc.inAccum with
  | bufEmpty =>
      rcases h.acc.empty hstate with ⟨hh, hvar⟩
      have hpos := P.hdrSize_pos
      rcases h.next_byte havail with ⟨b, hb, hdrop⟩
      simp only [loopBody, hstate, hb, Option.bind_some]
      cases hs : isStart P b with
      | true =>
          refine copyHeader_feed h havail rfl h.acc.length_header (by dsimp only; omega) hvar
            h.acc.length_record ?_
          intro b' hb'
          rw [hb, Option.some.injEq] at hb'
          exact byteStep_start hstate (hb' ▸ hs)
      | false =>
          have hfeed : feed (byteStep P) l.acc ((bytes.drop l.bytesUsed).take 1)
              = (l.acc, []) := by
            rw [hdrop, List.take_succ_cons, List.take_zero, feed_singleton]
            simp [byteStep, hstate, emptyStep, hs]
          have hnext := h.advance (by omega) hfeed h.acc
          rw [List.append_nil] at hnext
          exact ⟨_, rfl, hnext, loopMeasure_lt (by dsimp only; omega)⟩
  | waitingForHdrComplete =>
      rcases h.acc.hdr hstate with ⟨-, hlt, hvar⟩
      simp only [loopBody, hstate]
      refine copyHeader_feed h havail hstate h.acc.length_header hlt hvar h.acc.length_record ?_
      intro _ _
      rfl
  | waitingForBufferComplete =>
      simp only [loopBody, hstate]
      exact copyBody_feed h havail hstate

/-! ## The whole call -/

/-- The loop runs to its end: every byte is used, and the accumulator is where the byte machine
is. -/
theorem addBytesLoop_eq {a : VarStXport} (h : Inv P a) (bytes : List UInt8) :
    ∃ l, addBytesLoop P a bytes = some l ∧ Inv P l.acc ∧ l.bytesAvailable = 0 ∧
      l.bytesUsed = bytes.length ∧ (l.acc, l.calls) = feed (byteStep P) a bytes := by
  have hinit : LoopInv P bytes (feed (byteStep P) a bytes)
      { acc := a, bytesAvailable := bytes.length, bytesUsed := 0, calls := [] } :=
    ⟨h, rfl, rfl⟩
  obtain ⟨l, hl, hinv, hguard⟩ := while_total (loopBody_feed (P := P)) (2 * bytes.length + 1) _
    hinit (by unfold loopMeasure; dsimp only; split <;> omega)
  have havail : l.bytesAvailable = 0 := by simpa [loopGuard] using hguard
  have hused : l.bytesUsed = bytes.length := by
    have := hinv.counters
    omega
  refine ⟨l, hl, hinv.acc, havail, hused, ?_⟩
  have hrest := hinv.rest
  rw [hused, List.drop_length] at hrest
  simpa using hrest

/-- **`add_bytes` is the byte machine run over its input.** -/
theorem addBytes_eq_feed {a : VarStXport} (h : Inv P a) (bytes : List UInt8) :
    addBytes P a bytes = some (feed (byteStep P) a bytes) := by
  rcases addBytesLoop_eq h bytes with ⟨l, hl, -, -, -, heq⟩
  rw [addBytes, hl, Option.map_some, heq]

/-- The invariant survives every input. -/
theorem inv_feed {a : VarStXport} (h : Inv P a) (bytes : List UInt8) :
    Inv P (feed (byteStep P) a bytes).1 := by
  rcases addBytesLoop_eq h bytes with ⟨l, -, hinv, -, -, heq⟩
  rw [← heq]
  exact hinv

/-- Successive calls are the byte machine run over the whole stream. -/
theorem addChunks_eq_feed (chunks : List (List UInt8)) {a : VarStXport} (h : Inv P a) :
    addChunks P a chunks = some (feed (byteStep P) a chunks.flatten) := by
  induction chunks generalizing a with
  | nil => rfl
  | cons chunk chunks ih =>
      rw [addChunks, addBytes_eq_feed h, Option.bind_some, ih (inv_feed h chunk),
        Option.map_some, List.flatten_cons, feed_append]

end LightControl.VarStXport
