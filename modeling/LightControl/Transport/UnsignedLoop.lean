import LightControl.Transport.ChunkIndependence

/-!
# The loop with its `unsigned int` counters

`VarStXport.lean` counts in natural numbers, where a difference stops at zero.  The counters of the
source are `unsigned int`s: a sum that is too large starts again at zero, and a difference below
zero continues at `2^32 - 1`.  Here is the loop with that arithmetic.

* `loopBody_eq` — from the states that the loop passes through, an iteration computes the same in
  both arithmetics, provided the chunk's length is an `int`.
* `addBytes_eq` — so does the call, and everything proved of `addBytes` is true of the machine's
  numbers.
* **`addBytesLoop_terminates`** — the loop ends with its input used up, and no difference wraps.
-/

namespace LightControl.VarStXport

open CTypes Memory WhileLoop Transducer

namespace Unsigned

variable (P : XportSpec)

/-- `case WAITING_FOR_HDR_COMPLETE`. -/
def copyHeader (bytes : List UInt8) (l : LoopState) : Option LoopState :=
  let bytesToCopy := min l.bytesAvailable (usub 64 P.hdrSize l.acc.bytesInHeader) % 2 ^ 32
  (memcpy l.acc.wholeHeader l.acc.bytesInHeader bytes l.bytesUsed bytesToCopy).map fun hdr =>
    { l with
      acc := checkHeader P { l.acc with
        wholeHeader := hdr
        bytesInHeader := uadd 32 l.acc.bytesInHeader bytesToCopy }
      bytesAvailable := usub 32 l.bytesAvailable bytesToCopy
      bytesUsed := uadd 32 l.bytesUsed bytesToCopy }

/-- `case WAITING_FOR_BUFFER_COMPLETE`. -/
def copyBody (bytes : List UInt8) (l : LoopState) : Option LoopState :=
  let bLen := P.hdrBLen l.acc.wholeHeader
  let bytesToCopy := min (min l.bytesAvailable bLen) (usub 32 bLen l.acc.bytesInVarPart)
  l.acc.varPart.bind fun record =>
    (memcpy record l.acc.bytesInVarPart bytes l.bytesUsed bytesToCopy).map fun record' =>
      let r := checkBody P { l.acc with
        varPart := some record'
        bytesInVarPart := uadd 32 l.acc.bytesInVarPart bytesToCopy }
      { acc := r.1
        bytesAvailable := usub 32 l.bytesAvailable bytesToCopy
        bytesUsed := uadd 32 l.bytesUsed bytesToCopy
        calls := l.calls ++ r.2 }

/-- The body of the loop. -/
def loopBody (bytes : List UInt8) (l : LoopState) : Option LoopState :=
  match l.acc.inAccum with
  | .bufEmpty =>
      bytes[l.bytesUsed]?.bind fun b =>
        if isStart P b then
          copyHeader P bytes { l with acc := { l.acc with inAccum := .waitingForHdrComplete } }
        else
          some { l with
            bytesUsed := uadd 32 l.bytesUsed 1
            bytesAvailable := usub 32 l.bytesAvailable 1 }
  | .waitingForHdrComplete => copyHeader P bytes l
  | .waitingForBufferComplete => copyBody P bytes l

/-- The locals when the loop is entered; `bytes_length` is an `int`. -/
def entry (a : VarStXport) (bytes : List UInt8) : LoopState where
  acc := a
  bytesAvailable := toUnsigned 32 (bytes.length : ℤ)
  bytesUsed := 0
  calls := []

/-- The loop of `add_bytes`. -/
def addBytesLoop (a : VarStXport) (bytes : List UInt8) : Option LoopState :=
  while_ loopGuard (loopBody P bytes) (2 * bytes.length + 1) (entry a bytes)

/-- `add_bytes`. -/
def addBytes (a : VarStXport) (bytes : List UInt8) : Option (VarStXport × List HandlerCall) :=
  (addBytesLoop P a bytes).map fun l => (l.acc, l.calls)

end Unsigned

variable {P : XportSpec} {bytes : List UInt8} {target : VarStXport × List HandlerCall}
  {l : LoopState}

/-! ## The two arithmetics agree -/

lemma Unsigned.copyHeader_eq (hlen : bytes.length < 2 ^ 31)
    (hlt : l.acc.bytesInHeader < P.hdrSize)
    (hcnt : l.bytesAvailable + l.bytesUsed = bytes.length) :
    Unsigned.copyHeader P bytes l = VarStXport.copyHeader P bytes l := by
  have hsize := P.hdrSize_lt
  have hfit : usub 64 P.hdrSize l.acc.bytesInHeader = P.hdrSize - l.acc.bytesInHeader :=
    usub_of_le (by omega) (by omega)
  simp only [Unsigned.copyHeader, VarStXport.copyHeader, hfit]
  rw [Nat.mod_eq_of_lt (by omega), uadd_of_lt (by omega), uadd_of_lt (by omega),
    usub_of_le (by omega) (by omega)]

lemma Unsigned.copyBody_eq (hlen : bytes.length < 2 ^ 31) (h : Inv P l.acc)
    (hstate : l.acc.inAccum = .waitingForBufferComplete)
    (hcnt : l.bytesAvailable + l.bytesUsed = bytes.length) :
    Unsigned.copyBody P bytes l = VarStXport.copyBody P bytes l := by
  rcases h.body hstate with ⟨-, -, -, hvar⟩
  have hlt := P.hdrBLen_lt l.acc.wholeHeader
  have hfit : usub 32 (P.hdrBLen l.acc.wholeHeader) l.acc.bytesInVarPart
      = P.hdrBLen l.acc.wholeHeader - l.acc.bytesInVarPart :=
    usub_of_le (by omega) (by omega)
  simp only [Unsigned.copyBody, VarStXport.copyBody, hfit]
  rw [uadd_of_lt (by omega), uadd_of_lt (by omega), usub_of_le (by omega) (by omega)]

/-- **One iteration** computes the same in both arithmetics. -/
theorem Unsigned.loopBody_eq (hlen : bytes.length < 2 ^ 31) (h : LoopInv P bytes target l)
    (hguard : loopGuard l = true) :
    Unsigned.loopBody P bytes l = VarStXport.loopBody P bytes l := by
  have havail : 0 < l.bytesAvailable := by simpa [loopGuard] using hguard
  have hcnt := h.counters
  cases hstate : l.acc.inAccum with
  | bufEmpty =>
      rcases h.acc.empty hstate with ⟨hempty, -⟩
      have hpos := P.hdrSize_pos
      have hcopy : Unsigned.copyHeader P bytes
            { l with acc := { l.acc with inAccum := .waitingForHdrComplete } }
          = VarStXport.copyHeader P bytes
            { l with acc := { l.acc with inAccum := .waitingForHdrComplete } } :=
        Unsigned.copyHeader_eq hlen (by dsimp only; omega) hcnt
      simp only [Unsigned.loopBody, VarStXport.loopBody, hstate]
      rw [hcopy, uadd_of_lt (by omega), usub_of_le (by omega) (by omega)]
  | waitingForHdrComplete =>
      rcases h.acc.hdr hstate with ⟨-, hlt, -⟩
      simp only [Unsigned.loopBody, VarStXport.loopBody, hstate]
      exact Unsigned.copyHeader_eq hlen hlt hcnt
  | waitingForBufferComplete =>
      simp only [Unsigned.loopBody, VarStXport.loopBody, hstate]
      exact Unsigned.copyBody_eq hlen h.acc hstate hcnt

lemma Unsigned.entry_eq (a : VarStXport) (hlen : bytes.length < 2 ^ 31) :
    Unsigned.entry a bytes
      = { acc := a, bytesAvailable := bytes.length, bytesUsed := 0, calls := [] } := by
  rw [Unsigned.entry, toUnsigned_natCast (by omega)]

/-- What the loop is entered with, towards the result of the byte machine. -/
lemma loopInv_entry {a : VarStXport} (h : Inv P a) (bytes : List UInt8) :
    LoopInv P bytes (feed (byteStep P) a bytes)
      { acc := a, bytesAvailable := bytes.length, bytesUsed := 0, calls := [] } :=
  ⟨h, rfl, rfl⟩

theorem Unsigned.addBytesLoop_eq {a : VarStXport} (h : Inv P a) (hlen : bytes.length < 2 ^ 31) :
    Unsigned.addBytesLoop P a bytes = VarStXport.addBytesLoop P a bytes := by
  rw [Unsigned.addBytesLoop, VarStXport.addBytesLoop, Unsigned.entry_eq a hlen]
  refine while_congr (I := LoopInv P bytes (feed (byteStep P) a bytes)) ?_ _ _ (loopInv_entry h _)
  intro l hinv hguard
  refine ⟨Unsigned.loopBody_eq hlen hinv hguard, ?_⟩
  intro l' hl'
  rcases loopBody_feed l hinv hguard with ⟨l₁, hl₁, hinv₁, -⟩
  rw [hl₁, Option.some.injEq] at hl'
  exact hl' ▸ hinv₁

/-- **`add_bytes` on machine numbers** is `addBytes`. -/
theorem Unsigned.addBytes_eq {a : VarStXport} (h : Inv P a) (hlen : bytes.length < 2 ^ 31) :
    Unsigned.addBytes P a bytes = VarStXport.addBytes P a bytes := by
  rw [Unsigned.addBytes, VarStXport.addBytes, Unsigned.addBytesLoop_eq h hlen]

/-! ## The end of the loop -/

/-- In every state that the loop on machine numbers passes through, the counters add up to the
chunk. -/
lemma Unsigned.loopInv_of_passes {a : VarStXport} (h : Inv P a) (hlen : bytes.length < 2 ^ 31)
    (hpass : Passes loopGuard (Unsigned.loopBody P bytes) (Unsigned.entry a bytes) l) :
    LoopInv P bytes (feed (byteStep P) a bytes) l := by
  refine hpass.invariant ?_ ?_
  · rw [Unsigned.entry_eq a hlen]
    exact loopInv_entry h bytes
  · intro l l' hinv hguard hl'
    rcases loopBody_feed l hinv hguard with ⟨l₁, hl₁, hinv₁, -⟩
    rw [Unsigned.loopBody_eq hlen hinv hguard, hl₁, Option.some.injEq] at hl'
    exact hl' ▸ hinv₁

/-- **The loop ends and uses its input up.**  From every reachable state and for every chunk whose
length is an `int`, the loop passes from its entry to a state with no byte available and all of them
used, which is what `addBytes` says of the call; and each iteration on the way lowers
`bytes_available`, or leaves it, by as much as it raises `bytes_used`, so that it never wraps. -/
theorem addBytesLoop_terminates (h : HostEndianness) (charSigned : Bool) {a : VarStXport}
    (ha : Reachable (reportXport h charSigned) a) (bytes : List UInt8)
    (hlen : bytes.length < 2 ^ 31) :
    ∃ l, Unsigned.addBytesLoop (reportXport h charSigned) a bytes = some l ∧
      Passes loopGuard (Unsigned.loopBody (reportXport h charSigned) bytes)
        (Unsigned.entry a bytes) l ∧
      addBytes (reportXport h charSigned) a bytes = some (l.acc, l.calls) ∧
      l.bytesAvailable = 0 ∧ l.bytesUsed = bytes.length ∧
      ∀ t, Passes loopGuard (Unsigned.loopBody (reportXport h charSigned) bytes)
          (Unsigned.entry a bytes) t → loopGuard t = true →
        ∃ t', Unsigned.loopBody (reportXport h charSigned) bytes t = some t' ∧
          t'.bytesAvailable ≤ t.bytesAvailable ∧
          t.bytesAvailable + t.bytesUsed = bytes.length ∧
          t'.bytesAvailable + t'.bytesUsed = bytes.length := by
  rcases VarStXport.addBytesLoop_eq ha.inv bytes with ⟨l, hl, -, havail, hused, -⟩
  have hloop : Unsigned.addBytesLoop (reportXport h charSigned) a bytes = some l := by
    rw [Unsigned.addBytesLoop_eq ha.inv hlen, hl]
  have hcall : addBytes (reportXport h charSigned) a bytes = some (l.acc, l.calls) := by
    rw [← Unsigned.addBytes_eq ha.inv hlen, Unsigned.addBytes, hloop, Option.map_some]
  refine ⟨l, hloop, passes_while _ hloop, hcall, havail, hused, ?_⟩
  intro t hpass hguard
  have hinv := Unsigned.loopInv_of_passes ha.inv hlen hpass
  rcases loopBody_feed t hinv hguard with ⟨t', ht', hinv', hmeasure⟩
  have hcnt := hinv.counters
  have hcnt' := hinv'.counters
  refine ⟨t', by rw [Unsigned.loopBody_eq hlen hinv hguard, ht'], ?_, hcnt, hcnt'⟩
  simp only [loopMeasure] at hmeasure
  split at hmeasure <;> split at hmeasure <;> omega

/-- A constructed accumulator reads a start byte. -/
theorem addBytesLoop_terminates_start :
    ∃ l, Unsigned.addBytesLoop (reportXport .little true)
        (new (reportXport .little true) .nullptr) [83] = some l ∧
      l.bytesAvailable = 0 ∧ l.bytesUsed = 1 := by
  have hreach : Reachable (reportXport .little true) (new (reportXport .little true) .nullptr) :=
    ⟨.nullptr, [], rfl⟩
  rcases addBytesLoop_terminates .little true hreach [83] (by decide) with
    ⟨l, hl, -, -, havail, hused, -⟩
  exact ⟨l, hl, havail, hused⟩

end LightControl.VarStXport
