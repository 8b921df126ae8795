import LightControl.Core.CTypes
import LightControl.Core.Memory
import LightControl.Core.WhileLoop

/-!
# Reassembling variable length structures from a byte stream

`var_st_xport.h`.  The accumulator collects a header of fixed size and then a body whose length
the header announces; `add_bytes` is given the stream in arbitrary pieces.

The template parameters are the record `XportSpec`.  A header is the memory that `memcpy` fills,
and the fields that `add_bytes` looks at are functions of that memory.  A piece of the stream is
the list `bytes`, so `bytes_length` is its length; the caller passes it as a non-negative `int`,
so the conversion to `unsigned int` keeps it.

`addBytes` is `none` where the C++ would have undefined behaviour: a `memcpy` that leaves its
source or its destination, or a write through a null `var_part`.
-/

namespace LightControl

open CTypes Memory WhileLoop

/-- The template parameters of `var_st_xport`. -/
structure XportSpec where
  /-- `sizeof(mv_st_hdr)`. -/
  hdrSize : ℕ
  /-- The memory of a default constructed `mv_st_hdr`. -/
  freshHdr : List UInt8
  hdrType : List UInt8 → ℕ
  hdrLen : List UInt8 → ℕ
  hdrVersion : List UInt8 → ℕ
  /-- `b_len`, read from a header in memory. -/
  hdrBLen : List UInt8 → ℕ
  validType : ℕ
  validVersion : ℕ
  bodyBiggest : ℕ
  /-- The memory of `new mv_st_body(body_biggest+1)`. -/
  freshBody : List UInt8
  /-- Whether `char` is signed on the platform. -/
  charSigned : Bool
  hdrSize_pos : 0 < hdrSize
  hdrSize_lt : hdrSize < 2 ^ 32
  length_freshHdr : freshHdr.length = hdrSize
  hdrBLen_lt : ∀ hdr, hdrBLen hdr < 2 ^ 16
  body_fits : bodyBiggest ≤ freshBody.length

/-- `accum_state_e`. -/
inductive AccumState
  | bufEmpty
  | waitingForHdrComplete
  | waitingForBufferComplete
  deriving DecidableEq, Repr

/-- The arguments of one call of the handler: the header and the record as they are in memory at
the call. -/
structure HandlerCall where
  hdr : List UInt8
  varPart : Option (List UInt8)
  deriving DecidableEq, Repr

/-- `var_st_xport`.  `sh` tells whether a handler is set; `varPart` is the memory that `var_part`
(and `record`, which always points to the same place) points to. -/
structure VarStXport where
  inAccum : AccumState
  sh : Bool
  bytesInHeader : ℕ
  wholeHeader : List UInt8
  bytesInVarPart : ℕ
  varPart : Option (List UInt8)
  deriving DecidableEq, Repr

/-- The argument of the constructor: a null pointer, or the memory of a record that can take the
biggest body. -/
structure OutRecord (P : XportSpec) where
  record : Option (List UInt8)
  fits : ∀ r, record = some r → P.bodyBiggest ≤ r.length

/-- The default argument. -/
def OutRecord.nullptr {P : XportSpec} : OutRecord P := ⟨none, by simp⟩

namespace VarStXport

variable (P : XportSpec)

/-- The constructor. -/
def new (outVarPartRecord : OutRecord P) : VarStXport where
  inAccum := .bufEmpty
  sh := false
  bytesInHeader := 0
  wholeHeader := P.freshHdr
  bytesInVarPart := 0
  varPart := outVarPartRecord.record

/-- `set_var_st_handler`. -/
def setVarStHandler (a : VarStXport) : VarStXport := { a with sh := true }

/-- `buffer_in_progress`. -/
def bufferInProgress (a : VarStXport) : Bool := a.inAccum != .bufEmpty

/-- `bytes[bytes_used] != valid_type`, the other way round: a `char` against an
`unsigned int`. -/
def isStart (b : UInt8) : Bool := toUnsigned 32 (charValue P.charSigned b) == P.validType

/-- The test that a complete header has to pass. -/
def headerValid (hdr : List UInt8) : Bool :=
  P.hdrType hdr == P.validType && P.hdrVersion hdr == P.validVersion &&
    P.hdrLen hdr == P.hdrSize && P.hdrBLen hdr ≤ P.bodyBiggest

/-! ## What follows the two copies -/

/-- After bytes were copied into the header: wait for more, or test the complete header. -/
def checkHeader (a : VarStXport) : VarStXport :=
  if a.bytesInHeader < P.hdrSize then
    { a with inAccum := .waitingForHdrComplete }
  else if headerValid P a.wholeHeader then
    { a with
      bytesInVarPart := 0
      varPart := some (a.varPart.getD P.freshBody)
      inAccum := .waitingForBufferComplete }
  else
    -- "Something is off, start over."
    { a with bytesInHeader := 0, inAccum := .bufEmpty }

/-- After bytes were copied into the record: wait for more, or hand the structure over. -/
def checkBody (a : VarStXport) : VarStXport × List HandlerCall :=
  if P.hdrBLen a.wholeHeader ≤ a.bytesInVarPart then
    ({ a with bytesInHeader := 0, bytesInVarPart := 0, inAccum := .bufEmpty },
      if a.sh then [⟨a.wholeHeader, a.varPart⟩] else [])
  else (a, [])

/-! ## The loop -/

/-- The locals of `add_bytes`, with the accumulator and the handler calls made so far. -/
structure LoopState where
  acc : VarStXport
  bytesAvailable : ℕ
  bytesUsed : ℕ
  calls : List HandlerCall

/-- `case WAITING_FOR_HDR_COMPLETE`. -/
def copyHeader (bytes : List UInt8) (l : LoopState) : Option LoopState :=
  let bytesToCopy := min l.bytesAvailable (usub 64 P.hdrSize l.acc.bytesInHeader)
  (memcpy l.acc.wholeHeader l.acc.bytesInHeader bytes l.bytesUsed bytesToCopy).map fun hdr =>
    { l with
      acc := checkHeader P { l.acc with
        wholeHeader := hdr
        bytesInHeader := l.acc.bytesInHeader + bytesToCopy }
      bytesAvailable := l.bytesAvailable - bytesToCopy
      bytesUsed := l.bytesUsed + bytesToCopy }

/-- `case WAITING_FOR_BUFFER_COMPLETE`. -/
def copyBody (bytes : List UInt8) (l : LoopState) : Option LoopState :=
  let bLen := P.hdrBLen l.acc.wholeHeader
  let bytesToCopy := min (min l.bytesAvailable bLen) (usub 32 bLen l.acc.bytesInVarPart)
  l.acc.varPart.bind fun record =>
    (memcpy record l.acc.bytesInVarPart bytes l.bytesUsed bytesToCopy).map fun record' =>
      let r := checkBody P { l.acc with
        varPart := some record'
        bytesInVarPart := l.acc.bytesInVarPart + bytesToCopy }
      { acc := r.1
        bytesAvailable := l.bytesAvailable - bytesToCopy
        bytesUsed := l.bytesUsed + bytesToCopy
        calls := l.calls ++ r.2 }

/-- The body of the loop: the `switch`, with the fall-through of a start byte into the header
case. -/
def loopBody (bytes : List UInt8) (l : LoopState) : Option LoopState :=
  match l.acc.inAccum with
  | .bufEmpty =>
      bytes[l.bytesUsed]?.bind fun b =>
        if isStart P b then
          copyHeader P bytes { l with acc := { l.acc with inAccum := .waitingForHdrComplete } }
        else
          some { l with bytesUsed := l.bytesUsed + 1, bytesAvailable := l.bytesAvailable - 1 }
  | .waitingForHdrComplete => copyHeader P bytes l
  | .waitingForBufferComplete => copyBody P bytes l

/-- The guard `bytes_available > 0`. -/
def loopGuard (l : LoopState) : Bool := 0 < l.bytesAvailable

/-- The loop of `add_bytes`.  An iteration that copies nothing is followed by one that does, so
twice as many iterations as bytes, and one more, are enough; `addBytes_eq_feed` proves it. -/
def addBytesLoop (a : VarStXport) (bytes : List UInt8) : Option LoopState :=
  while_ loopGuard (loopBody P bytes) (2 * bytes.length + 1)
    { acc := a, bytesAvailable := bytes.length, bytesUsed := 0, calls := [] }

/-- `add_bytes`: the accumulator after the call, and the handler calls it made. -/
def addBytes (a : VarStXport) (bytes : List UInt8) : Option (VarStXport × List HandlerCall) :=
  (addBytesLoop P a bytes).map fun l => (l.acc, l.calls)

/-- `add_byte`. -/
def addByte (a : VarStXport) (b : UInt8) : Option (VarStXport × List HandlerCall) :=
  addBytes P a [b]

/-- Successive calls of `add_bytes`, one for each chunk. -/
def addChunks : VarStXport → List (List UInt8) → Option (VarStXport × List HandlerCall)
  | a, [] => some (a, [])
  | a, chunk :: chunks =>
      (addBytes P a chunk).bind fun r =>
        (addChunks r.1 chunks).map fun r' => (r'.1, r.2 ++ r'.2)

end VarStXport

end LightControl
