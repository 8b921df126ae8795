import LightControl.Core.Runs
import LightControl.Transport.AddBytes
import LightControl.Transport.TransportRecord

/-!
# How the stream is cut does not matter

`add_bytes` on a concatenation is `add_bytes` on its parts in turn, from every state that the
public interface of the accumulator can bring about.  Since `add_bytes` is the byte machine of
`AddBytes.lean`, this is `feed_append`.
-/

namespace LightControl.VarStXport

open Transducer

/-- The calls a user of the accumulator can make. -/
inductive Op
  | setVarStHandler
  | addByte (b : UInt8)
  | addBytes (bytes : List UInt8)

variable (P : XportSpec)

/-- What a call does to the accumulator. -/
def Op.apply (a : VarStXport) : Op → Option VarStXport
  | .setVarStHandler => some a.setVarStHandler
  | .addByte b => (VarStXport.addByte P a b).map Prod.fst
  | .addBytes bytes => (VarStXport.addBytes P a bytes).map Prod.fst

/-- The states that calls can bring a constructed accumulator to. -/
def Reachable (a : VarStXport) : Prop :=
  ∃ (out : OutRecord P) (ops : List Op), Runs.run (Op.apply P) (new P out) ops = some a

/-- `add_byte` for each byte of a list. -/
def addByteByByte : VarStXport → List UInt8 → Option (VarStXport × List HandlerCall)
  | a, [] => some (a, [])
  | a, b :: bytes =>
      (addByte P a b).bind fun r => (addByteByByte r.1 bytes).map fun r' => (r'.1, r.2 ++ r'.2)

variable {P}

lemma inv_apply {a a' : VarStXport} {op : Op} (h : Inv P a) (happly : op.apply P a = some a') :
    Inv P a' := by
  cases op with
  | setVarStHandler =>
      rw [Op.apply, Option.some.injEq] at happly
      exact happly ▸ h.setVarStHandler
  | addByte b =>
      rw [Op.apply, addByte, addBytes_eq_feed h, Option.map_some, Option.some.injEq] at happly
      exact happly ▸ inv_feed h [b]
  | addBytes bytes =>
      rw [Op.apply, addBytes_eq_feed h, Option.map_some, Option.some.injEq] at happly
      exact happly ▸ inv_feed h bytes

/-- The invariant holds in every reachable state. -/
theorem Reachable.inv {a : VarStXport} (h : Reachable P a) : Inv P a := by
  rcases h with ⟨out, ops, hrun⟩
  exact Runs.run_invariant (fun _ _ _ hI hstep => inv_apply hI hstep) ops (inv_new out) hrun

lemma addByteByByte_eq_feed (bytes : List UInt8) {a : VarStXport} (h : Inv P a) :
    addByteByByte P a bytes = some (feed (byteStep P) a bytes) := by
  induction bytes generalizing a with
  | nil => rfl
  | cons b bytes ih =>
      rw [addByteByByte, addByte, addBytes_eq_feed h, Option.bind_some,
        ih (inv_feed h [b]), Option.map_some, feed_singleton, feed_cons]

/-- **Chunk independence.**  Reading `as ++ bs` reaches the state, and makes the handler calls,
that reading `as` and then `bs` does; and a stream read whole, byte by byte or in any partition
gives one result. -/
theorem addBytes_append (h : HostEndianness) (charSigned : Bool) {a : VarStXport}
    (ha : Reachable (reportXport h charSigned) a) :
    (∀ as bs, ∃ r, addBytes (reportXport h charSigned) a (as ++ bs) = some r ∧
      ((addBytes (reportXport h charSigned) a as).bind fun r₁ =>
        (addBytes (reportXport h charSigned) r₁.1 bs).map fun r₂ => (r₂.1, r₁.2 ++ r₂.2))
        = some r) ∧
    ∀ stream, addByteByByte (reportXport h charSigned) a stream
        = addBytes (reportXport h charSigned) a stream ∧
      ∀ chunks : List (List UInt8), chunks.flatten = stream →
        addChunks (reportXport h charSigned) a chunks
          = addBytes (reportXport h charSigned) a stream := by
  have hinv := ha.inv
  constructor
  · intro as bs
    refine ⟨_, addBytes_eq_feed hinv (as ++ bs), ?_⟩
    rw [addBytes_eq_feed hinv as, Option.bind_some, addBytes_eq_feed (inv_feed hinv as),
      Option.map_some, feed_append]
  · intro stream
    constructor
    · rw [addByteByByte_eq_feed stream hinv, addBytes_eq_feed hinv]
    · rintro chunks rfl
      rw [addChunks_eq_feed chunks hinv, addBytes_eq_feed hinv]

/-- The constructed accumulator with a handler, given a start byte and then the rest of a header
that announces an empty body. -/
theorem addBytes_append_fresh :
    Reachable (reportXport .little true)
        (new (reportXport .little true) .nullptr).setVarStHandler ∧
      ∃ r, addBytes (reportXport .little true)
          (new (reportXport .little true) .nullptr).setVarStHandler ([83] ++ [5, 2, 0, 0])
            = some r := by
  have hreach : Reachable (reportXport .little true)
      (new (reportXport .little true) .nullptr).setVarStHandler :=
    ⟨.nullptr, [.setVarStHandler], rfl⟩
  rcases (addBytes_append .little true hreach).1 [83] [5, 2, 0, 0] with ⟨r, hr, -⟩
  exact ⟨hreach, r, hr⟩

end LightControl.VarStXport
