import LightControl.Transport.HeldFrames

/-!
# Which frames a late handler misses

A handler may be set at any time, and several times.  The accumulator decodes without one, too, so
what a handler misses is the frames that were complete before it was set, and nothing else.

* `Op.applyCalls`, `session` — the calls of a user, with the handler calls they make.
* `session_of_handler`, `session_of_no_handler` — before and after the first handler is set.
* `session_frames` — a whole session.
-/

namespace LightControl.VarStXport

open Transducer

/-- The call that sets a handler. -/
def Op.isSet : Op → Bool
  | .setVarStHandler => true
  | _ => false

variable (P : XportSpec)

/-- What a call does, and the handler calls it makes. -/
def Op.applyCalls (a : VarStXport) : Op → Option (VarStXport × List HandlerCall)
  | .setVarStHandler => some (a.setVarStHandler, [])
  | .addByte b => VarStXport.addByte P a b
  | .addBytes bytes => VarStXport.addBytes P a bytes

/-- One call after the other. -/
def session : VarStXport → List Op → Option (VarStXport × List HandlerCall)
  | a, [] => some (a, [])
  | a, op :: ops =>
      (op.applyCalls P a).bind fun r => (session r.1 ops).map fun r' => (r'.1, r.2 ++ r'.2)

variable {P}

lemma Op.applyCalls_eq_feed {a : VarStXport} (h : Inv P a) {op : Op} (hop : op.isSet = false) :
    op.applyCalls P a = some (feed (byteStep P) a op.bytes) := by
  cases op with
  | setVarStHandler => cases hop
  | addByte b => exact addBytes_eq_feed h [b]
  | addBytes bytes => exact addBytes_eq_feed h bytes

lemma session_append (ops more : List Op) {a a' : VarStXport} {calls : List HandlerCall}
    (h : session P a ops = some (a', calls)) :
    session P a (ops ++ more) = (session P a' more).map fun r => (r.1, calls ++ r.2) := by
  induction ops generalizing a calls with
  | nil =>
      rw [session, Option.some.injEq, Prod.mk.injEq] at h
      rw [List.nil_append, h.1, ← h.2]
      cases session P a' more <;> rfl
  | cons op ops ih =>
      rw [session, Option.bind_eq_some_iff] at h
      rcases h with ⟨r, hr, hrest⟩
      rw [Option.map_eq_some_iff] at hrest
      rcases hrest with ⟨r', hr', heq⟩
      rw [Prod.mk.injEq] at heq
      rw [List.cons_append, session, hr, Option.bind_some,
        ih (by rw [hr', ← heq.1] : session P r.1 ops = some (a', r'.2)), ← heq.2]
      cases session P a' more with
      | none => rfl
      | some r'' => simp

/-! ## With a handler, and without one -/

/-- **With a handler** every frame is handed over, whether or not one is set again. -/
lemma session_of_handler (ops : List Op) {a : VarStXport} (h : Inv P a) (hsh : a.sh = true) :
    ∃ acc calls, session P a ops = some (acc, calls) ∧
      feed (decodeStep P) a.phase (ops.flatMap Op.bytes)
        = (acc.phase, calls.map (HandlerCall.frameOf P)) := by
  induction ops generalizing a with
  | nil => exact ⟨a, [], rfl, rfl⟩
  | cons op ops ih =>
      cases hop : op.isSet with
      | true =>
          cases op with
          | setVarStHandler =>
              have hset : a.setVarStHandler = a := by
                rw [setVarStHandler, ← hsh]
              rcases ih h hsh with ⟨acc, calls, hrun, hdec⟩
              refine ⟨acc, calls, ?_, hdec⟩
              rw [session, Op.applyCalls, Option.bind_some, hset, hrun]
              rfl
          | addByte b => cases hop
          | addBytes bytes => cases hop
      | false =>
          have hdec₁ : feed (decodeStep P) a.phase op.bytes
              = ((feed (byteStep P) a op.bytes).1.phase,
                (feed (byteStep P) a op.bytes).2.map (HandlerCall.frameOf P)) := by
            rcases addChunks_decode h hsh [op.bytes] with ⟨acc, calls, hrun, hdec⟩
            rw [addChunks_eq_feed _ h, Option.some.injEq, List.flatten_singleton] at hrun
            rw [List.flatten_singleton] at hdec
            rw [hdec, hrun]
          have hsh₁ : (feed (byteStep P) a op.bytes).1.sh = true := by
            refine (feed_invariant (I := fun a : VarStXport => a.sh = true) (Q := fun _ => True)
              ?_ op.bytes a hsh).1
            exact fun a b hset => ⟨(sh_byteStep a b).trans hset, fun _ _ => trivial⟩
          rcases ih (inv_feed h op.bytes) hsh₁ with ⟨acc, calls, hrun, hdec⟩
          refine ⟨acc, (feed (byteStep P) a op.bytes).2 ++ calls, ?_, ?_⟩
          · rw [session, Op.applyCalls_eq_feed h hop, Option.bind_some, hrun]
            rfl
          · rw [List.flatMap_cons, feed_append, hdec₁, hdec, List.map_append]

/-- A byte without a handler hands nothing over. -/
lemma byteStep_silent {a : VarStXport} (hsh : a.sh = false) (b : UInt8) :
    (byteStep P a b).2 = [] := by
  have hbody : ∀ a : VarStXport, a.sh = false → (checkBody P a).2 = [] := by
    intro a hsh
    rw [checkBody]
    split
    · simp [hsh]
    · rfl
  cases hstate : a.inAccum with
  | bufEmpty => simp only [byteStep, hstate]
  | waitingForHdrComplete => simp only [byteStep, hstate]
  | waitingForBufferComplete =>
      simp only [byteStep, hstate]
      split
      · exact hbody a hsh
      · exact hbody (putBody a [b]) hsh

/-- **Without a handler** nothing is handed over, and the decoder goes on. -/
lemma session_of_no_handler (ops : List Op) (hops : ∀ op ∈ ops, op.isSet = false)
    {a : VarStXport} (h : Inv P a) (hsh : a.sh = false) :
    ∃ acc, session P a ops = some (acc, []) ∧ Inv P acc ∧ acc.sh = false ∧
      acc.phase = (feed (decodeStep P) a.phase (ops.flatMap Op.bytes)).1 := by
  induction ops generalizing a with
  | nil => exact ⟨a, rfl, h, hsh, rfl⟩
  | cons op ops ih =>
      have hstep : ∀ (a : VarStXport) (b : UInt8), a.sh = false →
          (byteStep P a b).1.sh = false ∧ ∀ call ∈ (byteStep P a b).2, False := by
        intro a b hset
        exact ⟨(sh_byteStep a b).trans hset, by simp [byteStep_silent hset b]⟩
      have hsilent := feed_invariant hstep op.bytes a hsh
      have hnone : (feed (byteStep P) a op.bytes).2 = [] :=
        List.eq_nil_iff_forall_not_mem.mpr hsilent.2
      rcases ih (fun op' hop' => hops op' (List.mem_cons_of_mem op hop')) (inv_feed h op.bytes)
        hsilent.1 with ⟨acc, hrun, hinv, hsh', hphase⟩
      refine ⟨acc, ?_, hinv, hsh', ?_⟩
      · rw [session, Op.applyCalls_eq_feed h (hops op List.mem_cons_self), Option.bind_some,
          hrun, hnone]
        rfl
      · rw [hphase, phase_feed h, List.flatMap_cons, feed_append]

/-! ## A whole session -/

/-- **What a session hands over.**  For every sequence of calls on a constructed accumulator, with
handlers set anywhere among them: the handler calls are the frames of the whole stream, without
those that were complete before the first handler was set.  A frame without a body is complete with
the byte behind its header. -/
theorem session_frames (out : OutRecord P) (ops : List Op) :
    ∃ acc calls, session P (new P out) ops = some (acc, calls) ∧
      calls.map (HandlerCall.frameOf P)
        = (feed (decodeStep P) .idle (ops.flatMap Op.bytes)).2.drop
          (feed (decodeStep P) .idle
            ((ops.takeWhile fun op => !op.isSet).flatMap Op.bytes)).2.length := by
  have hsplit : ops = (ops.takeWhile fun op => !op.isSet) ++ ops.dropWhile fun op => !op.isSet :=
    List.takeWhile_append_dropWhile.symm
  have hbefore : ∀ op ∈ ops.takeWhile fun op => !op.isSet, op.isSet = false := by
    intro op hop
    simpa using List.mem_takeWhile_imp hop
  rcases session_of_no_handler _ hbefore (inv_new out) rfl with ⟨acc, hrun, hinv, -, hphase⟩
  have hidle : (new P out).phase = .idle := rfl
  rw [hidle] at hphase
  have hwhole : (feed (decodeStep P) .idle (ops.flatMap Op.bytes)).2
      = (feed (decodeStep P) .idle ((ops.takeWhile fun op => !op.isSet).flatMap Op.bytes)).2 ++
        (feed (decodeStep P) acc.phase
          ((ops.dropWhile fun op => !op.isSet).flatMap Op.bytes)).2 := by
    nth_rewrite 1 [hsplit]
    rw [List.flatMap_append, feed_append, hphase]
  rw [hwhole, List.drop_left]
  cases hlater : ops.dropWhile fun op => !op.isSet with
  | nil =>
      refine ⟨acc, [], ?_, rfl⟩
      rw [hsplit, hlater, List.append_nil]
      exact hrun
  | cons op later =>
      -- the rest of the session begins with the first handler
      have hset : op.isSet = true := by
        have hhead := List.head?_dropWhile_not (fun op : Op => !op.isSet) ops
        rw [hlater] at hhead
        simpa using hhead
      cases op with
      | setVarStHandler =>
          rcases session_of_handler later hinv.setVarStHandler rfl with
            ⟨acc', calls, hrun', hdec⟩
          refine ⟨acc', calls, ?_, ?_⟩
          · rw [hsplit, hlater, session_append _ _ hrun, session, Op.applyCalls,
              Option.bind_some, hrun']
            rfl
          · have hsame : acc.setVarStHandler.phase = acc.phase := rfl
            rw [hsame] at hdec
            rw [List.flatMap_cons, Op.bytes, List.nil_append, hdec]
      | addByte b => cases hset
      | addBytes bytes => cases hset

end LightControl.VarStXport
