import LightControl.Controller.Program

/-!
# Connections that are refused

`incomingConnection` makes a new socket object, lets the member `socket` point to it, and deletes
it again when its descriptor cannot be set.  The member then points to the deleted object, whatever
it pointed to before.

`refusals_iff` says exactly which runs get through that: those in which no connection is refused
after one that was accepted.
-/

namespace LightControl

/-- A connection comes in and its descriptor is set. -/
def Event.Accepted : Event → Prop
  | .incomingConnection setup => setup.descriptorSet = true
  | _ => False

/-- A connection comes in and its descriptor cannot be set. -/
def Event.Refused : Event → Prop
  | .incomingConnection setup => setup.descriptorSet = false
  | _ => False

namespace Program

open Objects Runs

/-! ## The law -/

/-- **The law at one event**: a call that refuses a connection leaves the member at the connection
it pointed to. -/
def KeepsConnection (p : Program) : Event → Prop
  | .incomingConnection setup => setup.descriptorSet = false →
      ∀ k c, p.cmdServer.deref = some (k, c) →
        (p.cmdServer.incomingConnection setup).deref = some (k, c)
  | _ => True

/-- **The law in one state**: when there is an accepted connection, the slots of the server work on
an object that is there. -/
def SlotsWork (p : Program) : Prop :=
  (∃ i, (p.cmdServer.sockets.get i).isSome) →
    p.cmdServer.slotReadyRead.isSome ∧ ∀ aLine, (p.cmdServer.sendLine aLine).isSome

/-- What the law needs of a state: a live connection, and the member points to one. -/
def Pointed (p : Program) : Prop :=
  (∃ i, (p.cmdServer.sockets.get i).isSome) → p.cmdServer.deref.isSome

lemma slotsWork_of_pointed {p : Program} (h : Pointed p) : SlotsWork p := by
  intro hlive
  rcases Option.isSome_iff_exists.mp (h hlive) with ⟨⟨k, c⟩, hderef⟩
  refine ⟨?_, fun aLine => ?_⟩
  · rw [LightControllerSslsock.slotReadyRead, hderef]
    rfl
  · rw [LightControllerSslsock.sendLine_eq hderef]
    rfl

/-! ## What an event does to the member -/

lemma deref_refused {s : LightControllerSslsock} {setup : Setup}
    (h : setup.descriptorSet = false) : (s.incomingConnection setup).deref = none := by
  rw [LightControllerSslsock.incomingConnection, if_neg (by simp [h])]
  simp only [LightControllerSslsock.deref, Option.bind_some, get_delete, if_true, Option.map_none]

lemma deref_accepted {s : LightControllerSslsock} {setup : Setup}
    (h : setup.descriptorSet = true) : (s.incomingConnection setup).deref.isSome := by
  rw [LightControllerSslsock.incomingConnection, if_pos h]
  simp [LightControllerSslsock.deref, get_create]

/-- An event that is no incoming connection makes no object, deletes none and leaves the member
alone; it goes through if the member points to a live object. -/
lemma step_same (charSigned : Bool) {p : Program} (h : Pointed p) {e : Event}
    (he : ∀ setup, e ≠ .incomingConnection setup) :
    ∃ p', p.step charSigned e = some p' ∧ p'.cmdServer.socket = p.cmdServer.socket ∧
      ∀ i, (p'.cmdServer.sockets.get i).isSome = (p.cmdServer.sockets.get i).isSome := by
  cases e with
  | incomingConnection setup => exact absurd rfl (he setup)
  | handshakeEnds i verified =>
      refine ⟨_, rfl, ?_⟩
      rcases p.cmdServer.handshakeEnds_cases i verified with heq | ⟨c, hget, -, heq⟩
      · simp [heq]
      · simp only [heq, LightControllerSslsock.assign, true_and]
        exact fun j => isSome_get_assign (Option.isSome_of_eq_some hget)
  | bytesArrive i bytes =>
      refine ⟨_, rfl, ?_⟩
      rcases p.cmdServer.bytesArrive_cases i bytes with heq | ⟨c, hget, -, -, heq⟩
      · simp [heq]
      · simp only [heq, LightControllerSslsock.assign, true_and]
        exact fun j => isSome_get_assign (Option.isSome_of_eq_some hget)
  | readyRead i r =>
      cases hlive : (p.cmdServer.sockets.get i).isSome with
      | false => exact ⟨p, by simp [step, readyRead, hlive], rfl, fun _ => rfl⟩
      | true =>
          rcases Option.isSome_iff_exists.mp (h ⟨i, hlive⟩) with ⟨⟨k, c⟩, hderef⟩
          have hget := (LightControllerSslsock.deref_eq_some.mp hderef).2
          refine ⟨p.delivered k c r, readyRead_eq r hlive hderef, ?_, ?_⟩
          · simp only [delivered]
            split <;> rfl
          · intro j
            rw [delivered_sockets]
            exact isSome_get_assign (Option.isSome_of_eq_some hget)
  | _ => exact ⟨_, rfl, rfl, fun _ => rfl⟩

/-- The member points to a live object. -/
lemma isSome_deref_iff {s : LightControllerSslsock} :
    s.deref.isSome ↔ ∃ k, s.socket = some k ∧ (s.sockets.get k).isSome := by
  simp only [LightControllerSslsock.deref]
  cases s.socket with
  | none => simp
  | some k => simp

/-- **One event**, from a state as the law needs it, that does not refuse a connection while
another is served: it goes through, to such a state, in which the member points to a live object if
a connection was accepted or the member pointed to one before and none was refused. -/
lemma step_pointed (charSigned : Bool) {p : Program} (h : Pointed p) {e : Event}
    (he : e.Refused → p.cmdServer.deref = none) :
    ∃ p', p.step charSigned e = some p' ∧ Pointed p' ∧
      (p'.cmdServer.deref.isSome ↔ e.Accepted ∨ p.cmdServer.deref.isSome) := by
  by_cases hincoming : ∃ setup, e = .incomingConnection setup
  · rcases hincoming with ⟨setup, rfl⟩
    refine ⟨_, rfl, ?_⟩
    cases hset : setup.descriptorSet with
    | true =>
        have hderef := deref_accepted (s := p.cmdServer) hset
        exact ⟨fun _ => hderef, iff_of_true hderef (Or.inl hset)⟩
    | false =>
        have hnone := he hset
        have hderef := deref_refused (s := p.cmdServer) hset
        refine ⟨?_, ?_⟩
        · -- no object was live before, so none is now
          rintro ⟨i, hi⟩
          have hold : ¬ (p.cmdServer.sockets.get i).isSome := by
            intro hlive
            have hsome := h ⟨i, hlive⟩
            rw [hnone] at hsome
            cases hsome
          rw [LightControllerSslsock.incomingConnection, if_neg (by simp [hset])] at hi
          simp only [get_delete, get_create] at hi
          split at hi
          case isTrue => cases hi
          case isFalse => exact absurd hi hold
        · have hacc : ¬ Event.Accepted (.incomingConnection setup) := by
            simp [Event.Accepted, hset]
          rw [hderef, hnone]
          simp [hacc]
  · have hno : ∀ setup, e ≠ .incomingConnection setup := fun setup heq => hincoming ⟨setup, heq⟩
    rcases step_same charSigned h hno with ⟨p', hstep, hsocket, hlive⟩
    have hderef : p'.cmdServer.deref.isSome ↔ p.cmdServer.deref.isSome := by
      rw [isSome_deref_iff, isSome_deref_iff, hsocket]
      simp only [hlive]
    have hacc : ¬ e.Accepted := by
      cases e with
      | incomingConnection setup => exact absurd rfl (hno setup)
      | _ => exact id
    refine ⟨p', hstep, ?_, by rw [hderef]; simp [hacc]⟩
    rintro ⟨i, hi⟩
    rw [hlive] at hi
    exact hderef.mpr (h ⟨i, hi⟩)

/-! ## Runs -/

/-- No connection is refused while the member points to a live one. -/
def RefusedIdle (p : Program) (e : Event) : Prop :=
  e.Refused → p.cmdServer.deref = none

lemma keepsConnection_iff (p : Program) (e : Event) : KeepsConnection p e ↔ RefusedIdle p e := by
  cases e with
  | incomingConnection setup =>
      refine forall_congr' fun hset => ?_
      rw [deref_refused hset, Option.eq_none_iff_forall_ne_some]
      simp only [reduceCtorEq, imp_false, ne_eq, Prod.forall]
  | _ => exact iff_of_true trivial (fun h => h.elim)

/-- The order of the accepted and the refused connections decides. -/
lemma along_refusedIdle_iff (charSigned : Bool) (es : List Event) {p : Program} (h : Pointed p) :
    Along (step charSigned) RefusedIdle p es ↔
      es.Pairwise (fun e f => e.Accepted → ¬ f.Refused) ∧
        (p.cmdServer.deref.isSome → ∀ e ∈ es, ¬ e.Refused) := by
  induction es generalizing p with
  | nil => simp [Along]
  | cons e es ih =>
      by_cases hidle : RefusedIdle p e
      · rcases step_pointed charSigned h hidle with ⟨p', hstep, hp', hderef⟩
        have hnot : p.cmdServer.deref.isSome → ¬ e.Refused := by
          intro hsome href
          rw [hidle href] at hsome
          cases hsome
        simp only [Along, hidle, hstep, Option.some.injEq, forall_eq', true_and, ih hp', hderef,
          List.pairwise_cons, List.mem_cons, forall_eq_or_imp]
        constructor
        · rintro ⟨hpair, hall⟩
          exact ⟨⟨fun f hf hacc => hall (Or.inl hacc) f hf, hpair⟩,
            fun hsome => ⟨hnot hsome, hall (Or.inr hsome)⟩⟩
        · rintro ⟨⟨hfirst, hpair⟩, hall⟩
          refine ⟨hpair, ?_⟩
          rintro (hacc | hsome) f hf
          · exact hfirst f hf hacc
          · exact (hall hsome).2 f hf
      · simp only [RefusedIdle, Classical.not_imp] at hidle
        rcases hidle with ⟨href, hsome⟩
        refine iff_of_false ?_ ?_
        · intro halong
          exact hsome (halong.1 href)
        · rintro ⟨-, hall⟩
          exact hall (Option.ne_none_iff_isSome.mp hsome) e List.mem_cons_self href

/-- **Which runs survive a refused connection.**  In every run of the constructed program: every
call that refuses a connection leaves the member as it is, and in every state with an accepted
connection the slots of the server work on an object that is there, if and only if no connection
is refused after one that was accepted. -/
theorem refusals_iff (charSigned : Bool) (clock : ℕ) (lightLast powerLast : ℤ) (io : I2cOutcome)
    (es : List Event) :
    (Along (step charSigned) KeepsConnection
        (start charSigned clock lightLast powerLast io) es ∧
      Throughout (step charSigned) SlotsWork
        (start charSigned clock lightLast powerLast io) es) ↔
      es.Pairwise (fun e f => e.Accepted → ¬ f.Refused) := by
  have hstart : Pointed (start charSigned clock lightLast powerLast io) := by
    rintro ⟨i, hi⟩
    cases hi
  have hkeeps : Along (step charSigned) KeepsConnection
      (start charSigned clock lightLast powerLast io) es ↔
      es.Pairwise (fun e f => e.Accepted → ¬ f.Refused) := by
    rw [along_congr (I := fun _ => True) (fun _ _ _ _ _ => trivial)
      (fun p e _ => keepsConnection_iff p e) es trivial, along_refusedIdle_iff charSigned es hstart]
    refine and_iff_left ?_
    intro hsome
    cases hsome
  rw [hkeeps]
  refine and_iff_left_of_imp ?_
  intro hpair
  have halong := (along_refusedIdle_iff charSigned es hstart).mpr
    ⟨hpair, by intro hsome; cases hsome⟩
  intro pre post p hes hrun
  refine slotsWork_of_pointed (throughout_of_along ?_ es hstart halong pre post p hes hrun)
  intro q e q' hq hidle hstep
  rcases step_pointed charSigned hq hidle with ⟨q₁, hstep₁, hq₁, -⟩
  rw [hstep₁, Option.some.injEq] at hstep
  exact hstep ▸ hq₁

/-- **A refused connection takes the member along**: after it `slot_readyRead` works on a deleted
object, while the client that was accepted before is still connected. -/
theorem not_refusals :
    ¬ ∀ (charSigned : Bool) (clock : ℕ) (lightLast powerLast : ℤ) (io : I2cOutcome)
      (es : List Event),
      Along (step charSigned) KeepsConnection
          (start charSigned clock lightLast powerLast io) es ∧
        Throughout (step charSigned) SlotsWork
          (start charSigned clock lightLast powerLast io) es := by
  intro h
  have hslots : SlotsWork _ := (h false 0 0 0 ⟨0, some 0, some 0⟩
    [.incomingConnection ⟨true, true, true, true⟩,
      .incomingConnection ⟨false, true, true, true⟩]).2 _ [] _ (List.append_nil _).symm rfl
  exact absurd (hslots ⟨0, rfl⟩).1 (by decide)

end Program

end LightControl
