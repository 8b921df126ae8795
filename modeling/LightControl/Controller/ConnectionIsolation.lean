import LightControl.Controller.Program

/-!
# Whose bytes a delivery reads

The slots of the command server do not ask which connection raised them: they work on the
connection that the member `socket` points to, and that is the one whose `incomingConnection` came
last (`run_newest`).

`isolation_iff` says exactly which runs keep the clients apart: those in which every delivery
is raised by the connection the member points to, or finds nothing to read on either side.
-/

namespace LightControl.Program

open Objects Runs

/-- **The law at one delivery** that the connection `i` raises: it goes through, it takes the next
line of connection `i`, the command it hands on, if that line is long enough for one, is that line,
a reply is written on connection `i`, and nothing happens to any other connection. -/
def Isolated (p : Program) (i : ℕ) (retValue : BitVec 32) : Prop :=
  ∃ ci p', p.cmdServer.sockets.get i = some ci ∧ p.readyRead i retValue = some p' ∧
    p'.cmdServer.sockets.get i = some (served ci) ∧
    p'.executed = p.executed ++
      (if (ci.readLine 256).1.length < 2 then [] else [QString.fromUtf8 (ci.readLine 256).1]) ∧
    ∀ j, j ≠ i → p'.cmdServer.sockets.get j = p.cmdServer.sockets.get j

/-- The law at one event. -/
def Isolation (p : Program) : Event → Prop
  | .readyRead i r => (p.cmdServer.sockets.get i).isSome → p.Isolated i r
  | _ => True

/-- The delivery works on connection `i`, or there is nothing to read on either side. -/
def WorksOn (p : Program) (i : ℕ) : Prop :=
  match p.cmdServer.deref, p.cmdServer.sockets.get i with
  | some (k, c), some ci => k = i ∨ (c.buffer = [] ∧ ci.buffer = [])
  | _, _ => False

/-- Every delivery works on the connection that raises it. -/
def WorksOnRaiser (p : Program) : Event → Prop
  | .readyRead i _ => (p.cmdServer.sockets.get i).isSome → p.WorksOn i
  | _ => True

/-- A delivery keeps the clients apart exactly if it works on the connection that raises it. -/
lemma isolated_iff {p : Program} {i : ℕ} (r : BitVec 32)
    (hlive : (p.cmdServer.sockets.get i).isSome) : p.Isolated i r ↔ p.WorksOn i := by
  rcases Option.isSome_iff_exists.mp hlive with ⟨ci, hci⟩
  constructor
  · rintro ⟨ci₀, p', hci₀, hstep, hci', -, hothers⟩
    obtain rfl : ci = ci₀ := Option.some.inj (hci.symm.trans hci₀)
    rcases readyRead_cases hstep with ⟨hnone, -⟩ | ⟨-, k, c, hderef, rfl⟩
    · rw [hci] at hnone
      exact absurd hnone (by simp)
    have hget := (LightControllerSslsock.deref_eq_some.mp hderef).2
    rw [delivered_sockets] at hci' hothers
    simp only [WorksOn, hderef, hci]
    by_cases hk : k = i
    · exact Or.inl hk
    refine Or.inr ⟨?_, ?_⟩
    · -- the object behind the member keeps its bytes only if it has none
      by_contra hne
      have hsame := hothers k hk
      rw [get_assign (by simp [hget]), if_pos rfl, hget, Option.some.injEq] at hsame
      exact c.readLine_buffer_ne 256 (by decide) hne (by rw [← served_buffer, hsame])
    · -- and the raising connection loses none
      by_contra hne
      rw [get_assign (by simp [hget]), if_neg (Ne.symm hk), hci, Option.some.injEq] at hci'
      exact ci.readLine_buffer_ne 256 (by decide) hne (by rw [← served_buffer, ← hci'])
  · intro hown
    cases hderef : p.cmdServer.deref with
    | none => simp [WorksOn, hderef] at hown
    | some kc =>
        rcases kc with ⟨k, c⟩
        have hget := (LightControllerSslsock.deref_eq_some.mp hderef).2
        have hassign : ∀ j, (p.cmdServer.sockets.assign k (served c)).get j
            = if j = k then some (served c) else p.cmdServer.sockets.get j := by
          intro j
          exact get_assign (Option.isSome_of_eq_some hget)
        simp only [WorksOn, hderef, hci] at hown
        rcases hown with rfl | ⟨hempty, hcie⟩
        · obtain rfl : ci = c := Option.some.inj (hci.symm.trans hget)
          refine ⟨ci, p.delivered k ci r, hci, readyRead_eq r hlive hderef, ?_,
            delivered_executed p k ci r, ?_⟩
          · rw [delivered_sockets, hassign, if_pos rfl]
          · intro j hj
            rw [delivered_sockets, hassign, if_neg hj]
        · -- nothing is read, so no object changes and no command is handed on
          have hsame : ∀ j, (p.delivered k c r).cmdServer.sockets.get j
              = p.cmdServer.sockets.get j := by
            intro j
            rw [delivered_sockets, hassign, served_of_buffer_nil hempty]
            split
            case isTrue hj => rw [hj, hget]
            case isFalse => rfl
          refine ⟨ci, p.delivered k c r, hci, readyRead_eq r hlive hderef, ?_, ?_, ?_⟩
          · rw [hsame, hci, served_of_buffer_nil hcie]
          · rw [delivered_executed, c.readLine_of_buffer_nil hempty,
              ci.readLine_of_buffer_nil hcie]
          · intro j _
            exact hsame j

/-! ## Runs -/

/-- The member points to the connection that came last. -/
def Newest (s : LightControllerSslsock) : Prop :=
  s.socket = if s.sockets.length = 0 then none else some (s.sockets.length - 1)

lemma step_member {charSigned : Bool} {p p' : Program} {e : Event}
    (h : p.step charSigned e = some p') :
    (p'.cmdServer.socket = some p.cmdServer.sockets.length ∧
        p'.cmdServer.sockets.length = p.cmdServer.sockets.length + 1) ∨
      (p'.cmdServer.socket = p.cmdServer.socket ∧
        p'.cmdServer.sockets.length = p.cmdServer.sockets.length) := by
  cases e with
  | incomingConnection setup =>
      cases h
      refine Or.inl ?_
      cases hset : setup.descriptorSet <;>
        simp [LightControllerSslsock.incomingConnection, hset]
  | handshakeEnds i verified =>
      cases h
      refine Or.inr ?_
      rcases p.cmdServer.handshakeEnds_cases i verified with heq | ⟨c, -, -, heq⟩
      · simp [heq]
      · simp [heq, LightControllerSslsock.assign]
  | bytesArrive i bytes =>
      cases h
      refine Or.inr ?_
      rcases p.cmdServer.bytesArrive_cases i bytes with heq | ⟨c, -, -, -, heq⟩
      · simp [heq]
      · simp [heq, LightControllerSslsock.assign]
  | readyRead i r =>
      refine Or.inr ?_
      rcases readyRead_cases h with ⟨-, rfl⟩ | ⟨-, k, c, -, rfl⟩
      · exact ⟨rfl, rfl⟩
      · refine ⟨?_, by rw [delivered_sockets, length_assign]⟩
        simp only [delivered]
        split <;> rfl
  | _ => cases h; exact Or.inr ⟨rfl, rfl⟩

/-- **The member names the last comer** in every state that a run reaches. -/
theorem run_newest {charSigned : Bool} {clock : ℕ} {lightLast powerLast : ℤ} {io : I2cOutcome}
    {es : List Event} {p : Program}
    (h : run (step charSigned) (start charSigned clock lightLast powerLast io) es = some p) :
    Newest p.cmdServer := by
  have hstart : Newest (start charSigned clock lightLast powerLast io).cmdServer := rfl
  refine run_invariant (I := fun q => Newest q.cmdServer) ?_ es hstart h
  intro q e q' hq hstep
  simp only [Newest] at hq ⊢
  rcases step_member hstep with ⟨hsocket, hlength⟩ | ⟨hsocket, hlength⟩
  · rw [hsocket, hlength, if_neg (Nat.succ_ne_zero _), Nat.add_sub_cancel]
  · rw [hsocket, hlength, hq]

/-- **The last comer is served**: in every state that a run reaches, a delivery that the newest
connection raises keeps the clients apart. -/
theorem isolated_of_newest {charSigned : Bool} {clock : ℕ} {lightLast powerLast : ℤ}
    {io : I2cOutcome} {es : List Event} {p : Program} {i : ℕ} (r : BitVec 32)
    (h : run (step charSigned) (start charSigned clock lightLast powerLast io) es = some p)
    (hlive : (p.cmdServer.sockets.get i).isSome) (hnewest : i + 1 = p.cmdServer.sockets.length) :
    p.Isolated i r := by
  rcases Option.isSome_iff_exists.mp hlive with ⟨ci, hci⟩
  have hsocket : p.cmdServer.socket = some i := by
    rw [run_newest h, ← hnewest, if_neg (Nat.succ_ne_zero _), Nat.add_sub_cancel]
  refine (isolated_iff r hlive).mpr ?_
  simp only [WorksOn, LightControllerSslsock.deref_eq_some.mpr ⟨hsocket, hci⟩, hci, true_or]

/-- **Which runs keep the clients apart.**  In every run of the constructed program: the law holds
at every delivery if and only if every delivery works on the connection that raises it. -/
theorem isolation_iff (charSigned : Bool) (clock : ℕ) (lightLast powerLast : ℤ) (io : I2cOutcome)
    (es : List Event) :
    Along (step charSigned) Isolation (start charSigned clock lightLast powerLast io) es ↔
      Along (step charSigned) WorksOnRaiser
        (start charSigned clock lightLast powerLast io) es := by
  refine along_congr (I := fun _ => True) (fun _ _ _ _ _ => trivial) ?_ es trivial
  intro p e _
  cases e with
  | readyRead i r => exact forall_congr' fun hlive => isolated_iff r hlive
  | _ => exact Iff.rfl

/-- Two clients connect, both are verified, and each sends a command. -/
def twoClients : List Event :=
  [.incomingConnection ⟨true, true, true, true⟩, .incomingConnection ⟨true, true, true, true⟩,
    .handshakeEnds 0 true, .handshakeEnds 1 true,
    .bytesArrive 1 getLightState.toUtf8, .bytesArrive 0 toggleOnOff.toUtf8]

/-- **The law fails with two clients**: when the first one's command is delivered, the second
one's is read and answered. -/
theorem not_isolation :
    ¬ ∀ (charSigned : Bool) (clock : ℕ) (lightLast powerLast : ℤ) (io : I2cOutcome)
      (es : List Event), Along (step charSigned) Isolation
        (start charSigned clock lightLast powerLast io) es := by
  intro h
  have hrun := h false 0 0 0 ⟨0, some 0, some 0⟩ (twoClients ++ [.readyRead 0 0])
  have hlaw : Isolated _ 0 0 := (along_iff_reached _ _).mp hrun twoClients _ [] _ rfl rfl rfl
  have hworks : 1 = 0 ∨ (getLightState.toUtf8 = [] ∧ toggleOnOff.toUtf8 = []) :=
    (isolated_iff 0 rfl).mp hlaw
  revert hworks
  decide

end LightControl.Program
