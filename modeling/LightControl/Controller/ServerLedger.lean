import LightControl.Controller.ConnectionIsolation

/-!
# What the server holds, reads and answers

The socket objects over a whole run: which of them are live, whose bytes are read, and how many
replies there are.

* `step_server` — what an event does to the socket objects; everything else follows from it.
* `sockets_live_iff` — the object of a connection is live exactly if its descriptor was set; no
  object is ever freed.
* `older_starved` — when a connection comes in, the ones before it are never read or answered
  again.
* `replies_law` — what was written to a connection are whole replies, and all connections together
  have no more of them than `get_light_state` was executed.
-/

namespace LightControl

open Objects Runs

/-- How the set-up of an incoming connection turns out. -/
def Event.setup : Event → Option Setup
  | .incomingConnection setup => some setup
  | _ => none

namespace Program

variable {charSigned : Bool} {p p' : Program} {e : Event}

/-- What a socket object does without being read or answered. -/
def Waits (c c' : ServerSocket) : Prop :=
  c'.taken = c.taken ∧ c'.written = c.written ∧ c.buffer <+: c'.buffer

lemma Waits.refl (c : ServerSocket) : Waits c c := ⟨rfl, rfl, List.prefix_rfl⟩

lemma Waits.trans {c₁ c₂ c₃ : ServerSocket} (h : Waits c₁ c₂) (h' : Waits c₂ c₃) :
    Waits c₁ c₃ :=
  ⟨h'.1.trans h.1, h'.2.1.trans h.2.1, h.2.2.trans h'.2.2⟩

/-- **What an event does to the server**: a connection comes in, or a live object goes on waiting,
or the object that the member points to is served, or nothing happens. -/
theorem step_server (h : p.step charSigned e = some p') :
    (∃ setup, e = .incomingConnection setup ∧
      p' = { p with cmdServer := p.cmdServer.incomingConnection setup }) ∨
    e.setup = none ∧
      ((p'.cmdServer.sockets = p.cmdServer.sockets ∧ p'.executed = p.executed) ∨
        (∃ k c c', p.cmdServer.sockets.get k = some c ∧ Waits c c' ∧
          p'.cmdServer.sockets = p.cmdServer.sockets.assign k c' ∧ p'.executed = p.executed) ∨
        ∃ k c r, p.cmdServer.deref = some (k, c) ∧ p' = p.delivered k c r) := by
  cases e with
  | incomingConnection setup =>
      cases h
      exact Or.inl ⟨setup, rfl, rfl⟩
  | handshakeEnds i verified =>
      cases h
      refine Or.inr ⟨rfl, ?_⟩
      rcases p.cmdServer.handshakeEnds_cases i verified with heq | ⟨c, hget, -, heq⟩
      · exact Or.inl ⟨by rw [heq], rfl⟩
      · refine Or.inr (Or.inl ⟨i, c, _, hget, ?_, congrArg _ heq, rfl⟩)
        split
        case isTrue => exact Waits.refl c
        case isFalse => exact Waits.refl c
  | bytesArrive i bytes =>
      cases h
      refine Or.inr ⟨rfl, ?_⟩
      rcases p.cmdServer.bytesArrive_cases i bytes with heq | ⟨c, hget, -, -, heq⟩
      · exact Or.inl ⟨by rw [heq], rfl⟩
      · exact Or.inr (Or.inl ⟨i, c, { c with buffer := c.buffer ++ bytes }, hget,
          ⟨rfl, rfl, List.prefix_append _ _⟩, congrArg _ heq, rfl⟩)
  | readyRead i r =>
      refine Or.inr ⟨rfl, ?_⟩
      rcases readyRead_cases h with ⟨-, rfl⟩ | ⟨-, k, c, hderef, rfl⟩
      · exact Or.inl ⟨rfl, rfl⟩
      · exact Or.inr (Or.inr ⟨k, c, r, hderef, rfl⟩)
  | _ =>
      cases h
      exact Or.inr ⟨rfl, Or.inl ⟨rfl, rfl⟩⟩

/-- The object behind a pointer is neither made nor freed by anything but an incoming
connection. -/
lemma step_live (h : p.step charSigned e = some p') (he : e.setup = none) :
    p'.cmdServer.sockets.length = p.cmdServer.sockets.length ∧
      ∀ i, (p'.cmdServer.sockets.get i).isSome = (p.cmdServer.sockets.get i).isSome := by
  rcases step_server h with ⟨setup, rfl, -⟩ | ⟨-, ⟨hsame, -⟩ |
      ⟨k, c, c', hget, -, hassign, -⟩ | ⟨k, c, r, hderef, rfl⟩⟩
  · cases he
  · rw [hsame]
    exact ⟨rfl, fun _ => rfl⟩
  · rw [hassign]
    exact ⟨length_assign, fun _ => isSome_get_assign (Option.isSome_of_eq_some hget)⟩
  · have hget := (LightControllerSslsock.deref_eq_some.mp hderef).2
    rw [delivered_sockets]
    exact ⟨length_assign, fun _ => isSome_get_assign (Option.isSome_of_eq_some hget)⟩

/-- A connection that comes in gets the next object. -/
lemma incomingConnection_live (s : LightControllerSslsock) (setup : Setup) :
    (s.incomingConnection setup).sockets.length = s.sockets.length + 1 ∧
      ∀ i, ((s.incomingConnection setup).sockets.get i).isSome
        = if i = s.sockets.length then setup.descriptorSet else (s.sockets.get i).isSome := by
  cases hset : setup.descriptorSet with
  | true =>
      rw [LightControllerSslsock.incomingConnection, if_pos hset]
      refine ⟨length_create, fun i => ?_⟩
      rw [get_create]
      split <;> rfl
  | false =>
      rw [LightControllerSslsock.incomingConnection, if_neg (by simp [hset])]
      refine ⟨by rw [length_delete, length_create], fun i => ?_⟩
      rw [get_delete]
      split
      case isTrue => rfl
      case isFalse hi => rw [get_create, if_neg hi]

/-- And leaves the others alone. -/
lemma incomingConnection_get (s : LightControllerSslsock) (setup : Setup) :
    (s.incomingConnection setup).sockets.length = s.sockets.length + 1 ∧
      ∀ i, i ≠ s.sockets.length →
        (s.incomingConnection setup).sockets.get i = s.sockets.get i := by
  refine ⟨(incomingConnection_live s setup).1, fun i hi => ?_⟩
  rw [LightControllerSslsock.incomingConnection]
  split
  case isTrue => rw [get_create, if_neg hi]
  case isFalse => rw [get_delete, if_neg hi, get_create, if_neg hi]

section Start

variable {clock : ℕ} {lightLast powerLast : ℤ} {io : I2cOutcome} {es : List Event}

/-- **The objects of a run.**  In every state of every run there is one object for each connection
that came in, in their order; it is live exactly if the descriptor was set, and it stays so for
good. -/
theorem sockets_live_iff
    (h : run (step charSigned) (start charSigned clock lightLast powerLast io) es = some p) :
    p.cmdServer.sockets.length = (es.filterMap Event.setup).length ∧
      ∀ i, (p.cmdServer.sockets.get i).isSome = true ↔
        ((es.filterMap Event.setup)[i]?.map Setup.descriptorSet) = some true := by
  refine run_history_invariant (I := fun es p =>
    p.cmdServer.sockets.length = (es.filterMap Event.setup).length ∧
      ∀ i, (p.cmdServer.sockets.get i).isSome = true ↔
        ((es.filterMap Event.setup)[i]?.map Setup.descriptorSet) = some true) ?_ ?_ es h
  · refine ⟨rfl, fun i => ?_⟩
    rw [start, LightControllerSslsock.new, Objects.get]
    simp
  · rintro es p e p' - ⟨hlength, hlive⟩ hstep
    rw [List.filterMap_append]
    cases he : e.setup with
    | none =>
        rcases step_live hstep he with ⟨hlength', hlive'⟩
        rw [List.filterMap_cons_none he, List.filterMap_nil, List.append_nil]
        exact ⟨hlength'.trans hlength, fun i => by rw [hlive']; exact hlive i⟩
    | some setup =>
        rcases step_server hstep with ⟨setup', rfl, rfl⟩ | ⟨hnone, -⟩
        · cases he
          rcases incomingConnection_live p.cmdServer setup with ⟨hlength', hlive'⟩
          have hsetups : [Event.incomingConnection setup].filterMap Event.setup = [setup] := rfl
          rw [hsetups]
          refine ⟨?_, fun i => ?_⟩
          · rw [List.length_append, List.length_singleton, ← hlength]
            exact hlength'
          · rw [hlive']
            by_cases hi : i = p.cmdServer.sockets.length
            · rw [if_pos hi, hi, hlength, List.getElem?_concat_length, Option.map_some,
                Option.some.injEq]
            · rw [if_neg hi, hlive]
              rcases Nat.lt_or_gt_of_ne hi with hlt | hgt
              · rw [List.getElem?_append_left (hlength ▸ hlt)]
              · have hout : (es.filterMap Event.setup ++ [setup]).length ≤ i := by
                  rw [List.length_append, List.length_singleton, ← hlength]
                  exact hgt
                rw [List.getElem?_eq_none hout, List.getElem?_eq_none
                  (by rw [← hlength]; exact Nat.le_of_lt hgt)]
        · rw [he] at hnone
          cases hnone

/-- One connection is accepted and one is refused. -/
theorem sockets_live_two :
    ∃ p, run (step false) (start false 0 0 0 ⟨0, some 0, some 0⟩)
        [.incomingConnection ⟨true, true, true, true⟩,
          .incomingConnection ⟨false, true, true, true⟩] = some p ∧
      (p.cmdServer.sockets.get 0).isSome = true ∧ (p.cmdServer.sockets.get 1).isSome ≠ true := by
  have h : run (step false) (start false 0 0 0 ⟨0, some 0, some 0⟩)
      [.incomingConnection ⟨true, true, true, true⟩,
        .incomingConnection ⟨false, true, true, true⟩] = some _ := rfl
  rcases sockets_live_iff h with ⟨-, hlive⟩
  refine ⟨_, h, (hlive 0).mpr rfl, ?_⟩
  rw [ne_eq, hlive 1]
  decide

/-! ## Whose bytes are read -/

/-- **Older connections starve.**  From any state that a run reaches, and whatever happens later: a
connection that is not the newest one is never read and never answered again; what its client sends
piles up. -/
theorem older_starved
    (h : run (step charSigned) (start charSigned clock lightLast powerLast io) es = some p)
    {i : ℕ} {c : ServerSocket} (hget : p.cmdServer.sockets.get i = some c)
    (holder : i + 1 < p.cmdServer.sockets.length) {later : List Event}
    (h' : run (step charSigned) p later = some p') :
    ∃ c', p'.cmdServer.sockets.get i = some c' ∧ Waits c c' := by
  refine (run_history_invariant (I := fun _ q => i + 1 < q.cmdServer.sockets.length ∧
    ∃ c', q.cmdServer.sockets.get i = some c' ∧ Waits c c') ⟨holder, c, hget, Waits.refl c⟩ ?_
    later h').2
  rintro pre q e q' hpre ⟨hlt, c₁, hget₁, hwaits⟩ hstep
  have hrun : run (step charSigned) (start charSigned clock lightLast powerLast io) (es ++ pre)
      = some q := by
    rw [run_append, h, Option.bind_some]
    exact hpre
  have hnewest := run_newest hrun
  rcases step_server hstep with ⟨setup, rfl, rfl⟩ | ⟨he, hcase⟩
  · rcases incomingConnection_get q.cmdServer setup with ⟨hlength, hsame⟩
    refine ⟨?_, c₁, (hsame i (by omega)).trans hget₁, hwaits⟩
    show i + 1 < (q.cmdServer.incomingConnection setup).sockets.length
    omega
  · refine ⟨(step_live hstep he).1 ▸ hlt, ?_⟩
    rcases hcase with ⟨hsame, -⟩ | ⟨k, c₂, c₃, hget₂, hwaits', hassign, -⟩ |
      ⟨k, c₂, r, hderef, rfl⟩
    · exact ⟨c₁, by rw [hsame, hget₁], hwaits⟩
    · rw [hassign, get_assign (Option.isSome_of_eq_some hget₂)]
      by_cases hi : i = k
      · rw [← hi, hget₁] at hget₂
        obtain rfl := Option.some.inj hget₂
        exact ⟨c₃, if_pos hi, hwaits.trans hwaits'⟩
      · exact ⟨c₁, by rw [if_neg hi, hget₁], hwaits⟩
    · -- the member points to the newest object, which is another one
      rcases LightControllerSslsock.deref_eq_some.mp hderef with ⟨hsocket, hget₂⟩
      have hk : i ≠ k := by
        rw [hnewest, if_neg (by omega), Option.some.injEq] at hsocket
        omega
      refine ⟨c₁, ?_, hwaits⟩
      rw [delivered_sockets, get_assign (Option.isSome_of_eq_some hget₂), if_neg hk, hget₁]

/-- The first of two clients has sent a command, and deliveries that either of them raises leave
it where it is. -/
theorem older_starved_twoClients :
    ∃ p p' c c', run (step false) (start false 0 0 0 ⟨0, some 0, some 0⟩) twoClients = some p ∧
      run (step false) p [.readyRead 0 0] = some p' ∧
      p'.cmdServer.sockets.get 0 = some c' ∧ Waits c c' ∧ c.buffer = toggleOnOff.toUtf8 := by
  have h : run (step false) (start false 0 0 0 ⟨0, some 0, some 0⟩) twoClients = some _ := rfl
  rcases @older_starved false _ _ 0 0 0 ⟨0, some 0, some 0⟩ _ h 0 _ rfl (by decide)
    [.readyRead 0 0] rfl with ⟨c', hget', hwaits⟩
  exact ⟨_, _, _, c', h, rfl, hget', hwaits, rfl⟩

/-! ## The replies -/

/-- The bytes of a reply to `get_light_state`. -/
def reply : List UInt8 := responseLine.toLatin1

lemma served_written (c : ServerSocket) :
    (served c).written = c.written ∨
      (served c).written = c.written ++ reply ∧ 2 ≤ (c.readLine 256).1.length ∧
        QString.fromUtf8 (c.readLine 256).1 = getLightState := by
  simp only [served]
  split
  case isTrue hget =>
    rw [ServerSocket.write]
    split
    case isTrue => exact Or.inr ⟨rfl, hget⟩
    case isFalse => exact Or.inl rfl
  case isFalse => exact Or.inl rfl

/-- Whole replies were written to the connection. -/
def WholeReplies (c : ServerSocket) : Prop := ∃ n, c.written = (List.replicate n reply).flatten

/-- **The law of the replies**: every connection has got whole replies, and all together no more
than there were requests. -/
structure RepliesLaw (p : Program) : Prop where
  whole : ∀ i c, p.cmdServer.sockets.get i = some c → WholeReplies c
  bounded : p.cmdServer.sockets.total (fun c => c.written.length)
    ≤ reply.length * p.executed.count getLightState

/-- A socket object is replaced by one with at most as many more replies as there are more
requests. -/
lemma RepliesLaw.assign (hp : RepliesLaw p) {k : ℕ} {c c' : ServerSocket}
    (hget : p.cmdServer.sockets.get k = some c)
    (hassign : p'.cmdServer.sockets = p.cmdServer.sockets.assign k c')
    (hwhole : WholeReplies c')
    (hmore : c'.written.length + reply.length * p.executed.count getLightState
      ≤ c.written.length + reply.length * p'.executed.count getLightState) : RepliesLaw p' := by
  constructor
  · intro i d hd
    rw [hassign, get_assign (Option.isSome_of_eq_some hget)] at hd
    split at hd
    case isTrue =>
      obtain rfl := Option.some.inj hd
      exact hwhole
    case isFalse => exact hp.whole i d hd
  · have htotal := total_assign (f := fun c : ServerSocket => c.written.length) (b := c') hget
    have hbounded := hp.bounded
    rw [hassign]
    omega

/-- A connection that comes in has got nothing yet. -/
lemma RepliesLaw.incomingConnection (hp : RepliesLaw p) (setup : Setup) :
    RepliesLaw { p with cmdServer := p.cmdServer.incomingConnection setup } := by
  have hnew : ∀ c, ((p.cmdServer.incomingConnection setup).sockets.get
      p.cmdServer.sockets.length) = some c → c.written = [] := by
    intro c hget
    rw [LightControllerSslsock.incomingConnection] at hget
    split at hget
    case isTrue =>
      rw [get_create, if_pos rfl, Option.some.injEq] at hget
      rw [← hget, LightControllerSslsock.startServerEncryption]
      split_ifs <;> rfl
    case isFalse =>
      rw [get_delete, if_pos rfl] at hget
      cases hget
  constructor
  · intro i c hget
    by_cases hi : i = p.cmdServer.sockets.length
    · exact ⟨0, hnew c (hi ▸ hget)⟩
    · exact hp.whole i c (((incomingConnection_get p.cmdServer setup).2 i hi).symm.trans hget)
  · refine le_trans (le_of_eq ?_) hp.bounded
    show (p.cmdServer.incomingConnection setup).sockets.total _ = _
    rw [LightControllerSslsock.incomingConnection]
    split
    case isTrue hset =>
      have hget := hnew (LightControllerSslsock.startServerEncryption setup
        { ServerSocket.new with connected := true }) (by
          rw [LightControllerSslsock.incomingConnection, if_pos hset, get_create, if_pos rfl])
      rw [total_create, hget, List.length_nil, Nat.add_zero]
    case isFalse => exact total_delete_create

/-- A delivery writes one reply at most, and only to `get_light_state`. -/
lemma RepliesLaw.delivered (hp : RepliesLaw p) {k : ℕ} {c : ServerSocket} (r : BitVec 32)
    (hget : p.cmdServer.sockets.get k = some c) : RepliesLaw (p.delivered k c r) := by
  rcases hp.whole k c hget with ⟨n, hn⟩
  refine hp.assign hget (delivered_sockets p k c r) ?_ ?_
  · rcases served_written c with hsame | ⟨hreply, -, -⟩
    · exact ⟨n, hsame.trans hn⟩
    · refine ⟨n + 1, ?_⟩
      rw [hreply, hn, List.replicate_succ', List.flatten_append, List.flatten_singleton]
  · rw [delivered_executed, List.count_append, Nat.mul_add]
    rcases served_written c with hsame | ⟨hreply, hlong, hcmd⟩
    · rw [hsame]
      omega
    · rw [hreply, if_neg (Nat.not_lt.mpr hlong), hcmd, List.count_singleton_self,
        List.length_append]
      omega

lemma step_repliesLaw (hp : RepliesLaw p) (h : p.step charSigned e = some p') :
    RepliesLaw p' := by
  rcases step_server h with ⟨setup, rfl, rfl⟩ | ⟨-, ⟨hsame, hexecuted⟩ |
      ⟨k, c, c', hget, hwaits, hassign, hexecuted⟩ | ⟨k, c, r, hderef, rfl⟩⟩
  · exact hp.incomingConnection setup
  · constructor
    · rw [hsame]
      exact hp.whole
    · rw [hsame, hexecuted]
      exact hp.bounded
  · rcases hp.whole k c hget with ⟨n, hn⟩
    exact hp.assign hget hassign ⟨n, hwaits.2.1.trans hn⟩ (by rw [hwaits.2.1, hexecuted])
  · exact hp.delivered r (LightControllerSslsock.deref_eq_some.mp hderef).2

/-- **What the clients get back.**  In every state of every run, each connection has got whole
replies and nothing else, and all connections together have got at most one reply for each
`get_light_state` that was executed. -/
theorem replies_law
    (h : run (step charSigned) (start charSigned clock lightLast powerLast io) es = some p) :
    (∀ i c, p.cmdServer.sockets.get i = some c →
      ∃ n, c.written = (List.replicate n responseLine.toLatin1).flatten) ∧
    p.cmdServer.sockets.total (fun c => c.written.length)
      ≤ responseLine.toLatin1.length * p.executed.count getLightState := by
  have hlaw : RepliesLaw p := by
    refine run_invariant (I := RepliesLaw) (fun _ _ _ => step_repliesLaw) es ⟨?_, Nat.zero_le _⟩ h
    intro i c hget
    rw [start, LightControllerSslsock.new, Objects.get, List.getElem?_nil] at hget
    cases hget
  exact ⟨hlaw.whole, hlaw.bounded⟩

/-- The second of two clients asks for the state and gets one reply. -/
theorem replies_law_twoClients :
    ∃ p, run (step false) (start false 0 0 0 ⟨0, some 0, some 0⟩)
        (twoClients ++ [.readyRead 1 0]) = some p ∧
      p.cmdServer.sockets.total (fun c => c.written.length) ≤ reply.length * 1 := by
  have h : run (step false) (start false 0 0 0 ⟨0, some 0, some 0⟩)
      (twoClients ++ [.readyRead 1 0]) = some _ := rfl
  exact ⟨_, h, (replies_law h).2⟩

end Start

end Program

end LightControl
