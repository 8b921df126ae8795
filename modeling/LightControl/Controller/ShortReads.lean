import LightControl.Controller.LineReader
import LightControl.Controller.Shutdown

/-!
# Clients and the end of the program

A delivery that reads fewer than two bytes is taken for the end of the client's input and ends the
program; every other line is at most ignored.  Which lines are read depends on how the client's
bytes are cut into segments, so `deliveries_quit_iff` speaks of the bytes that are unread when a
segment has arrived.

The lines are read from the connection that the member `socket` points to.  When that is not the
client's, the client's segments bring nothing that could be read (`seen`).
-/

namespace LightControl.Program

open Objects Runs Transducer

/-! ## The segments of any client -/

/-- The connection `i` is that of a client whose bytes are passed on. -/
def Delivers (p : Program) (i : ℕ) : Prop :=
  ∃ ci, p.cmdServer.sockets.get i = some ci ∧ ci.PassesOn

/-- What a segment on connection `i` brings to the connection `k`. -/
def seen (i k : ℕ) (segment : List UInt8) : List UInt8 := if k = i then segment else []

/-- One delivery that connection `i` raises, as the connection `k` sees it that the member points
to. -/
lemma run_deliver_seen (charSigned : Bool) {p : Program} {i k : ℕ} {c : ServerSocket}
    (hclient : p.Delivers i) (hderef : p.cmdServer.deref = some (k, c))
    (d : List UInt8 × BitVec 32) :
    ∃ p' c', run (step charSigned) p (deliver i d) = some p' ∧ p'.Delivers i ∧
      p'.cmdServer.deref = some (k, c') ∧ c'.buffer = (lineStep c.buffer (seen i k d.1)).1 ∧
      p'.exits = p.exits ++ quits p.powerControlGpio (lineStep c.buffer (seen i k d.1)).2 ∧
      p'.powerControlGpio = p.powerControlGpio := by
  rcases hclient with ⟨ci, hci, hpass⟩
  have hget := (LightControllerSslsock.deref_eq_some.mp hderef).2
  by_cases hk : k = i
  · -- the client is the one served
    subst hk
    obtain rfl : ci = c := Option.some.inj (hci.symm.trans hget)
    rcases run_deliver charSigned ⟨ci, hderef, hpass.1, hpass.2, rfl⟩ d with
      ⟨p', hrun, ⟨c', hderef', hconn, hmode, hbuffer⟩, -, hexits, hgpio⟩
    have hget' := (LightControllerSslsock.deref_eq_some.mp hderef').2
    rw [seen, if_pos rfl]
    exact ⟨p', c', hrun, ⟨c', hget', hconn, hmode⟩, hderef', hbuffer, hexits, hgpio⟩
  · -- the segment stays with the client's own connection
    let c₁ : ServerSocket := { ci with buffer := ci.buffer ++ d.1 }
    let p₁ : Program := { p with cmdServer := p.cmdServer.assign i c₁ }
    have hsome : (p.cmdServer.sockets.get i).isSome := Option.isSome_of_eq_some hci
    have harrive : p.step charSigned (.bytesArrive i d.1) = some p₁ := by
      rw [step, LightControllerSslsock.bytesArrive_eq hci hpass.1 hpass.2]
    have hget₁ : p₁.cmdServer.sockets.get k = some c := by
      show (p.cmdServer.sockets.assign i c₁).get k = some c
      rw [get_assign hsome, if_neg hk, hget]
    have hci₁ : p₁.cmdServer.sockets.get i = some c₁ := by
      show (p.cmdServer.sockets.assign i c₁).get i = some c₁
      rw [get_assign hsome, if_pos rfl]
    have hderef₁ : p₁.cmdServer.deref = some (k, c) := by
      refine LightControllerSslsock.deref_eq_some.mpr ⟨?_, hget₁⟩
      exact (LightControllerSslsock.deref_eq_some.mp hderef).1
    have hread : p₁.step charSigned (.readyRead i d.2) = some (p₁.delivered k c d.2) :=
      readyRead_eq d.2 (Option.isSome_of_eq_some hci₁) hderef₁
    have hline : lineStep c.buffer (seen i k d.1)
        = (c.buffer.drop (readLine 256 c.buffer).length, [readLine 256 c.buffer]) := by
      rw [seen, if_neg hk, lineStep, List.append_nil]
    rw [hline]
    refine ⟨p₁.delivered k c d.2, served c, ?_, ⟨c₁, ?_, hpass⟩, delivered_deref hderef₁ d.2,
      served_buffer c, ?_, delivered_powerControlGpio p₁ k c d.2⟩
    · rw [deliver, run_cons, harrive, Option.bind_some, run_cons, hread, Option.bind_some, run_nil]
    · rw [delivered_sockets, get_assign (Option.isSome_of_eq_some hget₁), if_neg (Ne.symm hk), hci₁]
    · rw [delivered_exits, quits_singleton]
      rfl

lemma run_deliveries_seen (charSigned : Bool) {i k : ℕ} (ds : List (List UInt8 × BitVec 32))
    {p : Program} {c : ServerSocket} (hclient : p.Delivers i)
    (hderef : p.cmdServer.deref = some (k, c)) :
    ∃ p', run (step charSigned) p (ds.flatMap (deliver i)) = some p' ∧
      p'.exits = p.exits ++ quits p.powerControlGpio
        (feed lineStep c.buffer (ds.map fun d => seen i k d.1)).2 := by
  induction ds generalizing p c with
  | nil => exact ⟨p, rfl, by simp [quits]⟩
  | cons d ds ih =>
      rcases run_deliver_seen charSigned hclient hderef d with
        ⟨p₁, c₁, hrun₁, hclient₁, hderef₁, hbuffer₁, hexits₁, hgpio₁⟩
      rcases ih hclient₁ hderef₁ with ⟨p₂, hrun₂, hexits₂⟩
      refine ⟨p₂, ?_, ?_⟩
      · rw [List.flatMap_cons, run_append, hrun₁, Option.bind_some, hrun₂]
      · rw [hexits₂, hexits₁, hgpio₁, hbuffer₁, List.map_cons, feed_cons, quits_append,
          List.append_assoc]

/-! ## When the program ends -/

/-- Every line read is long enough exactly if no arrival leaves a short read. -/
lemma lines_long_iff (buffer : List UInt8) (segments : List (List UInt8)) :
    (∀ line ∈ (feed lineStep buffer segments).2, ¬ line.length < 2) ↔
      ∀ pre segment post, segments = pre ++ segment :: post →
        ¬ ShortRead ((feed lineStep buffer pre).1 ++ segment) := by
  constructor
  · intro h pre segment post heq hshort
    refine h _ ((mem_feed_iff segments buffer).mpr
      ⟨pre, segment, post, heq, List.mem_singleton.mpr rfl⟩) ?_
    exact (readLine_length_lt_two (by decide) _).mpr hshort
  · intro h line hmem hshort
    rcases (mem_feed_iff segments buffer).mp hmem with ⟨pre, segment, post, heq, hline⟩
    rw [lineStep, List.mem_singleton] at hline
    rw [hline] at hshort
    exact h pre segment post heq ((readLine_length_lt_two (by decide) _).mp hshort)

/-- **When a client ends the program.**  From any state, with anything unread on the connection `k`
that the slots work on, and for any bytes of a connected client cut in any way: the deliveries go
through, and the program asks to leave the event loop in none of them if and only if, at no
arrival, fewer than two bytes are unread there or the unread bytes begin with a line end. -/
theorem deliveries_quit_iff (charSigned : Bool) {p : Program} {i k : ℕ} {c : ServerSocket}
    (hclient : p.Delivers i) (hderef : p.cmdServer.deref = some (k, c))
    (ds : List (List UInt8 × BitVec 32)) :
    ∃ p', run (step charSigned) p (ds.flatMap (deliver i)) = some p' ∧
      (p'.exits = p.exits ↔
        ∀ pre segment post, (ds.map fun d => seen i k d.1) = pre ++ segment :: post →
          ¬ ShortRead ((feed lineStep c.buffer pre).1 ++ segment)) := by
  rcases run_deliveries_seen charSigned ds hclient hderef with ⟨p', hrun, hexits⟩
  refine ⟨p', hrun, ?_⟩
  rw [hexits, List.append_right_eq_self, quits_eq_nil_iff, lines_long_iff]

/-- A client connects and is verified. -/
def verifiedClient : List Event :=
  [.incomingConnection ⟨true, true, true, true⟩, .handshakeEnds 0 true]

lemma verifiedClient_delivers :
    ∃ p c, run (step false) (start false 0 0 0 ⟨0, some 0, some 0⟩) verifiedClient = some p ∧
      p.Delivers 0 ∧ p.cmdServer.deref = some (0, c) ∧ c.buffer = [] :=
  ⟨_, _, rfl, ⟨_, rfl, rfl, by decide⟩, rfl, rfl⟩

/-- A command in one segment. -/
theorem deliveries_quit_toggle :
    ∃ p p', run (step false) (start false 0 0 0 ⟨0, some 0, some 0⟩) verifiedClient = some p ∧
      run (step false) p ([(toggleOnOff.toUtf8, 0)].flatMap (deliver 0)) = some p' ∧
      p'.exits = p.exits := by
  rcases verifiedClient_delivers with ⟨p, c, hrun, hclient, hderef, hbuffer⟩
  rcases deliveries_quit_iff false hclient hderef [(toggleOnOff.toUtf8, 0)] with ⟨p', hrun', hiff⟩
  refine ⟨p, p', hrun, hrun', hiff.mpr ?_⟩
  intro pre segment post heq
  rw [hbuffer]
  cases pre with
  | nil =>
      simp only [List.map_cons, List.map_nil, List.nil_append, List.cons.injEq] at heq
      rw [← heq.1]
      decide
  | cons s pre => simp at heq

/-- **A client can end the program**: it sends a line end and nothing else. -/
theorem not_deliveries_quit :
    ¬ ∀ (charSigned : Bool) (clock : ℕ) (lightLast powerLast : ℤ) (io : I2cOutcome)
      (es : List Event) (p : Program) (i k : ℕ) (c : ServerSocket),
      run (step charSigned) (start charSigned clock lightLast powerLast io) es = some p →
      p.Delivers i → p.cmdServer.deref = some (k, c) →
      ∀ ds : List (List UInt8 × BitVec 32), (∀ d ∈ ds, d.1 ≠ []) →
      ∀ p', run (step charSigned) p (ds.flatMap (deliver i)) = some p' → p'.exits = p.exits := by
  intro h
  have hexits := h false 0 0 0 ⟨0, some 0, some 0⟩ verifiedClient _ 0 0 _ rfl
    ⟨_, rfl, rfl, by decide⟩ rfl [([10], 0)] (by decide) _ rfl
  exact absurd hexits (by decide)

end LightControl.Program
