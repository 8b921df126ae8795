import LightControl.Controller.Program
import LightControl.Core.Transducer
import Mathlib.Data.List.Basic

/-!
# One line for each arrival

What `slot_readyRead` makes of the bytes of one connection, as a transducer: every segment that
arrives is put behind what is unread, and one line is read (`lineStep`).

* `run_deliveries` — the program with a connection that is served refines the transducer.
* `lines_flatten`, `lines_eq_segments` — nothing is lost between the segments and the lines, and
  the lines are the segments as long as all of them are short and no line end arrives.
-/

namespace LightControl

open Transducer

/-- One segment arrives and one line is read. -/
def lineStep (buffer segment : List UInt8) : List UInt8 × List (List UInt8) :=
  ((buffer ++ segment).drop (readLine 256 (buffer ++ segment)).length,
    [readLine 256 (buffer ++ segment)])

/-- The lines that are commands to the window. -/
def commands (lines : List (List UInt8)) : List QString :=
  (lines.filter fun line => 2 ≤ line.length).map QString.fromUtf8

lemma commands_singleton (line : List UInt8) :
    commands [line] = if line.length < 2 then [] else [QString.fromUtf8 line] := by
  by_cases hshort : line.length < 2
  · simp [commands, hshort, Nat.not_le.mpr hshort]
  · simp [commands, hshort, Nat.not_lt.mp hshort]

lemma commands_append (lines lines' : List (List UInt8)) :
    commands (lines ++ lines') = commands lines ++ commands lines' := by
  simp [commands]

/-- What the lines that are too short add to the exits, at a value of the GPIO. -/
def quits (gpio : GpioValue) (lines : List (List UInt8)) : List GpioValue :=
  (lines.filter fun line => line.length < 2).map fun _ => gpio

lemma quits_singleton (gpio : GpioValue) (line : List UInt8) :
    quits gpio [line] = if line.length < 2 then [gpio] else [] := by
  simp only [quits, List.filter_cons, List.filter_nil, decide_eq_true_eq]
  split <;> rfl

lemma quits_append (gpio : GpioValue) (lines lines' : List (List UInt8)) :
    quits gpio (lines ++ lines') = quits gpio lines ++ quits gpio lines' := by
  simp [quits]

lemma quits_eq_nil_iff {gpio : GpioValue} {lines : List (List UInt8)} :
    quits gpio lines = [] ↔ ∀ line ∈ lines, ¬ line.length < 2 := by
  simp [quits, List.filter_eq_nil_iff]

/-! ## The lines -/

/-- The lines and what is left unread are the bytes that arrived. -/
lemma lines_flatten (segments : List (List UInt8)) (buffer : List UInt8) :
    (feed lineStep buffer segments).2.flatten ++ (feed lineStep buffer segments).1
      = buffer ++ segments.flatten := by
  induction segments generalizing buffer with
  | nil => simp
  | cons segment segments ih =>
      rw [feed_cons]
      simp only [List.flatten_append, List.append_assoc, ih]
      simp only [lineStep, List.flatten_cons, List.flatten_nil, List.append_nil]
      rw [← List.append_assoc, readLine_append_drop, List.append_assoc]

lemma lines_ne_nil {segments : List (List UInt8)} (h : ∀ segment ∈ segments, segment ≠ []) :
    ∀ {buffer : List UInt8}, ∀ line ∈ (feed lineStep buffer segments).2, line ≠ [] := by
  induction segments with
  | nil => simp
  | cons segment segments ih =>
      intro buffer line hmem
      rw [feed_cons, List.mem_append] at hmem
      rcases hmem with hmem | hmem
      · rw [lineStep, List.mem_singleton] at hmem
        rw [hmem, Ne, readLine_eq_nil_iff (by decide)]
        intro hnil
        exact h segment (by simp) (List.append_eq_nil_iff.mp hnil).2
      · refine ih ?_ line hmem
        intro s hs
        exact h s (List.mem_cons_of_mem segment hs)

/-- Lines that are all shorter than the limit, of bytes without a line end, are the segments. -/
lemma lines_eq_segments {segments : List (List UInt8)} (hend : (10 : UInt8) ∉ segments.flatten)
    (hshort : ∀ line ∈ (feed lineStep [] segments).2, line.length < 256) :
    (feed lineStep [] segments).2 = segments := by
  induction segments with
  | nil => rfl
  | cons segment segments ih =>
      rw [List.flatten_cons, List.mem_append, not_or] at hend
      have hline : readLine 256 segment = segment := by
        refine readLine_eq_self hend.1 (hshort _ ?_)
        simp [feed_cons, lineStep]
      have hstep : lineStep [] segment = ([], [segment]) := by
        simp [lineStep, hline]
      rw [feed_cons, hstep] at hshort ⊢
      have hrest : (feed lineStep [] segments).2 = segments := by
        refine ih hend.2 ?_
        intro line hmem
        exact hshort line (List.mem_append.mpr (Or.inr hmem))
      rw [hrest]
      rfl

lemma lines_of_short {segments : List (List UInt8)} (hend : (10 : UInt8) ∉ segments.flatten)
    (hshort : ∀ segment ∈ segments, segment.length ≤ 256) :
    feed lineStep [] segments = ([], segments) := by
  induction segments with
  | nil => rfl
  | cons segment segments ih =>
      rw [List.flatten_cons, List.mem_append, not_or] at hend
      have hline : readLine 256 segment = segment :=
        readLine_of_length_le hend.1 (hshort segment (by simp))
      have hstep : lineStep [] segment = ([], [segment]) := by
        simp [lineStep, hline]
      have hrest : feed lineStep [] segments = ([], segments) := by
        refine ih hend.2 ?_
        intro s hs
        exact hshort s (List.mem_cons_of_mem segment hs)
      rw [feed_cons, hstep, hrest]
      rfl

namespace Program

open Objects Runs

/-! ## The program -/

/-- A segment arrives on the connection `i`, which then raises `readyRead`. -/
def deliver (i : ℕ) (d : List UInt8 × BitVec 32) : List Event :=
  [.bytesArrive i d.1, .readyRead i d.2]

/-- The slots work on the connection `i`, which passes on what arrives; `buffer` is unread. -/
def Serves (p : Program) (i : ℕ) (buffer : List UInt8) : Prop :=
  ∃ c, p.cmdServer.deref = some (i, c) ∧ c.connected = true ∧ c.mode ≠ .handshaking ∧
    c.buffer = buffer

/-- One delivery is one step of the transducer. -/
lemma run_deliver (charSigned : Bool) {p : Program} {i : ℕ} {buffer : List UInt8}
    (hp : p.Serves i buffer) (d : List UInt8 × BitVec 32) :
    ∃ p', run (step charSigned) p (deliver i d) = some p' ∧
      p'.Serves i (lineStep buffer d.1).1 ∧
      p'.executed = p.executed ++ commands (lineStep buffer d.1).2 ∧
      p'.exits = p.exits ++ quits p.powerControlGpio (lineStep buffer d.1).2 ∧
      p'.powerControlGpio = p.powerControlGpio := by
  rcases hp with ⟨c, hderef, hconn, hmode, rfl⟩
  have hget := (LightControllerSslsock.deref_eq_some.mp hderef).2
  -- the segment is behind what is unread
  let c₁ : ServerSocket := { c with buffer := c.buffer ++ d.1 }
  let p₁ : Program := { p with cmdServer := p.cmdServer.assign i c₁ }
  have harrive : p.step charSigned (.bytesArrive i d.1) = some p₁ := by
    rw [step, LightControllerSslsock.bytesArrive_eq hget hconn hmode]
  have hderef₁ : p₁.cmdServer.deref = some (i, c₁) := LightControllerSslsock.deref_assign hderef
  have hlive₁ : (p₁.cmdServer.sockets.get i).isSome := by
    rw [(LightControllerSslsock.deref_eq_some.mp hderef₁).2]
    rfl
  -- and one line of it is read
  have hread : p₁.step charSigned (.readyRead i d.2) = some (p₁.delivered i c₁ d.2) :=
    readyRead_eq d.2 hlive₁ hderef₁
  refine ⟨p₁.delivered i c₁ d.2, ?_, ⟨served c₁, delivered_deref hderef₁ d.2, ?_, ?_, ?_⟩, ?_, ?_,
    delivered_powerControlGpio p₁ i c₁ d.2⟩
  · rw [deliver, run_cons, harrive, Option.bind_some, run_cons, hread, Option.bind_some, run_nil]
  · rw [served_connected, hconn]
  · rwa [served_mode]
  · exact served_buffer c₁
  · rw [delivered_executed, lineStep, commands_singleton]
    rfl
  · rw [delivered_exits, lineStep, quits_singleton]
    rfl

/-- **The program refines the transducer**: whatever arrives, the deliveries go through, the
commands that the window sees are the lines that the transducer reads, and its short lines are
the times the program asks to leave the event loop. -/
theorem run_deliveries (charSigned : Bool) {i : ℕ} (ds : List (List UInt8 × BitVec 32))
    {p : Program} {buffer : List UInt8} (hp : p.Serves i buffer) :
    ∃ p', run (step charSigned) p (ds.flatMap (deliver i)) = some p' ∧
      p'.Serves i (feed lineStep buffer (ds.map Prod.fst)).1 ∧
      p'.executed = p.executed ++ commands (feed lineStep buffer (ds.map Prod.fst)).2 ∧
      p'.exits
        = p.exits ++ quits p.powerControlGpio (feed lineStep buffer (ds.map Prod.fst)).2 := by
  induction ds generalizing p buffer with
  | nil => exact ⟨p, rfl, hp, by simp [commands], by simp [quits]⟩
  | cons d ds ih =>
      rcases run_deliver charSigned hp d with ⟨p₁, hrun₁, hserves₁, hexec₁, hexits₁, hgpio⟩
      rcases ih hserves₁ with ⟨p₂, hrun₂, hserves₂, hexec₂, hexits₂⟩
      refine ⟨p₂, ?_, hserves₂, ?_, ?_⟩
      · rw [List.flatMap_cons, run_append, hrun₁, Option.bind_some, hrun₂]
      · rw [hexec₂, hexec₁, List.map_cons, feed_cons, commands_append, List.append_assoc]
      · rw [hexits₂, hexits₁, hgpio, List.map_cons, feed_cons, quits_append, List.append_assoc]

end Program

end LightControl
