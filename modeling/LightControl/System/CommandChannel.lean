import LightControl.Controller.LineReader
import LightControl.RemoteUi.NullSafety
import Mathlib.Data.List.Flatten

/-!
# Commands on their way

The remote UI writes its commands as bare words, one behind the other, and the controller takes
what it reads in one go for one command.  Between the two is a stream that may cut and join the
bytes as it likes.

* `commands_eq_iff` — for words of any kind, the controller sees the words exactly if each
  segment is one of them.
* `noLostCommand_iff` — the same from the slots of the remote UI to `command_proc`.
-/

namespace LightControl

open QString Runs Transducer

/-! ## Words -/

/-- Plain text in one line that a single read takes, long enough not to end the program. -/
def Word (t : QString) : Prop :=
  Plain t ∧ (10 : UInt16) ∉ t ∧ 2 ≤ t.length ∧ t.length < 256

instance (t : QString) : Decidable (Word t) :=
  inferInstanceAs (Decidable (Plain t ∧ (10 : UInt16) ∉ t ∧ 2 ≤ t.length ∧ t.length < 256))

lemma Word.length_toUtf8 {t : QString} (ht : Word t) : t.toUtf8.length = t.length := by
  rw [toUtf8_plain ht.1, List.length_map]

lemma Word.not_mem_toUtf8 {t : QString} (ht : Word t) : (10 : UInt8) ∉ t.toUtf8 := by
  rw [toUtf8_plain ht.1, List.mem_map]
  rintro ⟨u, hu, heq⟩
  have hu10 : u = 10 := by
    have hsmall := (ht.1 u hu).2
    have hnat : u.toNat = 10 := by
      have := congrArg UInt8.toNat heq
      rw [UInt8.toNat_ofNat', Nat.mod_eq_of_lt (by omega)] at this
      exact this
    exact UInt16.toNat_inj.mp hnat
  exact ht.2.1 (hu10 ▸ hu)

/-- Dropping some of the pieces loses bytes, unless there is nothing to drop. -/
lemma filter_eq_self_of_length {α : Type*} {q : List α → Bool} {pieces : List (List α)}
    (hne : ∀ piece ∈ pieces, piece ≠ [])
    (hle : pieces.flatten.length ≤ (pieces.filter q).flatten.length) :
    pieces.filter q = pieces := by
  induction pieces with
  | nil => rfl
  | cons piece pieces ih =>
      have hrest : (pieces.filter q).flatten.length ≤ pieces.flatten.length :=
        (List.filter_sublist.flatten).length_le
      cases hq : q piece with
      | true =>
          rw [List.filter_cons_of_pos hq] at hle ⊢
          have hkept : pieces.filter q = pieces := by
            refine ih ?_ (by simpa using hle)
            intro l hl
            exact hne l (List.mem_cons_of_mem piece hl)
          rw [hkept]
      | false =>
          have hpos := List.length_pos_of_ne_nil (hne piece (by simp))
          rw [List.filter_cons_of_neg (by simp [hq]), List.flatten_cons, List.length_append] at hle
          omega

/-- If the commands are the words, then the lines are as long as the words: none of them was too
short to be a command. -/
lemma length_lines_of_commands {words : List QString} (hwords : ∀ t ∈ words, Word t)
    {lines : List (List UInt8)} {rest : List UInt8} (hne : ∀ line ∈ lines, line ≠ [])
    (harrived : lines.flatten ++ rest = (words.map toUtf8).flatten)
    (hcommands : commands lines = words) :
    lines.map List.length = (words.map toUtf8).map List.length := by
  have hwordLengths : (words.map toUtf8).map List.length = words.map List.length := by
    rw [List.map_map]
    refine List.map_congr_left ?_
    intro t ht
    exact (hwords t ht).length_toUtf8
  -- every line is plain, so a command is as long as its line
  have hplain : ∀ line ∈ lines, ∀ b ∈ line, 0 < b.toNat ∧ b.toNat < 0x80 := by
    intro line hline b hb
    have hmem : b ∈ (words.map toUtf8).flatten := by
      rw [← harrived]
      exact List.mem_append_left _ (List.mem_flatten.mpr ⟨line, hline, hb⟩)
    rcases List.mem_flatten.mp hmem with ⟨bytes, hbytes, hb'⟩
    rcases List.mem_map.mp hbytes with ⟨t, ht, rfl⟩
    exact toUtf8_bytes (hwords t ht).1 b hb'
  have hkeptLengths : (lines.filter fun line => 2 ≤ line.length).map List.length
      = words.map List.length := by
    rw [← hcommands, commands, List.map_map]
    refine List.map_congr_left ?_
    intro line hline
    rw [Function.comp_apply, fromUtf8_plain (hplain line (List.mem_of_mem_filter hline)),
      List.length_map]
  -- so no line is dropped, or there would be too few bytes in the commands
  have htotal : lines.flatten.length
      ≤ (lines.filter fun line => 2 ≤ line.length).flatten.length := by
    calc lines.flatten.length ≤ (lines.flatten ++ rest).length := by
          rw [List.length_append]
          exact Nat.le_add_right _ _
      _ = (words.map List.length).sum := by
          rw [harrived, List.length_flatten, hwordLengths]
      _ = (lines.filter fun line => 2 ≤ line.length).flatten.length := by
          rw [List.length_flatten, hkeptLengths]
  have hkept := filter_eq_self_of_length hne htotal
  rw [hwordLengths, ← hkeptLengths, hkept]

lemma commands_words {words : List QString} (hwords : ∀ t ∈ words, Word t)
    (hend : (10 : UInt8) ∉ (words.map toUtf8).flatten) :
    commands (feed lineStep [] (words.map toUtf8)).2 = words := by
  have hfit : ∀ segment ∈ words.map toUtf8, 2 ≤ segment.length ∧ segment.length ≤ 256 := by
    intro segment hsegment
    rcases List.mem_map.mp hsegment with ⟨t, ht, rfl⟩
    rw [(hwords t ht).length_toUtf8]
    exact ⟨(hwords t ht).2.2.1, Nat.le_of_lt (hwords t ht).2.2.2⟩
  have hshort : ∀ segment ∈ words.map toUtf8, segment.length ≤ 256 := by
    intro segment hsegment
    exact (hfit segment hsegment).2
  have hall : ((words.map toUtf8).filter fun line => 2 ≤ line.length) = words.map toUtf8 := by
    rw [List.filter_eq_self]
    intro segment hsegment
    exact decide_eq_true (hfit segment hsegment).1
  have hid : ∀ t ∈ words, (fromUtf8 ∘ toUtf8) t = t := by
    intro t ht
    exact fromUtf8_toUtf8_of_plain (hwords t ht).1
  rw [lines_of_short hend hshort, commands, hall, List.map_map, List.map_congr_left hid,
    List.map_id']

/-- **Words survive exactly if each has a segment of its own.** -/
theorem commands_eq_iff {words : List QString} (hwords : ∀ t ∈ words, Word t)
    {segments : List (List UInt8)} (hne : ∀ segment ∈ segments, segment ≠ [])
    (hstream : segments.flatten = (words.map toUtf8).flatten) :
    commands (feed lineStep [] segments).2 = words ↔ segments = words.map toUtf8 := by
  have hend : (10 : UInt8) ∉ segments.flatten := by
    rw [hstream, List.mem_flatten]
    rintro ⟨l, hl, hmem⟩
    rcases List.mem_map.mp hl with ⟨t, ht, rfl⟩
    exact (hwords t ht).not_mem_toUtf8 hmem
  constructor
  · intro hcommands
    have harrived : (feed lineStep [] segments).2.flatten ++ (feed lineStep [] segments).1
        = (words.map toUtf8).flatten := by
      rw [lines_flatten, List.nil_append, hstream]
    have hlengths := length_lines_of_commands hwords (lines_ne_nil hne) harrived hcommands
    -- the lines are as long as the words, so they are the segments
    have hsegments : (feed lineStep [] segments).2 = segments := by
      refine lines_eq_segments hend ?_
      intro line hline
      have hmem : line.length ∈ (words.map toUtf8).map List.length := by
        rw [← hlengths]
        exact List.mem_map_of_mem hline
      rcases List.mem_map.mp hmem with ⟨bytes, hbytes, hlen⟩
      rcases List.mem_map.mp hbytes with ⟨t, ht, rfl⟩
      rw [← hlen, (hwords t ht).length_toUtf8]
      exact (hwords t ht).2.2.2
    rw [hsegments] at hlengths
    exact List.eq_iff_flatten_eq.mpr ⟨hstream, hlengths⟩
  · rintro rfl
    exact commands_words hwords hend

/-! ## The remote UI -/

/-- What the slots of the remote UI send. -/
inductive RemoteCommand
  | toggleOnOff
  | resetToDefault
  | getLightState
  deriving DecidableEq, Repr

namespace RemoteCommand

/-- The event whose slot sends the command. -/
def event : RemoteCommand → UiEvent
  | toggleOnOff => .toggleOnOff
  | resetToDefault => .resetToDefault
  | getLightState => .lightStatePoll

/-- The text of the command. -/
def text : RemoteCommand → QString
  | toggleOnOff => LightControl.toggleOnOff
  | resetToDefault => LightControl.resetToDefault
  | getLightState => LightControl.getLightState

lemma word_text (cmd : RemoteCommand) : Word cmd.text := by
  cases cmd <;> decide

end RemoteCommand

namespace LightControllerRemoteUi

/-- The client is connected, the controls are enabled, and `bytes` were written so far. -/
def Linked (ui : LightControllerRemoteUi) (bytes : List UInt8) : Prop :=
  ui.controlsEnabled = true ∧ ∃ s, ui.lightControllerConnection.socket = some s ∧
    s.state = .connected ∧ s.written = bytes

lemma step_command {ui : LightControllerRemoteUi} {bytes : List UInt8} (hui : ui.Linked bytes)
    (cmd : RemoteCommand) :
    ∃ ui', ui.step cmd.event = some ui' ∧ ui'.Linked (bytes ++ cmd.text.toUtf8) := by
  rcases hui with ⟨henabled, s, hs, hstate, rfl⟩
  have hsend : ui.lightControllerConnection.sendData cmd.text
      = some { ui.lightControllerConnection with
          socket := some { s with written := s.written ++ cmd.text.toUtf8 } } := by
    rw [SslClient.sendData, hs, Option.map_some, if_pos hstate]
  refine ⟨{ ui with lightControllerConnection := { ui.lightControllerConnection with
      socket := some { s with written := s.written ++ cmd.text.toUtf8 } } }, ?_, henabled, _, rfl,
    hstate, rfl⟩
  have hsent := congrArg ui.onClient hsend
  cases cmd with
  | toggleOnOff => exact (if_pos henabled).trans hsent
  | resetToDefault => exact (if_pos henabled).trans hsent
  | getLightState =>
      have hpoll : ui.readRemoteLightController
          = ui.lightControllerConnection.sendData getLightState := by
        rw [readRemoteLightController, SslClient.getSocketState, hs, Option.map_some,
          Option.bind_some, if_pos hstate]
      exact (congrArg ui.onClient hpoll).trans hsent

/-- **A sequence of commands** is written one behind the other. -/
theorem run_commands (cmds : List RemoteCommand) {ui : LightControllerRemoteUi}
    {bytes : List UInt8} (hui : ui.Linked bytes) :
    ∃ ui', run step ui (cmds.map RemoteCommand.event) = some ui' ∧
      ui'.Linked (bytes ++ ((cmds.map RemoteCommand.text).map toUtf8).flatten) := by
  induction cmds generalizing ui bytes with
  | nil => exact ⟨ui, rfl, by simpa using hui⟩
  | cons cmd cmds ih =>
      rcases step_command hui cmd with ⟨ui₁, hstep, hui₁⟩
      rcases ih hui₁ with ⟨ui₂, hrun, hui₂⟩
      refine ⟨ui₂, ?_, ?_⟩
      · rw [List.map_cons, run_cons, hstep, Option.bind_some, hrun]
      · simpa [List.append_assoc] using hui₂

end LightControllerRemoteUi

/-! ## From the slots of the remote UI to `command_proc` -/

namespace CommandChannel

/-- The remote UI when it has found the controller and is connected. -/
def connectedUi : LightControllerRemoteUi :=
  (run LightControllerRemoteUi.step (.start 0)
    [.resolverFound (literal "hall") ⟨literal "fe80::1", 48049, .inet6⟩,
      .timeout fun _ => ⟨[⟨.connecting, SocketState.inProgress_connecting⟩], false⟩,
      .stateChanged .connected]).getD (.start 0)

/-- The controller when a client has connected and its certificate is verified. -/
def connectedProgram : Program :=
  (run (Program.step false) (.start false 0 0 0 ⟨0, some 0, some 0⟩)
    [.incomingConnection ⟨true, true, true, true⟩, .handshakeEnds 0 true]).getD
    (.start false 0 0 0 ⟨0, some 0, some 0⟩)

lemma connectedUi_linked : connectedUi.Linked [] :=
  ⟨rfl, _, rfl, rfl, rfl⟩

lemma connectedProgram_serves : connectedProgram.Serves 0 [] :=
  ⟨_, rfl, rfl, by decide, rfl⟩

end CommandChannel

/-- **Which streams lose no command.**  From a remote UI that is connected and a controller that
serves the connection and has nothing unread: whatever commands the slots send, and however the
bytes they write are cut into segments, the deliveries go through, and `command_proc` sees exactly
the commands sent if and only if each segment is one command. -/
theorem noLostCommand_iff (charSigned : Bool) {ui ui' : LightControllerRemoteUi} {p : Program}
    {i : ℕ} {before : List UInt8} (hui : ui.Linked before) (hp : p.Serves i [])
    (cmds : List RemoteCommand)
    (hsent : run LightControllerRemoteUi.step ui (cmds.map RemoteCommand.event) = some ui')
    (ds : List (List UInt8 × BitVec 32)) (hne : ∀ d ∈ ds, d.1 ≠ [])
    (hstream : ui'.Linked (before ++ (ds.map Prod.fst).flatten)) :
    ∃ p', run (Program.step charSigned) p (ds.flatMap (Program.deliver i)) = some p' ∧
      (p'.executed = p.executed ++ cmds.map RemoteCommand.text ↔
        ds.map Prod.fst = (cmds.map RemoteCommand.text).map toUtf8) := by
  rcases LightControllerRemoteUi.run_commands cmds hui with ⟨ui₁, hsent₁, hui₁⟩
  obtain rfl : ui₁ = ui' := Option.some.inj (hsent₁.symm.trans hsent)
  have hbytes : (ds.map Prod.fst).flatten
      = ((cmds.map RemoteCommand.text).map toUtf8).flatten := by
    rcases hstream with ⟨-, s, hs, -, hwritten⟩
    rcases hui₁ with ⟨-, s₁, hs₁, -, hwritten₁⟩
    obtain rfl : s = s₁ := Option.some.inj (hs.symm.trans hs₁)
    exact List.append_cancel_left (hwritten.symm.trans hwritten₁)
  rcases Program.run_deliveries charSigned ds hp with ⟨p', hrun, -, hexec, -⟩
  refine ⟨p', hrun, ?_⟩
  rw [hexec, List.append_right_inj]
  refine commands_eq_iff ?_ ?_ hbytes
  · intro t ht
    rcases List.mem_map.mp ht with ⟨cmd, -, rfl⟩
    exact cmd.word_text
  · intro segment hsegment
    rcases List.mem_map.mp hsegment with ⟨d, hd, rfl⟩
    exact hne d hd

/-- A toggle and a poll in segments of their own. -/
theorem noLostCommand_separate :
    ∃ p', run (Program.step false) CommandChannel.connectedProgram
        ([(toggleOnOff.toUtf8, 0), (getLightState.toUtf8, 0)].flatMap (Program.deliver 0))
          = some p' ∧
      p'.executed = [toggleOnOff, getLightState] := by
  obtain ⟨p', hrun, hiff⟩ := noLostCommand_iff false CommandChannel.connectedUi_linked
    CommandChannel.connectedProgram_serves [.toggleOnOff, .getLightState] rfl
    [(toggleOnOff.toUtf8, 0), (getLightState.toUtf8, 0)] (by decide) ⟨rfl, _, rfl, rfl, rfl⟩
  exact ⟨p', hrun, hiff.mpr rfl⟩

/-- **A toggle and a poll in one segment are lost**: the window gets one command, which it does
not know. -/
theorem not_noLostCommand :
    ¬ ∀ (charSigned : Bool) (ui ui' : LightControllerRemoteUi) (p : Program) (i : ℕ)
      (before : List UInt8), ui.Linked before → p.Serves i [] → ∀ cmds : List RemoteCommand,
        run LightControllerRemoteUi.step ui (cmds.map RemoteCommand.event) = some ui' →
        ∀ ds : List (List UInt8 × BitVec 32), (∀ d ∈ ds, d.1 ≠ []) →
          ui'.Linked (before ++ (ds.map Prod.fst).flatten) →
          ∃ p', run (Program.step charSigned) p (ds.flatMap (Program.deliver i)) = some p' ∧
            p'.executed = p.executed ++ cmds.map RemoteCommand.text := by
  intro h
  obtain ⟨ui', hsent, hui'⟩ := LightControllerRemoteUi.run_commands
    [.toggleOnOff, .getLightState] CommandChannel.connectedUi_linked
  obtain ⟨p', hrun, hexec⟩ := h false _ ui' _ 0 [] CommandChannel.connectedUi_linked
    CommandChannel.connectedProgram_serves _ hsent
    [(toggleOnOff.toUtf8 ++ getLightState.toUtf8, 0)] (by decide) hui'
  obtain ⟨p₁, hrun₁, -, hexec₁, -⟩ := Program.run_deliveries false
    [(toggleOnOff.toUtf8 ++ getLightState.toUtf8, 0)] CommandChannel.connectedProgram_serves
  obtain rfl : p' = p₁ := Option.some.inj (hrun.symm.trans hrun₁)
  rw [hexec, List.append_right_inj] at hexec₁
  revert hexec₁
  decide

end LightControl
