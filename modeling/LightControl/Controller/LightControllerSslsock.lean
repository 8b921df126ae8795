import LightControl.Core.Objects
import LightControl.Qt.QString

/-!
# The command server

`light_controller_sslsock.cpp`: every accepted connection gets a socket object of its own, all of
them are wired to the same slots, and one member, `socket`, names the object that the slots work
on.

The socket objects live in a heap of their own (`Core/Objects.lean`), so an access through a
member that is not yet initialised, or that points to a deleted object, is a step that goes wrong.
What the operating system and the key files do when a connection comes in is an input (`Setup`).
-/

namespace LightControl

open Objects

/-- What a socket does with the bytes that arrive: before `startServerEncryption` it delivers
them as they are, during the handshake they belong to the handshake, and after it they are
deciphered. -/
inductive SslMode
  | unencrypted
  | handshaking
  | encrypted
  deriving DecidableEq, Repr

/-- A `QSslSocket` of the server, with the bytes that were read from it, those that have arrived
and are not yet read, and those that were written to it. -/
structure ServerSocket where
  connected : Bool
  mode : SslMode
  taken : List UInt8
  buffer : List UInt8
  written : List UInt8
  deriving DecidableEq, Repr

namespace ServerSocket

/-- `new QSslSocket()`. -/
def new : ServerSocket where
  connected := false
  mode := .unencrypted
  taken := []
  buffer := []
  written := []

/-- What the client has sent so far. -/
def received (c : ServerSocket) : List UInt8 := c.taken ++ c.buffer

/-- What arrives is passed on to the program. -/
def PassesOn (c : ServerSocket) : Prop := c.connected = true ∧ c.mode ≠ .handshaking

/-- `readLine`: the line, and the socket without it. -/
def readLine (c : ServerSocket) (maxSize : ℕ) : List UInt8 × ServerSocket :=
  let line := LightControl.readLine maxSize c.buffer
  (line, { c with taken := c.taken ++ line, buffer := c.buffer.drop line.length })

/-- `write`; a socket that is not connected takes nothing. -/
def write (c : ServerSocket) (data : List UInt8) : ServerSocket :=
  if c.connected then { c with written := c.written ++ data } else c

variable {c : ServerSocket}

lemma readLine_append (c : ServerSocket) (maxSize : ℕ) :
    (c.readLine maxSize).1 ++ (c.readLine maxSize).2.buffer = c.buffer :=
  readLine_append_drop maxSize c.buffer

lemma readLine_of_buffer_nil (c : ServerSocket) (h : c.buffer = []) (maxSize : ℕ) :
    c.readLine maxSize = ([], c) := by
  rcases c with ⟨connected, mode, taken, buffer, written⟩
  obtain rfl : buffer = [] := h
  simp [readLine]

lemma readLine_buffer_ne (c : ServerSocket) (maxSize : ℕ) (hpos : 0 < maxSize) (h : c.buffer ≠ []) :
    (c.readLine maxSize).2.buffer ≠ c.buffer := by
  intro heq
  have hline : (c.readLine maxSize).1 = [] := by
    have happ := c.readLine_append maxSize
    rw [heq] at happ
    simpa using happ
  exact h ((readLine_eq_nil_iff hpos).mp hline)

@[simp] lemma write_buffer (data : List UInt8) : (c.write data).buffer = c.buffer := by
  simp only [write]
  split <;> rfl

@[simp] lemma write_connected (data : List UInt8) :
    (c.write data).connected = c.connected := by
  simp only [write]
  split <;> rfl

@[simp] lemma write_mode (data : List UInt8) : (c.write data).mode = c.mode := by
  simp only [write]
  split <;> rfl

end ServerSocket

/-- How the steps of setting up a connection turn out. -/
structure Setup where
  descriptorSet : Bool
  keyFileOpens : Bool
  keyIsGood : Bool
  caCertificatesAdded : Bool
  deriving DecidableEq, Repr

/-- `light_controller_sslsock`; `socket` is `none` as long as it is not initialised. -/
structure LightControllerSslsock where
  sockets : Objects ServerSocket
  socket : Option ℕ
  currentCommand : QString
  deriving DecidableEq, Repr

/-- What `slot_readyRead` does with the line it read. -/
inductive ReadyRead
  | quit
  | commandReceived (currentCommand : QString)
  deriving DecidableEq, Repr

namespace LightControllerSslsock

/-- The server before the first connection. -/
def new : LightControllerSslsock where
  sockets := []
  socket := none
  currentCommand := []

/-- The object that the member `socket` points to, with its pointer. -/
def deref (s : LightControllerSslsock) : Option (ℕ × ServerSocket) :=
  s.socket.bind fun p => (s.sockets.get p).map fun c => (p, c)

/-- An assignment to the object behind a pointer. -/
def assign (s : LightControllerSslsock) (p : ℕ) (c : ServerSocket) : LightControllerSslsock :=
  { s with sockets := s.sockets.assign p c }

variable {s : LightControllerSslsock} {p : ℕ} {c c' : ServerSocket}

lemma deref_eq_some : s.deref = some (p, c) ↔ s.socket = some p ∧ s.sockets.get p = some c := by
  simp only [deref, Option.bind_eq_some_iff, Option.map_eq_some_iff, Prod.mk.injEq]
  constructor
  · rintro ⟨q, hq, d, hd, rfl, rfl⟩
    exact ⟨hq, hd⟩
  · rintro ⟨hp, hc⟩
    exact ⟨p, hp, c, hc, rfl, rfl⟩

lemma deref_assign (h : s.deref = some (p, c)) : (s.assign p c').deref = some (p, c') := by
  rcases deref_eq_some.mp h with ⟨hp, hc⟩
  refine deref_eq_some.mpr ⟨hp, ?_⟩
  rw [assign, get_assign (Option.isSome_of_eq_some hc), if_pos rfl]

/-! ## Accepting a connection -/

/-- `startServerEncryption` on the object it works on. -/
def startServerEncryption (setup : Setup) (c : ServerSocket) : ServerSocket :=
  if setup.keyFileOpens = false then { c with connected := false }
  else if setup.keyIsGood = false then { c with connected := false }
  -- without the CA certificates the socket stays as it is, unencrypted
  else if setup.caCertificatesAdded = false then c
  else { c with mode := .handshaking }

/-- `incomingConnection`. -/
def incomingConnection (s : LightControllerSslsock) (setup : Setup) : LightControllerSslsock :=
  if setup.descriptorSet then
    { s with
      socket := some s.sockets.length
      sockets := s.sockets.create
        (startServerEncryption setup { ServerSocket.new with connected := true }) }
  else
    -- the object is deleted, and the member still points to it
    { s with
      socket := some s.sockets.length
      sockets := (s.sockets.create ServerSocket.new).delete s.sockets.length }

/-! ## What the sockets do by themselves -/

/-- The end of a handshake: a peer that does not verify loses the connection. -/
def handshakeEnds (s : LightControllerSslsock) (p : ℕ) (verified : Bool) :
    LightControllerSslsock :=
  match s.sockets.get p with
  | some c =>
      if c.mode = .handshaking then
        s.assign p
          (if verified then { c with mode := .encrypted } else { c with connected := false })
      else s
  | none => s

/-- Bytes from the client of a connection. -/
def bytesArrive (s : LightControllerSslsock) (p : ℕ) (bytes : List UInt8) :
    LightControllerSslsock :=
  match s.sockets.get p with
  | some c =>
      if c.connected ∧ c.mode ≠ .handshaking then
        s.assign p { c with buffer := c.buffer ++ bytes }
      else s
  | none => s

/-- A handshake ends on a live socket that is in it, or nothing happens. -/
lemma handshakeEnds_cases (s : LightControllerSslsock) (p : ℕ) (verified : Bool) :
    s.handshakeEnds p verified = s ∨
      ∃ c, s.sockets.get p = some c ∧ c.mode = .handshaking ∧
        s.handshakeEnds p verified = s.assign p
          (if verified then { c with mode := .encrypted } else { c with connected := false }) := by
  rw [handshakeEnds]
  split
  case h_1 c hc =>
    split
    case isTrue hmode => exact Or.inr ⟨c, hc, hmode, rfl⟩
    case isFalse => exact Or.inl rfl
  case h_2 => exact Or.inl rfl

/-- Bytes arrive on a live socket that passes them on, or nothing happens. -/
lemma bytesArrive_cases (s : LightControllerSslsock) (p : ℕ) (bytes : List UInt8) :
    s.bytesArrive p bytes = s ∨
      ∃ c, s.sockets.get p = some c ∧ c.connected = true ∧ c.mode ≠ .handshaking ∧
        s.bytesArrive p bytes = s.assign p { c with buffer := c.buffer ++ bytes } := by
  rw [bytesArrive]
  split
  case h_1 c hc =>
    split
    case isTrue hopen => exact Or.inr ⟨c, hc, hopen.1, hopen.2, rfl⟩
    case isFalse => exact Or.inl rfl
  case h_2 => exact Or.inl rfl

/-- What lies behind a pointer after an assignment. -/
lemma get_of_assign (hget : s.sockets.get p = some c) {q : ℕ} {d : ServerSocket}
    (h : (s.assign p c').sockets.get q = some d) :
    (q = p ∧ d = c') ∨ s.sockets.get q = some d := by
  rw [assign, get_assign (Option.isSome_of_eq_some hget)] at h
  split at h
  case isTrue hq => exact Or.inl ⟨hq, (Option.some.inj h).symm⟩
  case isFalse => exact Or.inr h

lemma bytesArrive_eq (hget : s.sockets.get p = some c) (hconn : c.connected = true)
    (hmode : c.mode ≠ .handshaking) (bytes : List UInt8) :
    s.bytesArrive p bytes = s.assign p { c with buffer := c.buffer ++ bytes } := by
  simp only [bytesArrive, hget]
  rw [if_pos ⟨hconn, hmode⟩]

/-! ## The slots -/

/-- `send_line`. -/
def sendLine (s : LightControllerSslsock) (aLine : QString) : Option LightControllerSslsock :=
  s.deref.map fun (p, c) => s.assign p (c.write aLine.toLatin1)

lemma sendLine_eq (h : s.deref = some (p, c)) (aLine : QString) :
    s.sendLine aLine = some (s.assign p (c.write aLine.toLatin1)) := by
  rw [sendLine, h, Option.map_some]

/-- `slot_readyRead`. -/
def slotReadyRead (s : LightControllerSslsock) : Option (LightControllerSslsock × ReadyRead) :=
  s.deref.map fun (p, c) =>
    let (remCommand, c) := c.readLine 256
    let s := s.assign p c
    if remCommand.length < 2 then (s, .quit)
    else ({ s with currentCommand := QString.fromUtf8 remCommand },
      .commandReceived (QString.fromUtf8 remCommand))

end LightControllerSslsock

end LightControl
