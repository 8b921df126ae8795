import LightControl.RemoteUi.Wiring

/-!
# Which address the client ends up with

`service_found` takes the first address that is found, of either family, and keeps it;
`secure_connect` tells Qt to connect with `IPv6Protocol`.

* `step_serverIp` — an address that is set is never changed again.
* `run_found` — the entry that is found first decides.
* `canConnect_iff` — the next timeout can connect exactly if the address is an IPv6 address.
* `discovery_iff` — for every list of entries and every order in which they are found.
-/

namespace LightControl

open QString Runs

/-! ## Addresses -/

/-- An IPv6 address: written out, it has colons. -/
def IsIpv6 (address : QString) : Prop := 58 ∈ address

/-- An IPv4 address: written out, it has none. -/
def IsIpv4 (address : QString) : Prop := address ≠ [] ∧ ¬ IsIpv6 address

instance (address : QString) : Decidable (IsIpv6 address) :=
  inferInstanceAs (Decidable (58 ∈ address))

instance (address : QString) : Decidable (IsIpv4 address) :=
  inferInstanceAs (Decidable (address ≠ [] ∧ ¬ IsIpv6 address))

/-- What Qt may do when `secure_connect` tells it to connect to `address` with `IPv6Protocol`: only
an IPv6 address is reached. -/
def Attempt.Ipv6Protocol (attempt : Attempt) (address : QString) : Prop :=
  .connected ∈ attempt.reports.map Subtype.val → IsIpv6 address

/-! ## The address is kept -/

namespace SslClient

variable {c c' : SslClient}

lemma socketStateChanged_serverIp {state : SocketState}
    (h : c.socketStateChanged state = some c') :
    c'.lightControllerHostNameOrIp = c.lightControllerHostNameOrIp := by
  rw [socketStateChanged, Option.map_eq_some_iff] at h
  rcases h with ⟨s, -, rfl⟩
  cases state <;> rfl

lemma report_serverIp {state : SocketState} (h : c.report state = some c') :
    c'.lightControllerHostNameOrIp = c.lightControllerHostNameOrIp := by
  rw [report] at h
  split at h
  case h_1 =>
    exact (times_unchanged (f := lightControllerHostNameOrIp)
      (fun _ _ => socketStateChanged_serverIp) _ h).trans rfl
  case h_2 =>
    cases h
    rfl

lemma connectToHostEncrypted_serverIp {attempt : Attempt}
    (h : c.connectToHostEncrypted attempt = some c') :
    c'.lightControllerHostNameOrIp = c.lightControllerHostNameOrIp :=
  run_unchanged (fun _ _ _ => report_serverIp) _ h

lemma secureConnect_serverIp {attempt : Attempt} (h : c.secureConnect attempt = some c') :
    c'.lightControllerHostNameOrIp = c.lightControllerHostNameOrIp := by
  simp only [secureConnect] at h
  split at h
  case isTrue =>
    cases h
    rfl
  case isFalse =>
    split at h
    case isTrue =>
      cases h
      rfl
    case isFalse => exact (connectToHostEncrypted_serverIp h).trans rfl

lemma sendData_serverIp {cmd : QString} (h : c.sendData cmd = some c') :
    c'.lightControllerHostNameOrIp = c.lightControllerHostNameOrIp := by
  rw [sendData, Option.map_eq_some_iff] at h
  rcases h with ⟨s, -, rfl⟩
  split <;> rfl

lemma sslErrors_serverIp (h : c.sslErrors = some c') :
    c'.lightControllerHostNameOrIp = c.lightControllerHostNameOrIp := by
  rw [sslErrors, Option.bind_eq_some_iff] at h
  rcases h with ⟨s, -, h⟩
  split at h
  case isTrue => exact socketStateChanged_serverIp h
  case isFalse =>
    cases h
    rfl

end SslClient

namespace LightControllerRemoteUi

open SslClient

variable {ui ui' : LightControllerRemoteUi}

/-- An entry that is found when there is an address only enters the table. -/
lemma found_of_set (hset : ui.lightControllerConnection.lightControllerHostNameOrIp ≠ [])
    (name : QString) (entry : ZConfServiceEntry) :
    ui.step (.resolverFound name entry) =
      some { ui with entries := (name, entry) :: ui.entries } := by
  rw [step, serviceFound, if_pos (by simpa [isServerIpSet] using hset)]

/-- The slots keep an address that is set. -/
lemma serverIp_kept {address : QString} (hset : address ≠ []) :
    KeptBySlots fun c => c.lightControllerHostNameOrIp = address where
  secureConnect hc h := (secureConnect_serverIp h).trans hc
  report hc _ _ h := (report_serverIp h).trans hc
  sendData hc h := (sendData_serverIp h).trans hc
  sslErrors hc h := (sslErrors_serverIp h).trans hc
  socketDisconnected hc h := by
    cases h
    exact hc
  setServer _ _ hc hnone := absurd (hc.symm.trans hnone) hset
  deferredDelete hc := hc

/-- **An address that is set** is never changed again, by any event. -/
lemma step_serverIp {e : UiEvent}
    (hset : ui.lightControllerConnection.lightControllerHostNameOrIp ≠ [])
    (h : ui.step e = some ui') :
    ui'.lightControllerConnection.lightControllerHostNameOrIp =
      ui.lightControllerConnection.lightControllerHostNameOrIp :=
  step_kept (serverIp_kept hset) rfl h

/-! ## Before an address is found -/

/-- The client has not used its socket, and the next timeout calls `secure_connect`. -/
def Ready (c : SslClient) : Prop :=
  c.socket = some .new ∧ c.doomed = [] ∧ c.reconnectTimerActive = true ∧ 0 < c.timeoutConnections

lemma secureConnect_ready {c c' : SslClient} {attempt : Attempt}
    (hc : c.lightControllerHostNameOrIp = [] ∧ Ready c) (h : c.secureConnect attempt = some c') :
    c'.lightControllerHostNameOrIp = [] ∧ Ready c' := by
  rcases hc with ⟨hhost, hsocket, hdoomed, -, -⟩
  simp only [secureConnect, hsocket, Option.getD_some] at h
  rw [if_neg (by simp [ClientSocket.new]), if_pos hhost, Option.some.injEq] at h
  subst h
  exact ⟨hhost, rfl, hdoomed, rfl, Nat.succ_pos _⟩

/-- As long as there is no address the client is ready. -/
lemma step_ready {e : UiEvent}
    (hui : ui.lightControllerConnection.lightControllerHostNameOrIp = [] →
      Ready ui.lightControllerConnection)
    (h : ui.step e = some ui') :
    ui'.lightControllerConnection.lightControllerHostNameOrIp = [] →
      Ready ui'.lightControllerConnection := by
  intro hnone'
  have hnone : ui.lightControllerConnection.lightControllerHostNameOrIp = [] := by
    by_contra hset
    exact hset ((step_serverIp hset h).symm.trans hnone')
  have hready := hui hnone
  by_cases he : ∃ attempts, e = .timeout attempts
  · rcases he with ⟨attempts, rfl⟩
    rcases onClient_eq_some.mp h with ⟨c', hc', rfl⟩
    rw [timeout, if_pos hready.2.2.1] at hc'
    exact (run_invariant (fun _ _ _ => secureConnect_ready) _ ⟨hnone, hready⟩ hc').2
  · rcases step_of_new hready.1 hready.2.1 (not_exists.mp he) with
      ⟨ui₁, hostNameOrIp, port, hstep, hc⟩
    obtain rfl : ui₁ = ui' := Option.some.inj (hstep.symm.trans h)
    rw [hc]
    exact hready

lemma run_ready {port : ℕ} {es : List UiEvent} (h : run step (start port) es = some ui)
    (hnone : ui.lightControllerConnection.lightControllerHostNameOrIp = []) :
    Ready ui.lightControllerConnection :=
  run_invariant (I := fun u => u.lightControllerConnection.lightControllerHostNameOrIp = [] →
      Ready u.lightControllerConnection) (fun _ _ _ => step_ready) es
    (fun _ => ⟨rfl, rfl, rfl, Nat.one_pos⟩) h hnone

/-! ## The entry that is found first -/

/-- The events that find the entries of a list, in its order. -/
def founds (found : List (QString × ZConfServiceEntry)) : List UiEvent :=
  found.map fun f => .resolverFound f.1 f.2

lemma isIpv6_append_eth0 (address : QString) :
    IsIpv6 (address ++ literal "%eth0") ↔ IsIpv6 address := by
  rw [IsIpv6, IsIpv6, List.mem_append]
  exact or_iff_left (by decide)

/-- Without an address, the entry that is found gives it, and only the address and the port
change. -/
lemma found_of_none (hnone : ui.lightControllerConnection.lightControllerHostNameOrIp = [])
    (name : QString) {entry : ZConfServiceEntry} (hip : entry.ip ≠ []) :
    ∃ ui' address, ui.step (.resolverFound name entry) = some ui' ∧
      ui'.lightControllerConnection =
        (ui.lightControllerConnection.setServerIp address).setServerPort entry.port ∧
      address ≠ [] ∧ (IsIpv6 address ↔ IsIpv6 entry.ip) := by
  have hentry : serviceEntry { ui with entries := (name, entry) :: ui.entries } name = entry := by
    simp [serviceEntry]
  rw [step, serviceFound, if_neg (by simp [isServerIpSet, hnone]), hentry]
  refine ⟨_, _, rfl, rfl, ?_⟩
  split
  case isTrue => exact ⟨by simp [hip], isIpv6_append_eth0 entry.ip⟩
  case isFalse => exact ⟨hip, Iff.rfl⟩

/-- Entries that are found when there is an address change nothing of the client. -/
lemma run_founds_of_set (found : List (QString × ZConfServiceEntry))
    (hset : ui.lightControllerConnection.lightControllerHostNameOrIp ≠ []) :
    ∃ ui', run step ui (founds found) = some ui' ∧
      ui'.lightControllerConnection = ui.lightControllerConnection := by
  induction found generalizing ui with
  | nil => exact ⟨ui, rfl, rfl⟩
  | cons f found ih =>
      rcases @ih { ui with entries := f :: ui.entries } hset with ⟨ui', hrun, hc⟩
      refine ⟨ui', ?_, hc⟩
      rw [founds, List.map_cons, run_cons, found_of_set hset]
      exact hrun

/-- **The first entry decides.** -/
theorem run_found {f : QString × ZConfServiceEntry} (hip : f.2.ip ≠ [])
    (rest : List (QString × ZConfServiceEntry))
    (hnone : ui.lightControllerConnection.lightControllerHostNameOrIp = []) :
    ∃ ui' address, run step ui (founds (f :: rest)) = some ui' ∧
      ui'.lightControllerConnection =
        (ui.lightControllerConnection.setServerIp address).setServerPort f.2.port ∧
      address ≠ [] ∧ (IsIpv6 address ↔ IsIpv6 f.2.ip) := by
  rcases found_of_none hnone f.1 hip with ⟨ui₁, address, hstep, hc₁, hne, hfamily⟩
  have hset : ui₁.lightControllerConnection.lightControllerHostNameOrIp ≠ [] := by
    rw [hc₁]
    exact hne
  rcases run_founds_of_set rest hset with ⟨ui₂, hrun, hc₂⟩
  refine ⟨ui₂, address, ?_, hc₂.trans hc₁, hne, hfamily⟩
  rw [founds, List.map_cons, run_cons, hstep]
  exact hrun

/-! ## Connecting at the next timeout -/

/-- The next timeout can leave the client connected, whatever Qt reports that it may. -/
def CanConnect (ui : LightControllerRemoteUi) : Prop :=
  ∃ attempts : ℕ → Attempt,
    (∀ n, (attempts n).Ipv6Protocol ui.lightControllerConnection.lightControllerHostNameOrIp) ∧
    ∃ ui', ui.step (.timeout attempts) = some ui' ∧
      ui'.lightControllerConnection.getSocketState = some .connected

/-- Only the client matters. -/
lemma canConnect_iff_timeout : CanConnect ui ↔ ∃ attempts : ℕ → Attempt,
    (∀ n, (attempts n).Ipv6Protocol ui.lightControllerConnection.lightControllerHostNameOrIp) ∧
    ∃ c, ui.lightControllerConnection.timeout attempts = some c ∧
      c.getSocketState = some .connected := by
  refine exists_congr fun attempts => and_congr_right fun _ => ?_
  constructor
  · rintro ⟨ui', hstep, hconnected⟩
    rcases onClient_eq_some.mp hstep with ⟨c, hc, rfl⟩
    exact ⟨c, hc, hconnected⟩
  · rintro ⟨c, hc, hconnected⟩
    exact ⟨_, onClient_eq_some.mpr ⟨c, hc, rfl⟩, hconnected⟩

lemma report_notConnected {c c' : SslClient} {state : SocketState} (hstate : state ≠ .connected)
    (hc : c.getSocketState ≠ some .connected) (h : c.report state = some c') :
    c'.getSocketState ≠ some .connected := by
  rw [report] at h
  split at h
  case h_1 socket _ =>
    refine times_invariant (I := fun d => d.getSocketState ≠ some .connected) ?_ _ ?_ h
    · intro d d' hd hd'
      rw [socketStateChanged, Option.map_eq_some_iff] at hd'
      rcases hd' with ⟨s, hs, rfl⟩
      cases state with
      | connected => exact absurd rfl hstate
      | unconnected => simp [getSocketState]
      | _ => exact hd
    · simpa [getSocketState] using hstate
  case h_2 =>
    cases h
    exact hc

/-- An attempt that reaches nothing connects nothing. -/
lemma secureConnect_notConnected {c c' : SslClient} {attempt : Attempt}
    (hattempt : .connected ∉ attempt.reports.map Subtype.val)
    (hc : c.getSocketState ≠ some .connected) (h : c.secureConnect attempt = some c') :
    c'.getSocketState ≠ some .connected := by
  have hsocket : (c.socket.getD .new).state ≠ .connected := by
    cases hs : c.socket with
    | none => simp [ClientSocket.new]
    | some s => simpa [getSocketState, hs] using hc
  simp only [secureConnect] at h
  split at h
  case isTrue =>
    cases h
    simpa [getSocketState] using hsocket
  case isFalse =>
    split at h
    case isTrue =>
      cases h
      simpa [getSocketState] using hsocket
    case isFalse =>
      refine run_invariant_of_mem (I := fun d => d.getSocketState ≠ some .connected) _ ?_ ?_ h
      · intro d state d' hmem hd hd'
        refine report_notConnected ?_ hd hd'
        rintro rfl
        simp only [progress, List.mem_append] at hmem
        rcases hmem with (hmem | hmem) | hmem
        · split at hmem <;> simp at hmem
        · exact hattempt hmem
        · split at hmem <;> simp at hmem
      · simpa [getSocketState] using hsocket

/-- Once the client is connected, `secure_connect` leaves it connected. -/
lemma run_secureConnect_connected (attempts : List Attempt) {c : SslClient}
    (hc : c.getSocketState = some .connected) :
    ∃ c', run secureConnect c attempts = some c' ∧ c'.getSocketState = some .connected := by
  induction attempts generalizing c with
  | nil => exact ⟨c, rfl, hc⟩
  | cons attempt attempts ih =>
      rw [getSocketState, Option.map_eq_some_iff] at hc
      rcases hc with ⟨s, hs, hstate⟩
      have hstep : c.secureConnect attempt
          = some { c with socket := some s, reconnectTimerActive := false } := by
        simp only [secureConnect, hs, Option.getD_some]
        exact if_pos (Or.inl hstate)
      rw [run_cons, hstep]
      exact ih (by simpa [getSocketState] using hstate)

/-- An attempt that reaches the controller. -/
def reached : Attempt := ⟨[⟨.connected, by decide⟩], false⟩

lemma secureConnect_reached {c : SslClient} (hc : Ready c)
    (hset : c.lightControllerHostNameOrIp ≠ []) :
    ∃ c', c.secureConnect reached = some c' ∧ c'.getSocketState = some .connected := by
  simp only [secureConnect, hc.1, Option.getD_some]
  rw [if_neg (by simp [ClientSocket.new]), if_neg hset]
  exact ⟨_, rfl, rfl⟩

/-- **The next timeout can connect** a client with an address exactly if that is an IPv6
address. -/
theorem canConnect_iff (hready : Ready ui.lightControllerConnection)
    (hset : ui.lightControllerConnection.lightControllerHostNameOrIp ≠ []) :
    CanConnect ui ↔ IsIpv6 ui.lightControllerConnection.lightControllerHostNameOrIp := by
  rw [canConnect_iff_timeout]
  constructor
  · rintro ⟨attempts, hqt, c', hc', hconnected⟩
    by_contra hfamily
    rw [timeout, if_pos hready.2.2.1] at hc'
    refine absurd hconnected (run_invariant_of_mem
      (I := fun d => d.getSocketState ≠ some .connected) _ ?_ ?_ hc')
    · intro d attempt d' hmem hd hd'
      rcases List.mem_map.mp hmem with ⟨n, -, rfl⟩
      exact secureConnect_notConnected (fun hmem => hfamily (hqt n hmem)) hd hd'
    · simp [getSocketState, hready.1, ClientSocket.new]
  · intro hfamily
    rcases Nat.exists_eq_succ_of_ne_zero hready.2.2.2.ne' with ⟨n, hn⟩
    rcases secureConnect_reached hready hset with ⟨c₁, h₁, hc₁⟩
    obtain ⟨c₂, h₂, hc₂⟩ := run_secureConnect_connected (List.replicate n reached) hc₁
    refine ⟨fun _ => reached, fun _ _ => hfamily, c₂, ?_, hc₂⟩
    rw [timeout, if_pos hready.2.2.1, hn, List.map_const', List.length_range,
      Nat.succ_eq_add_one, List.replicate_succ, run_cons, h₁, Option.bind_some, h₂]

/-! ## Orders -/

/-- When the entries are found in this order, the client ends up with an IPv6 address. -/
def EndsIpv6 (ui : LightControllerRemoteUi) (order : List (QString × ZConfServiceEntry)) : Prop :=
  ∃ ui', run step ui (founds order) = some ui' ∧
    IsIpv6 ui'.lightControllerConnection.lightControllerHostNameOrIp

/-- When the entries are found in this order, the next timeout can connect. -/
def ConnectsAfter (ui : LightControllerRemoteUi) (order : List (QString × ZConfServiceEntry)) :
    Prop :=
  ∃ ui', run step ui (founds order) = some ui' ∧ CanConnect ui'

/-- **One order**, from a client without an address: the family of the first entry decides, about
the address and about the connection. -/
lemma order_iff {f : QString × ZConfServiceEntry} (hip : f.2.ip ≠ [])
    (rest : List (QString × ZConfServiceEntry)) (hready : Ready ui.lightControllerConnection)
    (hnone : ui.lightControllerConnection.lightControllerHostNameOrIp = []) :
    (EndsIpv6 ui (f :: rest) ↔ IsIpv6 f.2.ip) ∧ (ConnectsAfter ui (f :: rest) ↔ IsIpv6 f.2.ip) := by
  rcases run_found hip rest hnone with ⟨ui', address, hrun, hc, hne, hfamily⟩
  have haddress : ui'.lightControllerConnection.lightControllerHostNameOrIp = address := by
    rw [hc]
    rfl
  have hconnect : CanConnect ui' ↔ IsIpv6 address := by
    rw [canConnect_iff (by rw [hc]; exact hready) (by rw [haddress]; exact hne), haddress]
  simp only [EndsIpv6, ConnectsAfter, hrun, Option.some.injEq, exists_eq_left', haddress, hconnect,
    hfamily, and_self]

/-- An entry is no empty text. -/
lemma ip_ne_nil {entry : ZConfServiceEntry} (h : IsIpv4 entry.ip ∨ IsIpv6 entry.ip) :
    entry.ip ≠ [] := by
  rcases h with h | h
  · exact h.1
  · exact List.ne_nil_of_mem h

/-- With an address, no entry makes a difference. -/
lemma order_iff_of_set (hset : ui.lightControllerConnection.lightControllerHostNameOrIp ≠ [])
    (order : List (QString × ZConfServiceEntry)) :
    (EndsIpv6 ui order ↔ IsIpv6 ui.lightControllerConnection.lightControllerHostNameOrIp) ∧
      (ConnectsAfter ui order ↔ CanConnect ui) := by
  rcases run_founds_of_set order hset with ⟨ui', hrun, hc⟩
  simp only [EndsIpv6, ConnectsAfter, hrun, Option.some.injEq, exists_eq_left', true_and,
    canConnect_iff_timeout, hc]

/-- Without an address: the lists whose order does not matter. -/
lemma discovery_of_ready (hready : Ready ui.lightControllerConnection)
    (hhost : ui.lightControllerConnection.lightControllerHostNameOrIp = [])
    {found : List (QString × ZConfServiceEntry)}
    (hfound : ∀ f ∈ found, IsIpv4 f.2.ip ∨ IsIpv6 f.2.ip)
    (hsome : ∃ f ∈ found, IsIpv6 f.2.ip) :
    (∀ order, order.Perm found →
      (EndsIpv6 ui order ↔ ∃ f ∈ order.head?, IsIpv6 f.2.ip) ∧
        (ConnectsAfter ui order ↔ ∃ f ∈ order.head?, IsIpv6 f.2.ip)) ∧
      ((∀ order, order.Perm found → EndsIpv6 ui order) ↔ ∀ f ∈ found, ¬ IsIpv4 f.2.ip) ∧
      ((∀ order order', order.Perm found → order'.Perm found →
          (ConnectsAfter ui order ↔ ConnectsAfter ui order')) ↔
        ∀ f ∈ found, ¬ IsIpv4 f.2.ip) := by
  rcases hsome with ⟨g, hg, hgv6⟩
  have hcons : ∀ f ∈ found, ∀ rest, (EndsIpv6 ui (f :: rest) ↔ IsIpv6 f.2.ip) ∧
      (ConnectsAfter ui (f :: rest) ↔ IsIpv6 f.2.ip) := by
    intro f hf rest
    exact order_iff (ip_ne_nil (hfound f hf)) rest hready hhost
  -- any entry can be the first one, and every order has one
  have hfirst : ∀ f ∈ found, (f :: found.erase f).Perm found := by
    intro f hf
    exact (List.perm_cons_erase hf).symm
  have horder : ∀ order, order.Perm found → ∃ f rest, order = f :: rest ∧ f ∈ found := by
    intro order hperm
    cases order with
    | nil => exact absurd (hperm.mem_iff.mpr hg) List.not_mem_nil
    | cons f rest => exact ⟨f, rest, rfl, hperm.mem_iff.mp List.mem_cons_self⟩
  have hall : (∀ f ∈ found, ¬ IsIpv4 f.2.ip) → ∀ order, order.Perm found →
      EndsIpv6 ui order ∧ ConnectsAfter ui order := by
    intro hnov4 order hperm
    rcases horder order hperm with ⟨f, rest, rfl, hf⟩
    have hv6 : IsIpv6 f.2.ip := (hfound f hf).resolve_left (hnov4 f hf)
    exact ⟨(hcons f hf rest).1.mpr hv6, (hcons f hf rest).2.mpr hv6⟩
  refine ⟨?_, ⟨?_, ?_⟩, ⟨?_, ?_⟩⟩
  · intro order hperm
    rcases horder order hperm with ⟨f, rest, rfl, hf⟩
    simpa using hcons f hf rest
  · intro hends f hf hv4
    exact hv4.2 ((hcons f hf _).1.mp (hends _ (hfirst f hf)))
  · intro hnov4 order hperm
    exact (hall hnov4 order hperm).1
  · intro hsame f hf hv4
    have hconnects := (hcons g hg (found.erase g)).2.mpr hgv6
    exact hv4.2 ((hcons f hf _).2.mp
      ((hsame _ _ (hfirst g hg) (hfirst f hf)).mp hconnects))
  · intro hnov4 order order' hperm hperm'
    exact iff_of_true (hall hnov4 order hperm).2 (hall hnov4 order' hperm').2

/-- **The order of discovery.**  In every state the window reaches, for every list of entries that
has an IPv6 entry.  Without an address, whatever the order: the client ends up with an IPv6
address, and can connect, exactly if the entry found first is an IPv6 entry.  So it ends up with an
IPv6 address in every order, and can connect after one order as after any other, exactly if no
entry is an IPv4 entry.  With an address, it keeps that address, and no order makes a
difference. -/
theorem discovery_iff (port : ℕ) (es : List UiEvent) {ui : LightControllerRemoteUi}
    (h : run step (start port) es = some ui) (found : List (QString × ZConfServiceEntry))
    (hfound : ∀ f ∈ found, IsIpv4 f.2.ip ∨ IsIpv6 f.2.ip)
    (hsome : ∃ f ∈ found, IsIpv6 f.2.ip) :
    (ui.lightControllerConnection.isServerIpSet = false →
      (∀ order, order.Perm found →
        (EndsIpv6 ui order ↔ ∃ f ∈ order.head?, IsIpv6 f.2.ip) ∧
          (ConnectsAfter ui order ↔ ∃ f ∈ order.head?, IsIpv6 f.2.ip)) ∧
        ((∀ order, order.Perm found → EndsIpv6 ui order) ↔ ∀ f ∈ found, ¬ IsIpv4 f.2.ip) ∧
        ((∀ order order', order.Perm found → order'.Perm found →
            (ConnectsAfter ui order ↔ ConnectsAfter ui order')) ↔
          ∀ f ∈ found, ¬ IsIpv4 f.2.ip)) ∧
      (ui.lightControllerConnection.isServerIpSet = true → ∀ order,
        (EndsIpv6 ui order ↔ IsIpv6 ui.lightControllerConnection.lightControllerHostNameOrIp) ∧
          (ConnectsAfter ui order ↔ CanConnect ui)) := by
  constructor
  · intro hnone
    have hhost : ui.lightControllerConnection.lightControllerHostNameOrIp = [] := by
      simpa [isServerIpSet] using hnone
    exact discovery_of_ready (run_ready h hhost) hhost hfound hsome
  · intro hset
    exact order_iff_of_set (by simpa [isServerIpSet] using hset)

/-- The two entries of a controller that is found on both protocols. -/
def bothFamilies : List (QString × ZConfServiceEntry) :=
  [(literal "hall", ⟨literal "192.168.1.5", 48049, .inet⟩),
    (literal "hall", ⟨literal "fe80::1", 48049, .inet6⟩)]

/-- The constructed window, and both entries in either order. -/
theorem discovery_iff_bothFamilies :
    (∀ order, order.Perm bothFamilies →
      (EndsIpv6 (start 0) order ↔ ∃ f ∈ order.head?, IsIpv6 f.2.ip) ∧
        (ConnectsAfter (start 0) order ↔ ∃ f ∈ order.head?, IsIpv6 f.2.ip)) ∧
      ((∀ order, order.Perm bothFamilies → EndsIpv6 (start 0) order) ↔
        ∀ f ∈ bothFamilies, ¬ IsIpv4 f.2.ip) ∧
      ((∀ order order', order.Perm bothFamilies → order'.Perm bothFamilies →
          (ConnectsAfter (start 0) order ↔ ConnectsAfter (start 0) order')) ↔
        ∀ f ∈ bothFamilies, ¬ IsIpv4 f.2.ip) :=
  (discovery_iff 0 [] rfl bothFamilies (by decide) (by decide)).1 rfl

/-- **The order matters**: the IPv4 entry of the two is found first. -/
theorem not_discovery :
    ¬ ∀ (port : ℕ) (es : List UiEvent) (ui : LightControllerRemoteUi),
      run step (start port) es = some ui → ui.lightControllerConnection.isServerIpSet = false →
      ∀ found : List (QString × ZConfServiceEntry),
      (∀ f ∈ found, IsIpv4 f.2.ip ∨ IsIpv6 f.2.ip) → (∃ f ∈ found, IsIpv6 f.2.ip) →
      (∀ order, order.Perm found → EndsIpv6 ui order) ∧
        ∀ order order', order.Perm found → order'.Perm found →
          (ConnectsAfter ui order ↔ ConnectsAfter ui order') := by
  intro h
  rcases (h 0 [] (start 0) rfl rfl bothFamilies (by decide) (by decide)).1 _
    (List.Perm.refl _) with ⟨ui', hrun, hfamily⟩
  obtain rfl := Option.some.inj hrun
  revert hfamily
  decide

end LightControllerRemoteUi

end LightControl
