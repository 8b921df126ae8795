import LightControl.RemoteUi.Discovery
import LightControl.RemoteUi.ReconnectStorm
import LightControl.Zeroconf.ZConfServiceBrowser

/-!
# From the announcements to the address

The window and its service browser as one system: the browser emits a signal, and the slot of the
window looks the service up in the browser's table.

* `tables_agree` — the window model's own table says of each name what the browser's says.
* `address_law` — the address that the client ends up with, and its port, from what the resolvers
  have answered alone: whatever else happens, in whatever order.
-/

namespace LightControl

open QString Runs Transducer

/-! ## The address is latched -/

/-- The address that `service_found` makes of an entry. -/
def ZConfServiceEntry.localAddress (entry : ZConfServiceEntry) : QString :=
  if entry.protocolName = literal "IPv6" ∧ (literal "fe80::").isPrefixOf entry.ip then
    entry.ip ++ literal "%eth0"
  else entry.ip

lemma ZConfServiceEntry.localAddress_eq_nil {entry : ZConfServiceEntry} :
    entry.localAddress = [] ↔ entry.ip = [] := by
  rw [localAddress]
  split
  case isTrue h =>
    have hne : entry.ip ≠ [] := by
      intro hnil
      rw [hnil] at h
      exact absurd h.2 (by decide)
    simp [hne]
  case isFalse => exact Iff.rfl

/-- The address and the port that the client is to connect to. -/
def SslClient.server (c : SslClient) : QString × ℕ :=
  (c.lightControllerHostNameOrIp, c.lightControllerPort)

/-- What an entry that is found makes of them. -/
def latch (server : QString × ℕ) (entry : ZConfServiceEntry) : QString × ℕ :=
  if server.1 = [] then (entry.localAddress, entry.port) else server

/-- **The first entry with an address** is kept, and until there is one, the port of the last
entry. -/
lemma foldl_latch (found : List ZConfServiceEntry) (port : ℕ) :
    found.foldl latch ([], port)
      = match found.find? fun entry => entry.ip ≠ [] with
        | some entry => (entry.localAddress, entry.port)
        | none => ([], (found.getLast?.map ZConfServiceEntry.port).getD port) := by
  induction found using List.reverseRecOn with
  | nil => rfl
  | append_singleton found entry ih =>
      rw [List.foldl_append, ih, List.find?_append, List.getLast?_concat]
      cases hfound : found.find? fun entry => entry.ip ≠ [] with
      | some first =>
          have hne : first.localAddress ≠ [] := by
            rw [ne_eq, ZConfServiceEntry.localAddress_eq_nil]
            simpa using List.find?_some hfound
          rw [Option.some_or, List.foldl_cons, List.foldl_nil, latch, if_neg hne]
      | none =>
          rw [Option.none_or, List.foldl_cons, List.foldl_nil, latch, if_pos rfl]
          by_cases hip : entry.ip = []
          · simp [hip, ZConfServiceEntry.localAddress_eq_nil.mpr hip]
          · simp [hip]

/-! ## Nothing else touches it -/

namespace SslClient

variable {c c' : SslClient}

lemma socketStateChanged_server {state : SocketState} (h : c.socketStateChanged state = some c') :
    c'.server = c.server := by
  rw [socketStateChanged, Option.map_eq_some_iff] at h
  rcases h with ⟨s, -, rfl⟩
  cases state <;> rfl

lemma report_server {state : SocketState} (h : c.report state = some c') :
    c'.server = c.server := by
  rw [report] at h
  split at h
  case h_1 =>
    exact (times_unchanged (f := server) (fun _ _ => socketStateChanged_server) _ h).trans rfl
  case h_2 =>
    cases h
    rfl

lemma secureConnect_server {attempt : Attempt} (h : c.secureConnect attempt = some c') :
    c'.server = c.server := by
  simp only [secureConnect] at h
  split at h
  case isTrue =>
    cases h
    rfl
  case isFalse =>
    split at h
    case isTrue =>
      cases h
      rfl
    case isFalse =>
      exact (run_unchanged (f := server) (fun _ _ _ => report_server) _ h).trans rfl

lemma slot_server {callback : ClientSlot} (hset : callback.isSetServer = false)
    (h : c.slot callback = some c') : c'.server = c.server := by
  cases callback with
  | report state =>
      rw [slot] at h
      split at h
      case isTrue => exact report_server h
      case isFalse =>
        cases h
        rfl
  | sendData cmd =>
      rw [slot, sendData, Option.map_eq_some_iff] at h
      rcases h with ⟨s, -, rfl⟩
      split <;> rfl
  | sslErrors =>
      rw [slot, sslErrors, Option.bind_eq_some_iff] at h
      rcases h with ⟨s, -, h⟩
      split at h
      case isTrue => exact socketStateChanged_server h
      case isFalse =>
        cases h
        rfl
  | socketDisconnected =>
      cases h
      rfl
  | setServer hostNameOrIp port => cases hset
  | deferredDelete =>
      cases h
      rfl

end SslClient

namespace LightControllerRemoteUi

open SslClient

variable {ui ui' : LightControllerRemoteUi}

/-- Only the discovery changes the address, the port or the table. -/
lemma step_server {e : UiEvent} (he : e.isDiscovery = false) (h : ui.step e = some ui') :
    ui'.lightControllerConnection.server = ui.lightControllerConnection.server := by
  cases htimeout : e.isTimeout with
  | false =>
      rcases step_slots htimeout h with ⟨slots, hrun, hset⟩
      refine run_invariant_of_mem (I := fun c => c.server = ui.lightControllerConnection.server)
        slots ?_ rfl hrun
      intro c callback c' hmem hc hslot
      exact (slot_server (hset he callback hmem) hslot).trans hc
  | true =>
      cases e with
      | timeout attempts =>
          rcases onClient_eq_some.mp h with ⟨c', hc', rfl⟩
          rw [timeout] at hc'
          split at hc'
          case isTrue =>
            exact run_unchanged (f := server) (fun _ _ _ => secureConnect_server) _ hc'
          case isFalse =>
            cases hc'
            rfl
      | _ => cases htimeout

lemma step_entries {e : UiEvent} (he : e.isDiscovery = false) (h : ui.step e = some ui') :
    ui'.entries = ui.entries := by
  have hclient : ∀ {c : Option SslClient}, ui.onClient c = some ui' →
      ui'.entries = ui.entries := by
    intro c hc
    rcases onClient_eq_some.mp hc with ⟨c', -, rfl⟩
    rfl
  have hguarded : ∀ {p : Prop} [Decidable p] {c : Option SslClient},
      (if p then ui.onClient c else some ui) = some ui' → ui'.entries = ui.entries := by
    intro p _ c hc
    split at hc
    case isTrue => exact hclient hc
    case isFalse =>
      cases hc
      rfl
  cases e with
  | timeout attempts => exact hclient h
  | lightStatePoll => exact hclient h
  | toggleOnOff => exact hguarded h
  | resetToDefault => exact hguarded h
  | dimmerSlider value => exact hguarded h
  | resolverFound name entry => cases he
  | browserRemove name => cases he
  | stateChanged state => exact hguarded h
  | sslErrors => exact hclient h
  | encrypted => exact hclient h
  | readyRead => exact hclient h
  | disconnected => exact hclient h
  | deferredDelete =>
      cases h
      rfl

/-- An entry that is found is latched, and enters the table. -/
lemma found_server (ui : LightControllerRemoteUi) (name : QString) (entry : ZConfServiceEntry) :
    ∃ ui', ui.step (.resolverFound name entry) = some ui' ∧
      ui'.lightControllerConnection.server = latch ui.lightControllerConnection.server entry ∧
      ui'.entries = (name, entry) :: ui.entries := by
  by_cases hset : ui.lightControllerConnection.server.1 = []
  · have hhost : ui.lightControllerConnection.lightControllerHostNameOrIp = [] := hset
    have hentry : serviceEntry { ui with entries := (name, entry) :: ui.entries } name = entry := by
      simp [serviceEntry]
    rw [step, serviceFound, if_neg (by simp [isServerIpSet, hhost]), hentry]
    refine ⟨_, rfl, ?_, rfl⟩
    rw [latch, if_pos hset]
    rfl
  · refine ⟨_, found_of_set hset name entry, ?_, rfl⟩
    rw [latch, if_neg hset]

end LightControllerRemoteUi

/-! ## The system -/

/-- The window and its service browser. -/
structure Remote where
  ui : LightControllerRemoteUi
  service : ZConfServiceBrowser

/-- An event of the browser, or one of the window in which the browser has no part. -/
inductive RemoteEvent
  | service (e : BrowserEvent)
  | ui (e : {e : UiEvent // e.isDiscovery = false})

/-- The events of the browser. -/
def RemoteEvent.service? : RemoteEvent → Option BrowserEvent
  | service e => some e
  | ui _ => none

namespace Remote

open ZConfServiceBrowser

/-- The window's part in a signal of the browser: `service_found` looks the name up. -/
def slotEvent (b : ZConfServiceBrowser) : BrowserSignal → UiEvent
  | .serviceEntryAdded name => .resolverFound name (b.serviceEntry name)
  | .serviceEntryRemoved name => .browserRemove name

/-- One event. -/
def step (r : Remote) : RemoteEvent → Option Remote
  | .service e =>
      let after := r.service.step e
      (run LightControllerRemoteUi.step r.ui (after.2.map (slotEvent after.1))).map
        fun ui => ⟨ui, after.1⟩
  | .ui e => (r.ui.step e.1).map fun ui => { r with ui := ui }

/-- The remote when the constructor of its window is done, but for the call of `browse`. -/
def start (lightControllerPort : ℕ) : Remote := ⟨.start lightControllerPort, .new⟩

/-- What the browser has heard in a run. -/
def news (es : List RemoteEvent) : List Heard :=
  (feed listen ZConfServiceBrowser.new (es.filterMap RemoteEvent.service?)).2

/-- The entry that an answer has found. -/
def found : Heard → Option ZConfServiceEntry
  | .answered _ entry => entry
  | _ => none

/-- The invariant of the remote. -/
structure Agrees (port : ℕ) (es : List RemoteEvent) (r : Remote) : Prop where
  service : r.service
    = (feed listen ZConfServiceBrowser.new (es.filterMap RemoteEvent.service?)).1
  entries : ∀ name, r.ui.entries.lookup name = r.service.entries.lookup name
  server : r.ui.lightControllerConnection.server
    = ((news es).filterMap found).foldl latch ([], port)

variable {port : ℕ} {es : List RemoteEvent} {r r' : Remote}

lemma heard_cases (b : ZConfServiceBrowser) (e : BrowserEvent) :
    b.heard e = [] ∨ ∃ piece, b.heard e = [piece] := by
  cases e with
  | browse serviceType reported made => exact Or.inl rfl
  | clientCallback state made => exact Or.inl rfl
  | callback event name made =>
      cases hb : b.browser.isSome <;> cases event <;> cases made <;> simp [heard, hb]
  | resolve resolver result =>
      rw [heard]
      cases b.resolvers.get resolver with
      | none => exact Or.inl rfl
      | some name => exact Or.inr ⟨_, rfl⟩

/-- What the window does with what its browser hears in an event. -/
lemma run_signals {b : ZConfServiceBrowser} {e : BrowserEvent} {ui ui' : LightControllerRemoteUi}
    (h : run LightControllerRemoteUi.step ui ((b.step e).2.map (slotEvent (b.step e).1))
      = some ui') :
    (∀ name, ui'.entries.lookup name = (((b.heard e).filterMap (Heard.news name)).getLast?).getD
      (ui.entries.lookup name)) ∧
    ui'.lightControllerConnection.server
      = ((b.heard e).filterMap found).foldl latch ui.lightControllerConnection.server := by
  have hhears := step_hears b e
  rw [hhears.signals] at h
  rcases heard_cases b e with hnone | ⟨piece, hpiece⟩
  · rw [hnone] at h ⊢
    cases h
    exact ⟨fun _ => rfl, rfl⟩
  · have hentries := hhears.entries
    rw [hpiece] at h hentries ⊢
    cases piece with
    | asked name =>
        cases h
        exact ⟨fun _ => rfl, rfl⟩
    | answered name result =>
        cases result with
        | none =>
            cases h
            refine ⟨fun name' => ?_, rfl⟩
            by_cases hn : name = name' <;> simp [Heard.news, hn]
        | some entry =>
            have hentry : (b.step e).1.serviceEntry name = entry := by
              rw [serviceEntry, hentries]
              simp [Heard.news]
            rcases ui.found_server name entry with ⟨ui₁, hstep, hserver, htable⟩
            have hrun : run LightControllerRemoteUi.step ui
                [.resolverFound name ((b.step e).1.serviceEntry name)] = some ui' := h
            rw [hentry, run_cons, hstep, Option.bind_some, run_nil, Option.some.injEq] at hrun
            rw [← hrun, htable]
            refine ⟨fun name' => ?_, hserver⟩
            rw [List.lookup_cons]
            by_cases hn : name' = name
            · simp [Heard.news, hn]
            · simp [Heard.news, Ne.symm hn, beq_eq_false_iff_ne.mpr hn]
    | gone name =>
        cases h
        refine ⟨fun name' => ?_, rfl⟩
        show (removed ui.entries name).lookup name' = _
        rw [lookup_removed]
        by_cases hn : name' = name
        · simp [Heard.news, hn]
        · simp [Heard.news, hn, Ne.symm hn]

/-- **What the browser hears** goes into the window's table as it goes into the browser's, and into
the address if there is none yet. -/
lemma step_service {e : BrowserEvent} (hr : Agrees port es r)
    (h : r.step (.service e) = some r') : Agrees port (es ++ [.service e]) r' := by
  rw [step, Option.map_eq_some_iff] at h
  rcases h with ⟨ui, hrun, rfl⟩
  rcases run_signals hrun with ⟨hentries, hserver⟩
  have hfilter : (es ++ [RemoteEvent.service e]).filterMap RemoteEvent.service?
      = es.filterMap RemoteEvent.service? ++ [e] := by
    rw [List.filterMap_append]
    rfl
  have hservice : (r.service.step e).1
      = (feed listen ZConfServiceBrowser.new
        ((es ++ [RemoteEvent.service e]).filterMap RemoteEvent.service?)).1 := by
    rw [hfilter, feed_append, ← hr.service]
    rfl
  have hnews : news (es ++ [.service e]) = news es ++ r.service.heard e := by
    rw [news, hfilter, feed_append, ← hr.service, feed_singleton]
    rfl
  refine ⟨hservice, ?_, ?_⟩
  · intro name
    rw [hentries, hr.entries, (step_hears r.service e).entries]
  · rw [hserver, hr.server, hnews, List.filterMap_append, List.foldl_append]

lemma step_agrees {e : RemoteEvent} (hr : Agrees port es r) (h : r.step e = some r') :
    Agrees port (es ++ [e]) r' := by
  cases e with
  | service e => exact step_service hr h
  | ui e =>
      rw [step, Option.map_eq_some_iff] at h
      rcases h with ⟨ui, hstep, rfl⟩
      have hfilter : (es ++ [RemoteEvent.ui e]).filterMap RemoteEvent.service?
          = es.filterMap RemoteEvent.service? := by
        rw [List.filterMap_append]
        exact List.append_nil _
      have hnews : news (es ++ [.ui e]) = news es := by
        rw [news, hfilter]
        rfl
      refine ⟨?_, ?_, ?_⟩
      · rw [hfilter]
        exact hr.service
      · intro name
        rw [LightControllerRemoteUi.step_entries e.2 hstep]
        exact hr.entries name
      · rw [hnews]
        exact (LightControllerRemoteUi.step_server e.2 hstep).trans hr.server

lemma run_agrees (h : run step (start port) es = some r) : Agrees port es r :=
  run_history_invariant (I := Agrees port) ⟨rfl, fun _ => rfl, rfl⟩
    (fun _ _ _ _ _ => step_agrees) es h

/-- A service is announced and gone again before its resolver answers. -/
def gone : List RemoteEvent :=
  [.service (.browse (literal "_light_controllerui._tcp") [.running] true),
    .service (.callback .new (literal "hall") true),
    .service (.callback .remove (literal "hall") true),
    .service (.resolve 0 (some ⟨literal "fe80::1", 48049, .inet6⟩)),
    .ui ⟨.timeout fun _ => ⟨[], false⟩, rfl⟩]

/-- **Two tables, one content.**  In every state of every run, `serviceEntry` of the window's model
is `serviceEntry` of its service browser. -/
theorem tables_agree (h : run step (start port) es = some r) (name : QString) :
    r.ui.serviceEntry name = r.service.serviceEntry name := by
  rw [LightControllerRemoteUi.serviceEntry, serviceEntry, (run_agrees h).entries]

/-- After `gone` both tables have the service that is no longer there. -/
theorem tables_agree_gone : ∃ r, run step (start 0) gone = some r ∧
    r.ui.serviceEntry (literal "hall") = ⟨literal "fe80::1", 48049, .inet6⟩ := by
  have hrun : (run step (start 0) gone).isSome := by decide
  rcases Option.isSome_iff_exists.mp hrun with ⟨r, h⟩
  refine ⟨r, h, (tables_agree h _).trans ?_⟩
  rw [(run_agrees h).service]
  decide

/-- **The address of the client**, in every state of every run: that of the first answer of a
resolver with an address, and its port; whether the service was gone by then does not count.  Until
there is one there is no address, and the port is that of the last answer. -/
theorem address_law (h : run step (start port) es = some r) :
    r.ui.lightControllerConnection.server
      = match ((news es).filterMap found).find? fun entry => entry.ip ≠ [] with
        | some entry => (entry.localAddress, entry.port)
        | none => ([], (((news es).filterMap found).getLast?.map
            ZConfServiceEntry.port).getD port) := by
  rw [(run_agrees h).server, foldl_latch]

/-- After `gone` the client connects to the service that is no longer there. -/
theorem address_law_gone : ∃ r, run step (start 0) gone = some r ∧
    r.ui.lightControllerConnection.server = (literal "fe80::1%eth0", 48049) := by
  have hrun : (run step (start 0) gone).isSome := by decide
  rcases Option.isSome_iff_exists.mp hrun with ⟨r, h⟩
  refine ⟨r, h, (address_law h).trans ?_⟩
  decide

end Remote

end LightControl
