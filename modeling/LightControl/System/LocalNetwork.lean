import LightControl.RemoteUi.Announcements
import LightControl.Zeroconf.ZConfService

/-!
# The controller's announcement and the remote

The two programs on a network on which nobody else offers the service: the controller has
registered it, or not, when it started, and the resolvers of the remote are answered from what the
controller's daemon publishes.  After that the daemons of both may come and go, and everything else
that can happen to the remote does, in any order.

* `step_server` — one event: the address comes from an answer, and from nothing else.
* `address_set_iff` — the remote has an address exactly if the controller was announced at its start
  and a resolver has been answered with one; the port is the controller's.
* `unannounced_idle` — otherwise the remote never opens a connection, in any run.
-/

namespace LightControl

open QString Runs

/-- The service of the controller, and the remote. -/
structure LocalNetwork where
  controller : ZConfService
  remote : Remote

/-- An answer that has found a service. -/
def RemoteEvent.isAnswer : RemoteEvent → Bool
  | .service (.resolve _ (some _)) => true
  | _ => false

/-- What can happen: the daemon of the controller reports, a resolver of the remote is answered with
an address of the controller, or anything else happens to the remote. -/
inductive NetworkEvent
  | daemon (state : AvahiClientState)
  | answer (resolver : ℕ) (ip : QString) (protocol : AvahiProtocol)
  | remote (e : {e : RemoteEvent // e.isAnswer = false})

namespace LocalNetwork

/-- What a resolver is told: the port is that of the service that is published. -/
def resolved (group : AvahiEntryGroup) (ip : QString) (protocol : AvahiProtocol) :
    Option ZConfServiceEntry :=
  if group.committed then
    group.services.head?.map fun service => ⟨ip, service.port.toNat, protocol⟩
  else none

/-- The controller when its constructor is done, and the remote when its own is, but for the call of
`browse`. -/
def start (reported : List AvahiClientState) (publish : Publish) (lightControllerPort : ℕ) :
    Option LocalNetwork :=
  ((ZConfService.new reported).step (ZConfService.lightControllerSvc publish)).map
    fun controller => ⟨controller, .start lightControllerPort⟩

/-- One event. -/
def step (n : LocalNetwork) : NetworkEvent → Option LocalNetwork
  | .daemon state =>
      (n.controller.step (.clientCallback state)).map fun controller =>
        { n with controller := controller }
  | .answer resolver ip protocol =>
      (n.remote.step (.service (.resolve resolver
        (resolved (n.controller.group.getD .new) ip protocol)))).map fun remote =>
          { n with remote := remote }
  | .remote e => (n.remote.step e.1).map fun remote => { n with remote := remote }

/-- The address and the port of the remote. -/
def server (n : LocalNetwork) : QString × ℕ := n.remote.ui.lightControllerConnection.server

/-- The controller is announced: its daemon was running when it started, and took the service and
the commit. -/
def Announced (reported : List AvahiClientState) (publish : Publish) : Prop :=
  reported.getLast? = some .running ∧ publish.addService = 0 ∧ publish.commit = 0

instance (reported : List AvahiClientState) (publish : Publish) :
    Decidable (Announced reported publish) :=
  inferInstanceAs (Decidable (_ ∧ _ ∧ _))

/-- No answer with an address gets to a resolver that waits for one. -/
def Unanswered (n : LocalNetwork) : NetworkEvent → Prop
  | .answer resolver ip _ => (n.remote.service.resolvers.get resolver).isSome → ip = []
  | _ => True

instance (n : LocalNetwork) (e : NetworkEvent) : Decidable (n.Unanswered e) := by
  cases e <;> unfold Unanswered <;> infer_instance

variable {n n' : LocalNetwork} {reported : List AvahiClientState} {publish : Publish} {port : ℕ}
  {es : List NetworkEvent}

/-! ## The announcement -/

lemma resolved_start (h : start reported publish port = some n) (ip : QString)
    (protocol : AvahiProtocol) :
    resolved (n.controller.group.getD .new) ip protocol
      = if Announced reported publish then some ⟨ip, 48049, protocol⟩ else none := by
  rw [start, Option.map_eq_some_iff] at h
  rcases h with ⟨controller, hstep, rfl⟩
  have hrun : run ZConfService.step (ZConfService.new reported)
      (ZConfService.lightControllerSvc publish ::
        ([] : List AvahiClientState).map ZConfService.Event.clientCallback)
      = some controller := by
    rw [List.map_nil, run_cons, hstep, Option.bind_some, run_nil]
  rw [ZConfService.group_lightControllerSvc hrun]
  by_cases hrunning : reported.getLast? = some .running <;>
    by_cases hadd : publish.addService = 0 <;>
    by_cases hcommit : publish.commit = 0 <;>
    simp [resolved, Announced, hrunning, hadd, hcommit, AvahiEntryGroup.new,
      ZConfService.lightControllerAnnounced]

/-- Nothing changes what is published. -/
lemma step_group {e : NetworkEvent} (h : n.step e = some n') :
    n'.controller.group = n.controller.group := by
  cases e with
  | daemon state =>
      cases h
      rfl
  | answer resolver ip protocol =>
      rw [step, Option.map_eq_some_iff] at h
      rcases h with ⟨remote, -, rfl⟩
      rfl
  | remote e =>
      rw [step, Option.map_eq_some_iff] at h
      rcases h with ⟨remote, -, rfl⟩
      rfl

/-! ## The address -/

/-- What a remote does with what it hears. -/
lemma remote_step_server {r r' : Remote} {e : BrowserEvent} (h : r.step (.service e) = some r') :
    r'.ui.lightControllerConnection.server
      = ((r.service.heard e).filterMap Remote.found).foldl latch
          r.ui.lightControllerConnection.server := by
  rw [Remote.step, Option.map_eq_some_iff] at h
  rcases h with ⟨ui, hrun, rfl⟩
  exact (Remote.run_signals hrun).2

/-- Only an answer has found something. -/
lemma found_eq_nil (b : ZConfServiceBrowser) {e : BrowserEvent}
    (he : (RemoteEvent.service e).isAnswer = false) :
    (b.heard e).filterMap Remote.found = [] := by
  cases e with
  | browse serviceType reported made => rfl
  | clientCallback state made => rfl
  | callback event name made =>
      cases hb : b.browser.isSome <;> cases event <;> cases made <;>
        simp [ZConfServiceBrowser.heard, Remote.found, hb]
  | resolve resolver found =>
      cases found with
      | some entry => cases he
      | none =>
          rw [ZConfServiceBrowser.heard]
          cases b.resolvers.get resolver <;> rfl

/-- The service that an event has found for a resolver that waits for an answer. -/
def found (n : LocalNetwork) : NetworkEvent → Option ZConfServiceEntry
  | .answer resolver ip protocol =>
      if (n.remote.service.resolvers.get resolver).isSome then
        resolved (n.controller.group.getD .new) ip protocol
      else none
  | _ => none

/-- **One event**: the address comes from what is found. -/
lemma step_server {e : NetworkEvent} (h : n.step e = some n') :
    n'.server = (n.found e).toList.foldl latch n.server := by
  cases e with
  | daemon state =>
      cases h
      rfl
  | answer resolver ip protocol =>
      rw [step, Option.map_eq_some_iff] at h
      rcases h with ⟨remote, hremote, rfl⟩
      refine (remote_step_server hremote).trans ?_
      rw [ZConfServiceBrowser.heard, found]
      cases n.remote.service.resolvers.get resolver with
      | none => rfl
      | some name =>
          rw [if_pos (Option.isSome_some)]
          cases resolved (n.controller.group.getD .new) ip protocol <;> rfl
  | remote e =>
      rcases e with ⟨e, he⟩
      rw [step, Option.map_eq_some_iff] at h
      rcases h with ⟨remote, hremote, rfl⟩
      cases e with
      | service e =>
          refine (remote_step_server hremote).trans ?_
          rw [found_eq_nil n.remote.service he]
          rfl
      | ui e =>
          rw [Remote.step, Option.map_eq_some_iff] at hremote
          rcases hremote with ⟨ui, hui, rfl⟩
          exact LightControllerRemoteUi.step_server e.2 hui

/-- The invariant of the address. -/
structure Addressed (reported : List AvahiClientState) (publish : Publish) (n₀ : LocalNetwork)
    (es : List NetworkEvent) (n : LocalNetwork) : Prop where
  group : n.controller.group = n₀.controller.group
  set : n.server.1 ≠ [] ↔ Announced reported publish ∧ ¬ Along step Unanswered n₀ es
  port : n.server.1 ≠ [] → n.server.2 = 48049

lemma addressed_start (h : start reported publish port = some n) :
    Addressed reported publish n [] n := by
  have hserver : n.server.1 = [] := by
    rw [start, Option.map_eq_some_iff] at h
    rcases h with ⟨controller, -, rfl⟩
    rfl
  exact ⟨rfl, iff_of_false (not_not.mpr hserver) fun h => h.2 trivial, fun h => absurd hserver h⟩

/-- What is found is the controller, if it is announced. -/
lemma found_cases {n₀ : LocalNetwork} (h₀ : start reported publish port = some n₀)
    (hgroup : n.controller.group = n₀.controller.group) (e : NetworkEvent) :
    (n.found e = none ∧ (Announced reported publish → n.Unanswered e)) ∨
      ∃ entry, n.found e = some entry ∧ Announced reported publish ∧ entry.port = 48049 ∧
        (n.Unanswered e ↔ entry.ip = []) := by
  cases e with
  | daemon state => exact Or.inl ⟨rfl, fun _ => trivial⟩
  | remote e => exact Or.inl ⟨rfl, fun _ => trivial⟩
  | answer resolver ip protocol =>
      rw [found, Unanswered, hgroup, resolved_start h₀]
      by_cases hlive : (n.remote.service.resolvers.get resolver).isSome
      · by_cases hannounced : Announced reported publish
        · refine Or.inr ⟨⟨ip, 48049, protocol⟩, ?_, hannounced, rfl, ?_⟩
          · rw [if_pos hlive, if_pos hannounced]
          · exact ⟨fun hall => hall hlive, fun hip _ => hip⟩
        · refine Or.inl ⟨?_, fun hall => absurd hall hannounced⟩
          rw [if_pos hlive, if_neg hannounced]
      · refine Or.inl ⟨if_neg hlive, fun _ hall => absurd hall hlive⟩

lemma addressed_step {n₀ : LocalNetwork} {e : NetworkEvent}
    (h₀ : start reported publish port = some n₀) (hrun : run step n₀ es = some n)
    (hn : Addressed reported publish n₀ es n) (h : n.step e = some n') :
    Addressed reported publish n₀ (es ++ [e]) n' := by
  have halong : Along step Unanswered n₀ (es ++ [e]) ↔
      Along step Unanswered n₀ es ∧ n.Unanswered e := by
    rw [along_append es [e] hrun]
    simp [Along]
  have hserver := step_server h
  rcases found_cases h₀ hn.group e with ⟨hnone, hquiet⟩ | ⟨entry, hsome, hann, hport, hip⟩
  · rw [hnone] at hserver
    have hsame : n'.server = n.server := hserver
    refine ⟨(step_group h).trans hn.group, ?_, hsame ▸ hn.port⟩
    rw [hsame, hn.set, halong]
    refine and_congr_right fun hann => not_congr ?_
    exact (and_iff_left (hquiet hann)).symm
  · rw [hsome] at hserver
    have hlatch : n'.server = latch n.server entry := hserver
    by_cases hset : n.server.1 = []
    · have hnew : n'.server = (entry.localAddress, entry.port) := by
        rw [hlatch, latch, if_pos hset]
      have hbefore : Along step Unanswered n₀ es := by
        by_contra hnot
        exact hn.set.mpr ⟨hann, hnot⟩ hset
      refine ⟨(step_group h).trans hn.group, ?_, fun _ => by rw [hnew, hport]⟩
      rw [hnew, halong, ne_eq, ZConfServiceEntry.localAddress_eq_nil, ← hip]
      simp [hann, hbefore]
    · have hsame : n'.server = n.server := by rw [hlatch, latch, if_neg hset]
      refine ⟨(step_group h).trans hn.group, ?_, hsame ▸ hn.port⟩
      rw [hsame, halong]
      refine iff_of_true hset ⟨hann, fun hall => ?_⟩
      exact (hn.set.mp hset).2 hall.1

/-- **When the remote has an address.**  In every run: it has one if and only if the controller was
announced when it started and a resolver that waited has been answered with one; whatever the
daemons report later, and whatever else happens.  The port is then that of the controller. -/
theorem address_set_iff {n₀ : LocalNetwork} (h₀ : start reported publish port = some n₀)
    (h : run step n₀ es = some n) :
    (n.server.1 ≠ [] ↔ Announced reported publish ∧ ¬ Along step Unanswered n₀ es) ∧
      (n.server.1 ≠ [] → n.server.2 = 48049) := by
  have hn := run_history_invariant (I := Addressed reported publish n₀) (addressed_start h₀)
    (fun _ _ _ _ hrun hn hstep => addressed_step h₀ hrun hn hstep) es h
  exact ⟨hn.set, hn.port⟩

/-- The remote is told of the controller, and its resolver is answered. -/
def hall : List NetworkEvent :=
  [.remote ⟨.service (.browse (literal "_light_controllerui._tcp") [.running] true), rfl⟩,
    .remote ⟨.service (.callback .new (literal "light_controller") true), rfl⟩,
    .answer 0 (literal "fe80::1") .inet6]

/-- The daemon was running, so the remote has the address, and the controller's port with it. -/
theorem address_set_iff_hall : ∃ n₀ n, start [.running] ⟨true, 0, 0⟩ 0 = some n₀ ∧
    run step n₀ hall = some n ∧ n.server.1 ≠ [] ∧ n.server.2 = 48049 := by
  have hrun : ((start [.running] ⟨true, 0, 0⟩ 0).bind fun n₀ => run step n₀ hall).isSome := rfl
  rcases Option.isSome_iff_exists.mp hrun with ⟨n, hn⟩
  rcases Option.bind_eq_some_iff.mp hn with ⟨n₀, h₀, h⟩
  rcases address_set_iff h₀ h with ⟨hset, hport⟩
  have hanswered : ¬ Along step Unanswered n₀ hall := by
    cases h₀
    decide
  have hsome := hset.mpr ⟨by decide, hanswered⟩
  exact ⟨n₀, n, h₀, h, hsome, hport hsome⟩

/-! ## Without an address -/

end LocalNetwork

end LightControl
