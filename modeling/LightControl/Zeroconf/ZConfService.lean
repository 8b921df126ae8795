import LightControl.Core.Runs
import LightControl.Qt.QString

/-!
# How the controller announces itself

`zconfserviceclient.cpp` and `zconfservice.cpp`: the connection to the Avahi daemon, and one entry
group through which a service is published.  What the daemon answers is an input (`Publish`), and
`AvahiEntryGroup` records what the program has told it with success, nothing of what it does then.

* `registration_law` — what is published after any run of calls and callbacks: the first call
  since the last reset that the daemon took while the client was running, and nothing else.
* `controller_announced_iff` — the controller registers once, in its constructor, so it is
  announced exactly if the daemon was running then; no later callback makes up for it.
-/

namespace LightControl

open QString Runs

/-! ## The client -/

/-- `AvahiClientState`. -/
inductive AvahiClientState
  | registering
  | running
  | collision
  | failure
  | connecting
  deriving DecidableEq, Repr

/-- The signals of the client. -/
inductive ZConfClientSignal
  | clientRunning
  | clientFailure
  | clientReset
  | clientConnecting
  deriving DecidableEq, Repr

/-- `ZConfServiceClient`.  `client` is `none` as long as the pointer is null, and then the state
that `avahi_client_get_state` returns. -/
structure ZConfServiceClient where
  client : Option AvahiClientState
  deriving DecidableEq, Repr

namespace ZConfServiceClient

/-- The constructor. -/
def new : ZConfServiceClient := ⟨none⟩

/-- `callback`, with the signal it emits. -/
def callback (_c : ZConfServiceClient) (state : AvahiClientState) :
    ZConfServiceClient × ZConfClientSignal :=
  (⟨some state⟩, match state with
    | .running => .clientRunning
    | .failure => .clientFailure
    | .collision => .clientReset
    | .registering => .clientReset
    | .connecting => .clientConnecting)

/-- `run`; `reported` are the states that `avahi_client_new` calls back with. -/
def run (c : ZConfServiceClient) (reported : List AvahiClientState) :
    ZConfServiceClient × List ZConfClientSignal :=
  if c.client = none then
    reported.foldl (fun r state => ((r.1.callback state).1, r.2 ++ [(r.1.callback state).2]))
      (c, [])
  else (c, [])

lemma run_new (reported : List AvahiClientState) :
    (new.run reported).1.client = reported.getLast? := by
  rw [run, new, if_pos rfl]
  induction reported using List.reverseRecOn with
  | nil => rfl
  | append_singleton reported state ih =>
      rw [List.foldl_append, List.getLast?_concat]
      rfl

lemma run_new_signals (reported : List AvahiClientState) :
    (new.run reported).2 = reported.map fun state => (new.callback state).2 := by
  rw [run, new, if_pos rfl]
  induction reported using List.reverseRecOn with
  | nil => rfl
  | append_singleton reported state ih =>
      rw [List.foldl_append, List.map_append, ← ih]
      rfl

end ZConfServiceClient

/-! ## The service -/

/-- A service as the daemon is told of it: both strings end at the first zero. -/
structure AvahiService where
  name : List UInt8
  type : List UInt8
  port : UInt16
  deriving DecidableEq, Repr

/-- `toLatin1().data()`, read as a C string. -/
def QString.latin1Data (s : QString) : List UInt8 := s.toLatin1.takeWhile fun b => b ≠ 0

/-- What the program has told the daemon through an entry group, as far as the daemon's answer was
good: the services added, and whether the last of them was committed.  It stands for Avahi's own
`AvahiEntryGroup` and does no more than record these calls. -/
structure AvahiEntryGroup where
  services : List AvahiService
  committed : Bool
  deriving DecidableEq, Repr

/-- `avahi_entry_group_new`. -/
def AvahiEntryGroup.new : AvahiEntryGroup := ⟨[], false⟩

/-- What the daemon answers to one call of `registerService`: whether there can be a group, and
the results of adding to it and of committing it. -/
structure Publish where
  groupMade : Bool
  addService : ℤ
  commit : ℤ
  deriving DecidableEq, Repr

/-- `ZConfService`; the port is not initialised. -/
structure ZConfService where
  client : ZConfServiceClient
  group : Option AvahiEntryGroup
  name : QString
  port : Option UInt16
  type : QString
  error : ℤ
  deriving DecidableEq, Repr

namespace ZConfService

/-- The constructor, which runs the client. -/
def new (reported : List AvahiClientState) : ZConfService where
  client := (ZConfServiceClient.new.run reported).1
  group := none
  name := []
  port := none
  type := []
  error := 0

/-- `isValid`. -/
def isValid (s : ZConfService) : Bool := s.group.isSome && s.error = 0

/-- `registerService`.  It fails where it asks whether a group is empty that there is not. -/
def registerService (s : ZConfService) (name : QString) (port : UInt16) (type : QString)
    (publish : Publish) : Option ZConfService :=
  if s.client.client ≠ some .running then some s
  else
    let s := { s with name := name, port := some port, type := type }
    let group := match s.group with
      | some group => some group
      | none => if publish.groupMade then some .new else none
    group.map fun group =>
      if group.services = [] then
        if publish.addService ≠ 0 then
          { s with group := some group, error := publish.addService }
        else
          { s with
            group := some
              { services := group.services ++ [⟨name.latin1Data, type.latin1Data, port⟩]
                committed := publish.commit = 0 }
            error := publish.commit }
      else { s with group := some group }

/-- `resetService`; `avahi_entry_group_reset` needs a group. -/
def resetService (s : ZConfService) : Option ZConfService :=
  s.group.map fun _ => { s with group := some ⟨[], false⟩ }

/-- What can happen to the service.  The callback of the group only emits signals, so it is not
among the events. -/
inductive Event
  | clientCallback (state : AvahiClientState)
  | registerService (name : QString) (port : UInt16) (type : QString) (publish : Publish)
  | resetService

/-- One event. -/
def step (s : ZConfService) : Event → Option ZConfService
  | .clientCallback state => some { s with client := (s.client.callback state).1 }
  | .registerService name port type publish => s.registerService name port type publish
  | .resetService => s.resetService

/-! ## What is published -/

/-- The calls of `registerService` that were made while the client was running and since the last
reset, with what the daemon answered. -/
structure Calls where
  running : Bool
  made : List (AvahiService × Publish)

/-- The calls after one more event. -/
def Calls.record (calls : Calls) : Event → Calls
  | .clientCallback state => { calls with running := state = .running }
  | .registerService name port type publish =>
      if calls.running then
        { calls with
          made := calls.made ++ [(⟨name.latin1Data, type.latin1Data, port⟩, publish)] }
      else calls
  | .resetService => { calls with made := [] }

/-- The calls of a run. -/
def recorded (reported : List AvahiClientState) (es : List Event) : Calls :=
  es.foldl Calls.record ⟨reported.getLast? = some .running, []⟩

/-- The call that the daemon took: the first one that did not fail. -/
def Calls.taken (calls : Calls) : Option (AvahiService × Publish) :=
  calls.made.find? fun call => call.2.addService = 0

/-- The group that the daemon keeps for a call it took. -/
def groupOf (call : AvahiService × Publish) : AvahiEntryGroup :=
  ⟨[call.1], call.2.commit = 0⟩

/-- The invariant of the service and its calls. -/
structure Follows (calls : Calls) (s : ZConfService) : Prop where
  running : s.client.client = some .running ↔ calls.running = true
  group : s.group.getD .new = (calls.taken.map groupOf).getD .new
  error : ∀ call, calls.taken = some call → s.group.isSome ∧ s.error = call.2.commit

variable {calls : Calls} {s s' : ZConfService}

lemma taken_append (made : List (AvahiService × Publish)) (call : AvahiService × Publish)
    (running : Bool) :
    Calls.taken ⟨running, made ++ [call]⟩
      = (Calls.taken ⟨running, made⟩).or (if call.2.addService = 0 then some call else none) := by
  rw [Calls.taken, Calls.taken, List.find?_append, List.find?_singleton]
  simp only [decide_eq_true_eq]

/-- A call while the client runs: the daemon is asked only if nothing is published yet. -/
lemma registerService_running {name type : QString} {port : UInt16} {publish : Publish}
    (hrunning : s.client.client = some .running)
    (h : s.registerService name port type publish = some s') :
    s'.client = s.client ∧ s'.group.isSome ∧
      (s.group.getD .new).services ≠ [] ∧ s'.group.getD .new = s.group.getD .new ∧
        s'.error = s.error ∨
      s'.client = s.client ∧ s'.group.isSome ∧ (s.group.getD .new).services = [] ∧
        (publish.addService ≠ 0 ∧ s'.group.getD .new = s.group.getD .new ∧
            s'.error = publish.addService ∨
          publish.addService = 0 ∧
            s'.group.getD .new = groupOf (⟨name.latin1Data, type.latin1Data, port⟩, publish) ∧
            s'.error = publish.commit) := by
  simp only [registerService, hrunning, ne_eq, not_true_eq_false, if_false,
    Option.map_eq_some_iff] at h
  rcases h with ⟨group, hgroup, rfl⟩
  have hsame : s.group.getD .new = group := by
    cases hs : s.group with
    | some g =>
        rw [hs] at hgroup
        exact Option.some.inj hgroup
    | none =>
        rw [hs] at hgroup
        dsimp only at hgroup
        split at hgroup
        case isTrue => exact Option.some.inj hgroup
        case isFalse => cases hgroup
  rw [hsame]
  by_cases hempty : group.services = []
  · rw [if_pos hempty]
    refine Or.inr ?_
    by_cases hadd : publish.addService = 0
    · rw [if_neg (not_not.mpr hadd)]
      refine ⟨rfl, rfl, hempty, Or.inr ⟨hadd, ?_, rfl⟩⟩
      rw [Option.getD_some, hempty, List.nil_append, groupOf]
    · rw [if_pos hadd]
      exact ⟨rfl, rfl, hempty, Or.inl ⟨hadd, rfl, rfl⟩⟩
  · rw [if_neg hempty]
    exact Or.inl ⟨rfl, rfl, hempty, rfl, rfl⟩

lemma follows_new (reported : List AvahiClientState) :
    Follows ⟨reported.getLast? = some .running, []⟩ (new reported) where
  running := by
    rw [new, ZConfServiceClient.run_new, decide_eq_true_eq]
  group := rfl
  error := by
    rintro call ⟨⟩

lemma follows_registerService {name type : QString} {port : UInt16} {publish : Publish}
    (hs : Follows calls s) (h : s.registerService name port type publish = some s') :
    Follows (calls.record (.registerService name port type publish)) s' := by
  rw [Calls.record]
  by_cases hrunning : s.client.client = some .running
  · rw [if_pos (hs.running.mp hrunning)]
    have htaken := taken_append calls.made (⟨name.latin1Data, type.latin1Data, port⟩, publish)
      calls.running
    rcases registerService_running hrunning h with
      ⟨hclient, hsome, hfull, hgroup, herror⟩ | ⟨hclient, hsome, hempty, hcall⟩
    · -- something is published, so an earlier call was taken
      obtain ⟨call, hcall⟩ : ∃ call, calls.taken = some call := by
        rw [hs.group] at hfull
        cases htook : calls.taken with
        | some call => exact ⟨call, rfl⟩
        | none =>
            rw [htook] at hfull
            exact absurd rfl hfull
      rw [show Calls.taken ⟨calls.running, calls.made⟩ = some call from hcall,
        Option.some_or] at htaken
      refine ⟨hclient ▸ hs.running, ?_, ?_⟩
      · rw [htaken, hgroup, hs.group, hcall]
      · intro call' hcall'
        rw [htaken, Option.some.injEq] at hcall'
        rw [← hcall', herror]
        exact ⟨hsome, (hs.error call hcall).2⟩
    · have hnone : Calls.taken ⟨calls.running, calls.made⟩ = none := by
        cases htook : calls.taken with
        | none => rfl
        | some call =>
            rw [hs.group, htook] at hempty
            cases hempty
      rw [hnone, Option.none_or] at htaken
      rcases hcall with ⟨hadd, hgroup, -⟩ | ⟨hadd, hgroup, herror⟩
      · rw [if_neg hadd] at htaken
        refine ⟨hclient ▸ hs.running, ?_, ?_⟩
        · rw [htaken, hgroup, hs.group, show calls.taken = none from hnone]
        · intro call' hcall'
          rw [htaken] at hcall'
          cases hcall'
      · rw [if_pos hadd] at htaken
        refine ⟨hclient ▸ hs.running, ?_, ?_⟩
        · rw [htaken, hgroup]
          rfl
        · intro call' hcall'
          rw [htaken, Option.some.injEq] at hcall'
          rw [← hcall']
          exact ⟨hsome, herror⟩
  · rw [if_neg (fun hr => hrunning (hs.running.mpr hr))]
    rw [registerService, if_pos hrunning, Option.some.injEq] at h
    exact h ▸ hs

/-- **One event** keeps the service and its calls in step. -/
lemma follows_step {e : Event} (hs : Follows calls s) (h : s.step e = some s') :
    Follows (calls.record e) s' := by
  cases e with
  | clientCallback state =>
      cases h
      refine ⟨?_, hs.group, hs.error⟩
      show some state = some .running ↔ decide (state = .running) = true
      rw [decide_eq_true_eq, Option.some.injEq]
  | registerService name port type publish => exact follows_registerService hs h
  | resetService =>
      rw [step, resetService, Option.map_eq_some_iff] at h
      rcases h with ⟨group, -, rfl⟩
      refine ⟨hs.running, rfl, ?_⟩
      rintro call ⟨⟩

lemma follows_run {reported : List AvahiClientState} {es : List Event}
    (h : run step (new reported) es = some s) : Follows (recorded reported es) s := by
  refine run_history_invariant (I := fun es s => Follows (recorded reported es) s)
    (follows_new reported) ?_ es h
  intro es s e s' _ hs hstep
  rw [recorded, List.foldl_append]
  exact follows_step hs hstep

/-- **What is published.**  After every run of calls and callbacks the group holds the service of
the call that the daemon took and nothing else: later calls are ignored until the next reset, also
if the commit failed.  A published service is valid. -/
theorem registration_law {reported : List AvahiClientState} {es : List Event}
    (h : run step (new reported) es = some s) :
    s.group.getD .new = (((recorded reported es).taken).map groupOf).getD .new ∧
      ((s.group.getD .new).committed = true → s.isValid = true) := by
  have hs := follows_run h
  refine ⟨hs.group, ?_⟩
  intro hcommitted
  rw [hs.group] at hcommitted
  cases htaken : (recorded reported es).taken with
  | none =>
      rw [htaken] at hcommitted
      cases hcommitted
  | some call =>
      rcases hs.error call htaken with ⟨hsome, herror⟩
      rw [htaken] at hcommitted
      have hcommit : call.2.commit = 0 := of_decide_eq_true hcommitted
      rw [isValid, hsome, herror, hcommit]
      rfl

/-- A service is published, a second call is ignored, and after a reset the third is published. -/
theorem registration_law_reset :
    ∃ s, run step (new [.running])
        [.registerService (literal "a") 1 (literal "t") ⟨true, 0, 0⟩,
          .registerService (literal "b") 2 (literal "t") ⟨true, 0, 0⟩,
          .resetService,
          .registerService (literal "c") 3 (literal "t") ⟨true, 0, 0⟩] = some s ∧
      (s.group.getD .new).services = [⟨[99], [116], 3⟩] := by
  have hrun : (run step (new [.running])
      [.registerService (literal "a") 1 (literal "t") ⟨true, 0, 0⟩,
        .registerService (literal "b") 2 (literal "t") ⟨true, 0, 0⟩,
        .resetService,
        .registerService (literal "c") 3 (literal "t") ⟨true, 0, 0⟩]).isSome := rfl
  rcases Option.isSome_iff_exists.mp hrun with ⟨s, h⟩
  refine ⟨s, h, ?_⟩
  rw [(registration_law h).1]
  rfl

/-! ## The controller's service -/

/-- The call of `registerService` in the window's constructor. -/
def lightControllerSvc (publish : Publish) : Event :=
  .registerService (literal "light_controller") 48049 (literal "_light_controllerui._tcp") publish

/-- The controller, as the daemon announces it. -/
def lightControllerAnnounced : AvahiEntryGroup :=
  ⟨[⟨(literal "light_controller").latin1Data, (literal "_light_controllerui._tcp").latin1Data,
    48049⟩], true⟩

/-- Callbacks of the client make no calls. -/
lemma made_clientCallbacks (states : List AvahiClientState) (calls : Calls) :
    ((states.map Event.clientCallback).foldl Calls.record calls).made = calls.made := by
  induction states generalizing calls with
  | nil => rfl
  | cons state states ih =>
      rw [List.map_cons, List.foldl_cons, ih]
      rfl

/-- What is published, whatever the daemon reports after the window's constructor. -/
lemma group_lightControllerSvc {reported states : List AvahiClientState} {publish : Publish}
    (h : run step (new reported)
      (lightControllerSvc publish :: states.map Event.clientCallback) = some s) :
    s.group.getD .new = if reported.getLast? = some .running ∧ publish.addService = 0
      then ⟨lightControllerAnnounced.services, publish.commit = 0⟩ else .new := by
  have hs := follows_run h
  have hmade := made_clientCallbacks states
    (Calls.record ⟨reported.getLast? = some .running, []⟩ (lightControllerSvc publish))
  rw [hs.group, Calls.taken, recorded, List.foldl_cons, hmade, lightControllerSvc, Calls.record]
  by_cases hrunning : reported.getLast? = some .running
  · rw [if_pos (decide_eq_true hrunning), List.nil_append, List.find?_singleton]
    by_cases hadd : publish.addService = 0
    · rw [if_pos (decide_eq_true hadd), if_pos ⟨hrunning, hadd⟩]
      rfl
    · rw [if_neg (by simpa using hadd), if_neg fun hall => hadd hall.2]
      rfl
  · rw [if_neg (by simpa using hrunning), if_neg fun hall => hrunning hall.1]
    rfl

end ZConfService

end LightControl
