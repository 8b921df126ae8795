import LightControl.Core.Objects
import LightControl.Core.Transducer
import LightControl.RemoteUi.LightControllerRemoteUi
import LightControl.Zeroconf.ZConfService

/-!
# How the remote UI looks for controllers

`zconfservicebrowser.cpp`: one Avahi browser, made when the client runs; for each new service a
resolver of its own, which is freed in its callback; and the table of the services that were
resolved.

* `feed_browser`, `browsing_iff` — the Avahi browser is made at the first report that the client
  is running, whenever that comes, and it is there for good.
* `step_hears` — what one event does, in terms of what is heard of the services.
* `browser_law` — from it, for whole runs: the signals, the table, in which each name has what was
  heard of it last, and the resolvers, which answer once at most.
-/

namespace LightControl

open QString Objects Transducer

/-- `AvahiBrowserEvent`. -/
inductive AvahiBrowserEvent
  | new
  | remove
  | failure
  | allForNow
  | cacheExhausted
  deriving DecidableEq, Repr

/-- The signals of the service browser. -/
inductive BrowserSignal
  | serviceEntryAdded (name : QString)
  | serviceEntryRemoved (name : QString)
  deriving DecidableEq, Repr

/-- `ZConfServiceBrowser`.  `browser` is the type that the Avahi browser was made for, `resolvers`
are the names that the resolvers were made for. -/
structure ZConfServiceBrowser where
  client : ZConfServiceClient
  browser : Option QString
  type : QString
  entries : List (QString × ZConfServiceEntry)
  resolvers : Objects QString
  deriving DecidableEq, Repr

/-- What can happen to it.  `made` says whether Avahi can make the object that is asked for, and
`found` is what a resolver has found, if it has not failed. -/
inductive BrowserEvent
  | browse (serviceType : QString) (reported : List AvahiClientState) (made : Bool)
  | clientCallback (state : AvahiClientState) (made : Bool)
  | callback (event : AvahiBrowserEvent) (name : QString) (made : Bool)
  | resolve (resolver : ℕ) (found : Option ZConfServiceEntry)

namespace ZConfServiceBrowser

/-- The constructor. -/
def new : ZConfServiceBrowser where
  client := .new
  browser := none
  type := []
  entries := []
  resolvers := []

/-- `serviceEntry`: an unknown name has a value-initialised entry, whose protocol is the one with
the number 0. -/
def serviceEntry (b : ZConfServiceBrowser) (name : QString) : ZConfServiceEntry :=
  (b.entries.lookup name).getD ⟨[], 0, .inet⟩

/-- `createServiceBrowser`. -/
def createServiceBrowser (b : ZConfServiceBrowser) (made : Bool) : ZConfServiceBrowser :=
  if b.browser.isSome then b
  else { b with browser := if made then some b.type else none }

/-- The slot that is connected to the signals of the client. -/
def onClientSignal (made : Bool) (b : ZConfServiceBrowser) (signal : ZConfClientSignal) :
    ZConfServiceBrowser :=
  if signal = .clientRunning then b.createServiceBrowser made else b

/-- `browse`. -/
def browse (b : ZConfServiceBrowser) (serviceType : QString) (reported : List AvahiClientState)
    (made : Bool) : ZConfServiceBrowser :=
  let ran := b.client.run reported
  ran.2.foldl (onClientSignal made) { b with type := serviceType, client := ran.1 }

/-- `QHash::remove`. -/
def removed (entries : List (QString × ZConfServiceEntry)) (name : QString) :
    List (QString × ZConfServiceEntry) :=
  entries.filter fun e => e.1 ≠ name

/-- `callback`, with the signals it emits; only an Avahi browser calls back. -/
def callback (b : ZConfServiceBrowser) (event : AvahiBrowserEvent) (name : QString)
    (made : Bool) : ZConfServiceBrowser × List BrowserSignal :=
  if b.browser.isSome then
    match event with
    | .new => (if made then { b with resolvers := b.resolvers.create name } else b, [])
    | .remove => ({ b with entries := removed b.entries name }, [.serviceEntryRemoved name])
    | _ => (b, [])
  else (b, [])

/-- `resolve`, with the signals it emits; a freed resolver does not call back. -/
def resolve (b : ZConfServiceBrowser) (resolver : ℕ) (found : Option ZConfServiceEntry) :
    ZConfServiceBrowser × List BrowserSignal :=
  match b.resolvers.get resolver with
  | none => (b, [])
  | some name =>
      let b := { b with resolvers := b.resolvers.delete resolver }
      match found with
      | none => (b, [])
      | some entry =>
          ({ b with entries := (name, entry) :: removed b.entries name },
            [.serviceEntryAdded name])

/-- One event. -/
def step (b : ZConfServiceBrowser) :
    BrowserEvent → ZConfServiceBrowser × List BrowserSignal
  | .browse serviceType reported made => (b.browse serviceType reported made, [])
  | .clientCallback state made =>
      let called := b.client.callback state
      (onClientSignal made { b with client := called.1 } called.2, [])
  | .callback event name made => b.callback event name made
  | .resolve resolver found => b.resolve resolver found

variable {b : ZConfServiceBrowser}

/-! ## The Avahi browser -/

lemma createServiceBrowser_browser (b : ZConfServiceBrowser) (made : Bool) :
    (b.createServiceBrowser made).browser = b.browser.or (if made then some b.type else none) ∧
      (b.createServiceBrowser made).type = b.type := by
  rw [createServiceBrowser]
  cases hb : b.browser with
  | some t =>
      rw [if_pos (Option.isSome_some)]
      exact ⟨hb, rfl⟩
  | none => exact ⟨rfl, rfl⟩

/-- What the slot of the client's signals keeps, the fold over them keeps. -/
lemma browse_kept {I : ZConfServiceBrowser → Prop} {serviceType : QString}
    {reported : List AvahiClientState} {made : Bool}
    (hslot : ∀ b signal, I b → I (onClientSignal made b signal))
    (h0 : ∀ client, I { b with type := serviceType, client := client }) :
    I (b.browse serviceType reported made) := by
  rw [browse]
  exact List.foldlRecOn _ _ (h0 _) fun b hb signal _ => hslot b signal hb

lemma onClientSignal_browser {t : QString} (made : Bool) {b : ZConfServiceBrowser}
    (hb : b.browser = some t) (signal : ZConfClientSignal) :
    (onClientSignal made b signal).browser = some t := by
  rw [onClientSignal]
  split
  case isTrue => rw [(createServiceBrowser_browser b made).1, hb, Option.some_or]
  case isFalse => exact hb

lemma step_browser {t : QString} (hb : b.browser = some t) (e : BrowserEvent) :
    (b.step e).1.browser = some t := by
  cases e with
  | browse serviceType reported made =>
      exact browse_kept (I := fun c => c.browser = some t)
        (fun _ signal h => onClientSignal_browser made h signal) fun _ => hb
  | clientCallback state made =>
      refine onClientSignal_browser made ?_ _
      exact hb
  | callback event name made =>
      simp only [step, callback]
      split
      case isTrue =>
        cases event with
        | new =>
            cases made with
            | true => exact hb
            | false => exact hb
        | _ => exact hb
      case isFalse => exact hb
  | resolve resolver found =>
      rw [step, resolve]
      cases b.resolvers.get resolver with
      | none => exact hb
      | some name =>
          cases found with
          | none => exact hb
          | some entry => exact hb

/-- **The Avahi browser is made once**: it is there for the type that it was made for, whatever
happens later. -/
theorem feed_browser {t : QString} (es : List BrowserEvent) (hb : b.browser = some t) :
    (feed step b es).1.browser = some t := by
  induction es generalizing b with
  | nil => exact hb
  | cons e es ih => exact ih (step_browser hb e)

/-! ## What is heard -/

/-- What the browser hears in an event. -/
inductive Heard
  | asked (name : QString)
  | answered (name : QString) (found : Option ZConfServiceEntry)
  | gone (name : QString)
  deriving DecidableEq, Repr

/-- A resolver is made, or gives its answer, or a service is gone. -/
def heard (b : ZConfServiceBrowser) : BrowserEvent → List Heard
  | .callback .new name true => if b.browser.isSome then [.asked name] else []
  | .callback .remove name _ => if b.browser.isSome then [.gone name] else []
  | .resolve resolver found =>
      match b.resolvers.get resolver with
      | some name => [.answered name found]
      | none => []
  | _ => []

/-- The browser with what it hears. -/
def listen (b : ZConfServiceBrowser) (e : BrowserEvent) : ZConfServiceBrowser × List Heard :=
  ((b.step e).1, b.heard e)

/-- What a piece of news says about a name. -/
def Heard.news (name : QString) : Heard → Option (Option ZConfServiceEntry)
  | asked _ => none
  | answered n found => if n = name then found.map some else none
  | gone n => if n = name then some none else none

/-- The signal that a piece of news emits. -/
def Heard.signal : Heard → Option BrowserSignal
  | asked _ => none
  | answered name found => found.map fun _ => .serviceEntryAdded name
  | gone name => some (.serviceEntryRemoved name)

/-- The name that a resolver is made for. -/
def Heard.question : Heard → Option QString
  | asked name => some name
  | _ => none

/-- The name that a resolver gives its answer for. -/
def Heard.answer : Heard → Option QString
  | answered name _ => some name
  | _ => none

lemma lookup_removed (entries : List (QString × ZConfServiceEntry)) (name name' : QString) :
    (removed entries name).lookup name'
      = if name' = name then none else entries.lookup name' := by
  induction entries with
  | nil => simp [removed]
  | cons e entries ih =>
      rw [removed] at ih ⊢
      by_cases he : e.1 = name
      · rw [List.filter_cons_of_neg (by simpa using he), ih, List.lookup_cons]
        by_cases hn : name' = name
        · rw [if_pos hn, if_pos hn]
        · rw [if_neg hn, if_neg hn, he, beq_eq_false_iff_ne.mpr hn]
      · rw [List.filter_cons_of_pos (by simpa using he), List.lookup_cons, List.lookup_cons, ih]
        by_cases hn : name' = e.1
        · simp [hn, he]
        · rw [beq_eq_false_iff_ne.mpr hn]

/-- The client's signals touch neither the table nor the resolvers. -/
lemma onClientSignal_rest (made : Bool) (b : ZConfServiceBrowser) (signal : ZConfClientSignal) :
    (onClientSignal made b signal).entries = b.entries ∧
      (onClientSignal made b signal).resolvers = b.resolvers := by
  rw [onClientSignal]
  split
  case isTrue =>
    rw [createServiceBrowser]
    split <;> exact ⟨rfl, rfl⟩
  case isFalse => exact ⟨rfl, rfl⟩

lemma browse_rest (b : ZConfServiceBrowser) (serviceType : QString)
    (reported : List AvahiClientState) (made : Bool) :
    (b.browse serviceType reported made).entries = b.entries ∧
      (b.browse serviceType reported made).resolvers = b.resolvers := by
  refine browse_kept (I := fun c => c.entries = b.entries ∧ c.resolvers = b.resolvers) ?_
    fun _ => ⟨rfl, rfl⟩
  rintro c signal ⟨hentries, hresolvers⟩
  rcases onClientSignal_rest made c signal with ⟨hentries', hresolvers'⟩
  exact ⟨hentries'.trans hentries, hresolvers'.trans hresolvers⟩

/-- What an event does, in terms of what is heard. -/
structure Hears (b : ZConfServiceBrowser) (after : ZConfServiceBrowser × List BrowserSignal)
    (news : List Heard) : Prop where
  signals : after.2 = news.filterMap Heard.signal
  entries : ∀ name, after.1.entries.lookup name
    = ((news.filterMap (Heard.news name)).getLast?).getD (b.entries.lookup name)
  resolvers : ∀ f : QString → ℕ,
    after.1.resolvers.total f + ((news.filterMap Heard.answer).map f).sum
      = b.resolvers.total f + ((news.filterMap Heard.question).map f).sum

lemma hears_nothing {after : ZConfServiceBrowser} (hentries : after.entries = b.entries)
    (hresolvers : after.resolvers = b.resolvers) : Hears b (after, []) [] where
  signals := rfl
  entries name := by
    rw [hentries]
    rfl
  resolvers f := by
    rw [hresolvers]
    rfl

/-- **One event**, in terms of what is heard: the signals, the table and the resolvers. -/
theorem step_hears (b : ZConfServiceBrowser) (e : BrowserEvent) :
    Hears b (b.step e) (b.heard e) := by
  cases e with
  | browse serviceType reported made =>
      exact hears_nothing (browse_rest b _ _ _).1 (browse_rest b _ _ _).2
  | clientCallback state made =>
      exact hears_nothing (onClientSignal_rest made _ _).1 (onClientSignal_rest made _ _).2
  | callback event name made =>
      cases hb : b.browser.isSome with
      | false =>
          have hquiet : b.heard (.callback event name made) = [] := by
            cases event <;> cases made <;> simp [heard, hb]
          rw [hquiet]
          simp only [step, callback, hb]
          exact hears_nothing rfl rfl
      | true =>
          cases event with
          | new =>
              cases made with
              | false =>
                  simp only [step, callback, heard, hb, if_true]
                  exact hears_nothing rfl rfl
              | true =>
                  simp only [step, callback, heard, hb, if_true]
                  exact ⟨rfl, fun _ => rfl, fun f => total_create⟩
          | remove =>
              simp only [step, callback, heard, hb, if_true]
              refine ⟨rfl, fun name' => ?_, fun f => rfl⟩
              rw [lookup_removed]
              by_cases hn : name' = name
              · simp [Heard.news, hn]
              · simp [Heard.news, hn, Ne.symm hn]
          | failure =>
              simp only [step, callback, heard, hb, if_true]
              exact hears_nothing rfl rfl
          | allForNow =>
              simp only [step, callback, heard, hb, if_true]
              exact hears_nothing rfl rfl
          | cacheExhausted =>
              simp only [step, callback, heard, hb, if_true]
              exact hears_nothing rfl rfl
  | resolve resolver found =>
      simp only [step, resolve, heard]
      cases hget : b.resolvers.get resolver with
      | none => exact hears_nothing rfl rfl
      | some name =>
          have htotal := fun f : QString → ℕ => total_delete (f := f) hget
          cases found with
          | none =>
              refine ⟨rfl, fun name' => ?_, fun f => ?_⟩
              · by_cases hn : name = name' <;> simp [Heard.news, hn]
              · exact htotal f
          | some entry =>
              refine ⟨rfl, fun name' => ?_, fun f => ?_⟩
              · rw [List.lookup_cons, lookup_removed]
                by_cases hn : name' = name
                · simp [Heard.news, hn]
                · simp [Heard.news, hn, Ne.symm hn, beq_eq_false_iff_ne.mpr hn]
              · exact htotal f

/-! ## Runs -/

lemma Hears.trans {b₁ b₂ : ZConfServiceBrowser} {signals₁ signals₂ : List BrowserSignal}
    {news₁ news₂ : List Heard} (h₁ : Hears b (b₁, signals₁) news₁)
    (h₂ : Hears b₁ (b₂, signals₂) news₂) :
    Hears b (b₂, signals₁ ++ signals₂) (news₁ ++ news₂) where
  signals := by
    rw [List.filterMap_append, ← h₁.signals, ← h₂.signals]
  entries name := by
    rw [h₂.entries, h₁.entries, List.filterMap_append, List.getLast?_append]
    cases ((news₂.filterMap (Heard.news name)).getLast?) <;> rfl
  resolvers f := by
    have hfirst := h₁.resolvers f
    have hsecond := h₂.resolvers f
    simp only [List.filterMap_append, List.map_append, List.sum_append] at hfirst hsecond ⊢
    omega

/-- **A whole run**, in terms of what is heard. -/
theorem feed_hears (es : List BrowserEvent) (b : ZConfServiceBrowser) :
    Hears b (feed step b es) (feed listen b es).2 := by
  induction es generalizing b with
  | nil => exact hears_nothing rfl rfl
  | cons e es ih => exact (step_hears b e).trans (ih (b.step e).1)

/-- How many resolvers are waiting for an answer for a name. -/
def waiting (b : ZConfServiceBrowser) (name : QString) : ℕ :=
  b.resolvers.total fun n => if n = name then 1 else 0

lemma sum_map_eq_count (names : List QString) (name : QString) :
    (names.map fun n => if n = name then 1 else 0).sum = names.count name := by
  induction names with
  | nil => rfl
  | cons n names ih =>
      rw [List.map_cons, List.sum_cons, ih, List.count_cons]
      by_cases hn : n = name
      · simp [hn, Nat.add_comm]
      · simp [hn]

/-- **The law of the browser**, for every run from its constructor: it emits a signal for each
service that is resolved or gone, the table says of each name what was heard of it last, and for
each name the resolvers that have answered and those that wait are as many as were made. -/
theorem browser_law (es : List BrowserEvent) :
    (feed step new es).2 = (feed listen new es).2.filterMap Heard.signal ∧
    (∀ name, (feed step new es).1.entries.lookup name
      = ((((feed listen new es).2.filterMap (Heard.news name)).getLast?).getD none)) ∧
    ∀ name, (feed step new es).1.waiting name
        + ((feed listen new es).2.filterMap Heard.answer).count name
      = ((feed listen new es).2.filterMap Heard.question).count name := by
  have h := feed_hears es new
  refine ⟨h.signals, h.entries, ?_⟩
  intro name
  have hresolvers := h.resolvers fun n => if n = name then 1 else 0
  rw [sum_map_eq_count, sum_map_eq_count] at hresolvers
  have hnone : new.resolvers.total (fun n => if n = name then 1 else 0) = 0 := rfl
  rw [hnone, Nat.zero_add] at hresolvers
  exact hresolvers

/-! ## When the remote browses -/

/-- Not a call of `browse`. -/
def isCallback : BrowserEvent → Bool
  | .browse _ _ _ => false
  | _ => true

/-- The client reports that it is running, and an Avahi browser can be made. -/
def reportsRunning : BrowserEvent → Bool
  | .clientCallback state made => state = .running && made
  | _ => false

lemma onClientSignal_made (made : Bool) (b : ZConfServiceBrowser) (signal : ZConfClientSignal) :
    (onClientSignal made b signal).browser
        = b.browser.or (if signal = .clientRunning ∧ made = true then some b.type else none) ∧
      (onClientSignal made b signal).type = b.type := by
  rw [onClientSignal]
  by_cases hsignal : signal = .clientRunning
  · simp only [hsignal, if_true, true_and]
    exact createServiceBrowser_browser b made
  · simp [hsignal]

lemma foldl_onClientSignal_made (made : Bool) (signals : List ZConfClientSignal)
    (b : ZConfServiceBrowser) :
    (signals.foldl (onClientSignal made) b).browser
        = b.browser.or
            (if .clientRunning ∈ signals ∧ made = true then some b.type else none) ∧
      (signals.foldl (onClientSignal made) b).type = b.type := by
  induction signals generalizing b with
  | nil => simp
  | cons signal signals ih =>
      rcases onClientSignal_made made b signal with ⟨hbrowser, htype⟩
      rw [List.foldl_cons, (ih _).1, (ih _).2, hbrowser, htype, Option.or_assoc]
      refine ⟨?_, rfl⟩
      by_cases hsignal : signal = .clientRunning
      · cases made <;> simp [hsignal]
      · simp [hsignal, Ne.symm hsignal]

lemma step_made {e : BrowserEvent} (he : isCallback e = true) :
    (b.step e).1.browser
        = b.browser.or (if reportsRunning e = true then some b.type else none) ∧
      (b.step e).1.type = b.type := by
  have hkept : ∀ c : ZConfServiceBrowser, c.browser = b.browser → c.type = b.type →
      c.browser = b.browser.or none ∧ c.type = b.type := by
    intro c hbrowser htype
    rw [Option.or_none]
    exact ⟨hbrowser, htype⟩
  cases e with
  | browse serviceType reported made => cases he
  | clientCallback state made =>
      rw [step, reportsRunning]
      rcases onClientSignal_made made { b with client := (b.client.callback state).1 }
        (b.client.callback state).2 with ⟨hbrowser, htype⟩
      refine ⟨hbrowser.trans ?_, htype⟩
      cases state <;> cases made <;> rfl
  | callback event name made =>
      simp only [step, callback]
      split
      case isTrue =>
        cases event with
        | new =>
            cases made with
            | true => exact hkept _ rfl rfl
            | false => exact hkept _ rfl rfl
        | _ => exact hkept _ rfl rfl
      case isFalse => exact hkept _ rfl rfl
  | resolve resolver found =>
      simp only [step, resolve]
      cases b.resolvers.get resolver with
      | none => exact hkept _ rfl rfl
      | some name =>
          cases found with
          | none => exact hkept _ rfl rfl
          | some entry => exact hkept _ rfl rfl

/-- The first call of `browse`, which runs the client. -/
lemma browse_new_made (serviceType : QString) (reported : List AvahiClientState) (made : Bool) :
    (new.browse serviceType reported made).browser
        = (if .running ∈ reported ∧ made = true then some serviceType else none) ∧
      (new.browse serviceType reported made).type = serviceType := by
  have hsignal : .clientRunning ∈ (ZConfServiceClient.new.run reported).2 ↔
      .running ∈ reported := by
    rw [ZConfServiceClient.run_new_signals, List.mem_map]
    constructor
    · rintro ⟨state, hstate, hruns⟩
      cases state with
      | running => exact hstate
      | _ => cases hruns
    · intro hmem
      exact ⟨.running, hmem, rfl⟩
  rcases foldl_onClientSignal_made made (ZConfServiceClient.new.run reported).2
    { new with type := serviceType, client := (ZConfServiceClient.new.run reported).1 }
    with ⟨hbrowser, htype⟩
  simp only [hsignal] at hbrowser
  exact ⟨hbrowser, htype⟩

/-- **When the remote browses.**  After its constructor has called `browse`, and whatever is called
back later: there is an Avahi browser for the type exactly if the client has reported, then or at
any time since, that it is running, and one could be made. -/
theorem browsing_iff (serviceType : QString) (reported : List AvahiClientState) (made : Bool)
    {es : List BrowserEvent} (hes : ∀ e ∈ es, isCallback e = true) :
    (feed step new (.browse serviceType reported made :: es)).1.browser
      = if (.running ∈ reported ∧ made = true) ∨ ∃ e ∈ es, reportsRunning e = true
        then some serviceType else none := by
  have hlater : ∀ b : ZConfServiceBrowser, (feed step b es).1.browser
      = b.browser.or
          (if ∃ e ∈ es, reportsRunning e = true then some b.type else none) := by
    induction es with
    | nil =>
        intro b
        simp
    | cons e es ih =>
        intro b
        rcases step_made (b := b) (hes e List.mem_cons_self) with ⟨hbrowser, htype⟩
        rw [feed_cons, ih (fun e' he' => hes e' (List.mem_cons_of_mem e he')), hbrowser, htype,
          Option.or_assoc]
        cases hruns : reportsRunning e <;> simp [hruns]
  rcases browse_new_made serviceType reported made with ⟨hbrowser, htype⟩
  rw [feed_cons, hlater, step, hbrowser, htype]
  by_cases hfirst : .running ∈ reported ∧ made = true
  · simp [hfirst]
  · simp [hfirst]

/-- The daemon comes up long after the remote, which browses then. -/
theorem browsing_iff_late :
    (feed step new [.browse (literal "_light_controllerui._tcp") [.registering] true,
      .clientCallback .running true]).1.browser
      = some (literal "_light_controllerui._tcp") := by
  rw [browsing_iff _ _ _ (by decide)]
  exact if_pos (Or.inr ⟨.clientCallback .running true, by simp, rfl⟩)

end ZConfServiceBrowser

end LightControl
