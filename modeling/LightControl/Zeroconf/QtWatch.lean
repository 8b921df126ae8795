import LightControl.Core.Objects
import LightControl.Core.Transducer
import Mathlib.Data.List.Chain

/-!
# Avahi on the Qt event loop

`qt-watch.cpp`: Avahi asks for the events of its socket, and the watch has a `QSocketNotifier` for
each kind of event that is asked for.  The callback that the watch makes may ask again, before it
returns.  Deleting the watch deletes all its notifiers, so the runs here are of one that lives.

* `make_notifiers`, `drop_notifiers` — what one kind of event does to the notifiers of another:
  nothing.
* `setWatchedEvents_follows` — one request, from any state, and `Follows.trans` for a series.
* `watch_law` — from it, for whole runs: the notifier at hand is there as Avahi last asked, one
  more is left behind each time it asks again for what it has, and Avahi is always told that it
  can read.
* `watch_exact_iff` — there are no others exactly if it never does so.
-/

namespace LightControl

open Objects Transducer

/-- The bits of an `AvahiWatchEvent`. -/
def AVAHI_WATCH_IN : ℕ := 1
def AVAHI_WATCH_OUT : ℕ := 4

/-- `QSocketNotifier::Type`. -/
inductive NotifierType
  | read
  | write
  deriving DecidableEq, Repr

/-- `AvahiWatch`, with the notifiers that it has made. -/
structure AvahiWatch where
  notifiers : Objects NotifierType
  m_in : Option ℕ
  m_out : Option ℕ
  m_lastEvent : ℕ
  m_incallback : Bool
  deriving DecidableEq, Repr

/-- What can happen to it: Avahi asks for events, or a notifier is activated, whose callback may
ask for others. -/
inductive WatchEvent
  | update (event : ℕ)
  | activated (notifier : ℕ) (inside : List ℕ)

/-- What passes between the watch and Avahi: the events that are asked for, and a callback with
the event that it is told and the one that it can read from the watch. -/
inductive WatchNews
  | asked (event : ℕ)
  | told (event getEvents : ℕ)
  deriving DecidableEq, Repr

/-- The request in a piece of news. -/
def WatchNews.request : WatchNews → Option ℕ
  | asked event => some event
  | told _ _ => none

namespace AvahiWatch

/-- `delete` of the notifier at hand, which may be null. -/
def deleteNotifier (objs : Objects NotifierType) : Option ℕ → Objects NotifierType
  | none => objs
  | some p => objs.delete p

/-- `setWatchedEvents`. -/
def setWatchedEvents (w : AvahiWatch) (event : ℕ) : AvahiWatch :=
  let w := if event &&& AVAHI_WATCH_IN = 0
    then { w with notifiers := deleteNotifier w.notifiers w.m_in, m_in := none } else w
  let w := if event &&& AVAHI_WATCH_OUT = 0
    then { w with notifiers := deleteNotifier w.notifiers w.m_out, m_out := none } else w
  let w := if event &&& AVAHI_WATCH_IN ≠ 0
    then { w with notifiers := w.notifiers.create .read, m_in := some w.notifiers.length } else w
  if event &&& AVAHI_WATCH_OUT ≠ 0
    then { w with notifiers := w.notifiers.create .write, m_out := some w.notifiers.length }
    else w

/-- The constructor; `m_lastEvent` is left unset. -/
def new (event unset : ℕ) : AvahiWatch :=
  setWatchedEvents ⟨[], none, none, unset, false⟩ event

/-- `getEvents`. -/
def getEvents (w : AvahiWatch) : ℕ := if w.m_incallback then w.m_lastEvent else 0

/-- The callback, which reads the event and asks for others. -/
def call (w : AvahiWatch) (inside : List ℕ) : AvahiWatch × List WatchNews :=
  ({ inside.foldl setWatchedEvents w with m_incallback := false },
    .told w.m_lastEvent w.getEvents :: inside.map .asked)

/-- `gotIn`. -/
def gotIn (w : AvahiWatch) (inside : List ℕ) : AvahiWatch × List WatchNews :=
  { w with m_lastEvent := AVAHI_WATCH_IN, m_incallback := true }.call inside

/-- `gotOut`, which says `AVAHI_WATCH_IN` too. -/
def gotOut (w : AvahiWatch) (inside : List ℕ) : AvahiWatch × List WatchNews :=
  { w with m_lastEvent := AVAHI_WATCH_IN, m_incallback := true }.call inside

/-- One event; a notifier that is deleted is not activated. -/
def step (w : AvahiWatch) : WatchEvent → AvahiWatch × List WatchNews
  | .update event => (w.setWatchedEvents event, [.asked event])
  | .activated notifier inside =>
      match w.notifiers.get notifier with
      | some .read => w.gotIn inside
      | some .write => w.gotOut inside
      | none => (w, [])

/-! ## One kind of event -/

/-- The bit for a kind of event. -/
def bit : NotifierType → ℕ
  | .read => AVAHI_WATCH_IN
  | .write => AVAHI_WATCH_OUT

/-- The events that are asked for have this kind. -/
def asks (kind : NotifierType) (event : ℕ) : Bool := event &&& bit kind ≠ 0

/-- The notifier at hand for a kind of event. -/
def pointer (w : AvahiWatch) : NotifierType → Option ℕ
  | .read => w.m_in
  | .write => w.m_out

/-- How many notifiers there are of a kind. -/
def live (w : AvahiWatch) (kind : NotifierType) : ℕ :=
  w.notifiers.total fun k => if k = kind then 1 else 0

/-- The notifiers at hand are there, and of their kind. -/
def Valid (w : AvahiWatch) : Prop :=
  ∀ kind p, w.pointer kind = some p → w.notifiers.get p = some kind

/-- `delete m_in; m_in = 0`, and the same for `m_out`. -/
def drop (w : AvahiWatch) : NotifierType → AvahiWatch
  | .read => { w with notifiers := deleteNotifier w.notifiers w.m_in, m_in := none }
  | .write => { w with notifiers := deleteNotifier w.notifiers w.m_out, m_out := none }

/-- `m_in = new QSocketNotifier`, and the same for `m_out`. -/
def make (w : AvahiWatch) : NotifierType → AvahiWatch
  | .read => { w with notifiers := w.notifiers.create .read, m_in := some w.notifiers.length }
  | .write => { w with notifiers := w.notifiers.create .write, m_out := some w.notifiers.length }

variable {w : AvahiWatch} {kind : NotifierType}

lemma setWatchedEvents_eq (w : AvahiWatch) (event : ℕ) :
    w.setWatchedEvents event =
      let w := if asks .read event then w else w.drop .read
      let w := if asks .write event then w else w.drop .write
      let w := if asks .read event then w.make .read else w
      if asks .write event then w.make .write else w := by
  by_cases hr : event &&& AVAHI_WATCH_IN = 0 <;> by_cases hw : event &&& AVAHI_WATCH_OUT = 0 <;>
    simp [setWatchedEvents, asks, bit, drop, make, hr, hw]

lemma drop_pointer (w : AvahiWatch) (kind k : NotifierType) :
    (w.drop kind).pointer k = if k = kind then none else w.pointer k := by
  cases kind <;> cases k <;> rfl

lemma make_pointer (w : AvahiWatch) (kind k : NotifierType) :
    (w.make kind).pointer k = if k = kind then some w.notifiers.length else w.pointer k := by
  cases kind <;> cases k <;> rfl

lemma drop_notifiers (w : AvahiWatch) (kind : NotifierType) :
    (w.drop kind).notifiers = deleteNotifier w.notifiers (w.pointer kind) := by
  cases kind <;> rfl

lemma make_notifiers (w : AvahiWatch) (kind : NotifierType) :
    (w.make kind).notifiers = w.notifiers.create kind := by
  cases kind <;> rfl

lemma drop_valid (hw : w.Valid) (kind : NotifierType) : (w.drop kind).Valid := by
  intro k p hp
  rw [drop_pointer] at hp
  split at hp
  case isTrue => cases hp
  case isFalse hk =>
    have hget := hw k p hp
    rw [drop_notifiers]
    cases hq : w.pointer kind with
    | none => exact hget
    | some q =>
        -- the two pointers are apart, since what they point to is
        rw [deleteNotifier, get_delete, if_neg ?_]
        · exact hget
        · rintro rfl
          rw [hw kind p hq, Option.some.injEq] at hget
          exact hk hget.symm

lemma make_valid (hw : w.Valid) (kind : NotifierType) : (w.make kind).Valid := by
  intro k p hp
  rw [make_pointer] at hp
  rw [make_notifiers, get_create]
  split at hp
  case isTrue hk =>
    rw [if_pos (Option.some.inj hp).symm, hk]
  case isFalse hk =>
    have hget := hw k p hp
    rw [if_neg (Nat.ne_of_lt (lt_length_of_get hget)), hget]

lemma drop_live (hw : w.Valid) (kind k : NotifierType) :
    (w.drop kind).live k + (if k = kind then (w.pointer kind).isSome.toNat else 0)
      = w.live k := by
  rw [live, drop_notifiers]
  cases hq : w.pointer kind with
  | none =>
      simp only [deleteNotifier, Option.isSome_none, Bool.toNat_false, ite_self, Nat.add_zero]
      rfl
  | some q =>
      have htotal := total_delete (f := fun k' => if k' = k then 1 else 0) (hw kind q hq)
      rw [deleteNotifier, Option.isSome_some, Bool.toNat_true, if_congr eq_comm rfl rfl]
      exact htotal

lemma make_live (w : AvahiWatch) (kind k : NotifierType) :
    (w.make kind).live k = w.live k + (if k = kind then 1 else 0) := by
  rw [live, make_notifiers, total_create, if_congr eq_comm rfl rfl]
  rfl

/-! ## Requests -/

/-- How often a kind of event is asked for again by the request right after one that asked for
it. -/
def repeats : List Bool → ℕ
  | a :: b :: bs => (a && b).toNat + repeats (b :: bs)
  | _ => 0

lemma repeats_append (a : Bool) (bs cs : List Bool) :
    repeats (a :: (bs ++ cs)) = repeats (a :: bs) + repeats (bs.getLastD a :: cs) := by
  induction bs generalizing a with
  | nil => simp [repeats]
  | cons b bs ih =>
      rw [List.cons_append, repeats, repeats, ih, List.getLastD_cons, Nat.add_assoc]

lemma repeats_eq_zero (a : Bool) (bs : List Bool) :
    repeats (a :: bs) = 0 ↔ (a :: bs).IsChain fun a b => ¬(a = true ∧ b = true) := by
  induction bs generalizing a with
  | nil => simp [repeats]
  | cons b bs ih =>
      rw [List.isChain_cons_cons, ← ih, repeats]
      cases a <;> cases b <;> simp

lemma getLastD_append (a : Bool) (bs cs : List Bool) :
    (bs ++ cs).getLastD a = cs.getLastD (bs.getLastD a) := by
  induction bs generalizing a with
  | nil => rfl
  | cons b bs ih => rw [List.cons_append, List.getLastD_cons, List.getLastD_cons, ih]

/-- What becomes of the notifiers of a watch after some requests. -/
structure Follows (w w' : AvahiWatch) (requests : List ℕ) : Prop where
  valid : w.Valid → w'.Valid
  atHand : ∀ kind, (w'.pointer kind).isSome
    = (requests.map (asks kind)).getLastD (w.pointer kind).isSome
  live : w.Valid → ∀ kind, w'.live kind + (w.pointer kind).isSome.toNat
    = w.live kind + (w'.pointer kind).isSome.toNat
      + repeats ((w.pointer kind).isSome :: requests.map (asks kind))

lemma Follows.refl (w : AvahiWatch) : Follows w w [] where
  valid := id
  atHand _ := rfl
  live _ _ := rfl

lemma Follows.trans {w₁ w₂ : AvahiWatch} {requests₁ requests₂ : List ℕ}
    (h₁ : Follows w w₁ requests₁) (h₂ : Follows w₁ w₂ requests₂) :
    Follows w w₂ (requests₁ ++ requests₂) where
  valid hw := h₂.valid (h₁.valid hw)
  atHand kind := by rw [List.map_append, getLastD_append, h₂.atHand, h₁.atHand]
  live hw kind := by
    have hfirst := h₁.live hw kind
    have hsecond := h₂.live (h₁.valid hw) kind
    rw [h₁.atHand kind] at hfirst hsecond
    rw [List.map_append, repeats_append]
    omega

/-- A request for one kind of event only. -/
lemma drop_make_follows {dropped made : NotifierType} {event : ℕ} (hne : dropped ≠ made)
    (hdropped : asks dropped event = false) (hmade : asks made event = true) :
    Follows w ((w.drop dropped).make made) [event] := by
  have hkind : ∀ kind, kind ≠ made → kind = dropped := by
    intro kind h
    cases kind <;> cases dropped <;> cases made <;> first | rfl | contradiction
  refine ⟨fun h => make_valid (drop_valid h _) _, fun kind => ?_, fun h kind => ?_⟩
  · rw [make_pointer, drop_pointer]
    by_cases hk : kind = made
    · simp [hk, hmade]
    · simp [hkind kind hk, hne, hdropped]
  · have hlive := drop_live h dropped kind
    rw [make_live, make_pointer, drop_pointer]
    by_cases hk : kind = made
    · simp [hk, hne.symm, hmade, repeats] at hlive ⊢
      omega
    · simp [hkind kind hk, hne, hdropped, repeats] at hlive ⊢
      omega

/-- **One request.** -/
lemma setWatchedEvents_follows (w : AvahiWatch) (event : ℕ) :
    Follows w (w.setWatchedEvents event) [event] := by
  rw [setWatchedEvents_eq]
  cases hr : asks .read event <;> cases hw : asks .write event <;>
    simp only [if_true, if_false, Bool.false_eq_true]
  · refine ⟨fun h => drop_valid (drop_valid h _) _, fun kind => ?_, fun h kind => ?_⟩
    · cases kind <;> simp [drop_pointer, hr, hw]
    · have hfirst := drop_live h .read kind
      have hsecond := drop_live (drop_valid h .read) .write kind
      cases kind <;> simp [drop_pointer, repeats, hr, hw] at hfirst hsecond ⊢ <;> omega
  · exact drop_make_follows (by decide) hr hw
  · exact drop_make_follows (by decide) hw hr
  · refine ⟨fun h => make_valid (make_valid h _) _, fun kind => ?_, fun _ kind => ?_⟩
    · cases kind <;> simp [make_pointer, hr, hw]
    · cases kind <;> simp [make_pointer, make_live, repeats, hr, hw]

lemma foldl_follows (requests : List ℕ) (w : AvahiWatch) :
    Follows w (requests.foldl setWatchedEvents w) requests := by
  induction requests generalizing w with
  | nil => exact .refl w
  | cons event requests ih => exact (setWatchedEvents_follows w event).trans (ih _)

/-! ## Runs -/

lemma call_follows (w : AvahiWatch) (inside : List ℕ) :
    Follows w (w.call inside).1 ((w.call inside).2.filterMap WatchNews.request) := by
  have hrequests : (w.call inside).2.filterMap WatchNews.request = inside := by
    simp [call, List.filterMap_cons, List.filterMap_map, Function.comp_def, WatchNews.request]
  rw [hrequests]
  rcases foldl_follows inside w with ⟨hvalid, hatHand, hlive⟩
  exact ⟨hvalid, hatHand, hlive⟩

lemma step_follows (w : AvahiWatch) (e : WatchEvent) :
    Follows w (w.step e).1 ((w.step e).2.filterMap WatchNews.request) := by
  have hcall : ∀ inside, Follows w
      ({ w with m_lastEvent := AVAHI_WATCH_IN, m_incallback := true }.call inside).1
      (({ w with m_lastEvent := AVAHI_WATCH_IN, m_incallback := true }.call inside).2.filterMap
        WatchNews.request) := by
    intro inside
    rcases call_follows { w with m_lastEvent := AVAHI_WATCH_IN, m_incallback := true } inside
      with ⟨hvalid, hatHand, hlive⟩
    exact ⟨hvalid, hatHand, hlive⟩
  cases e with
  | update event => exact setWatchedEvents_follows w event
  | activated notifier inside =>
      rw [step]
      cases w.notifiers.get notifier with
      | none => exact .refl w
      | some kind =>
          cases kind with
          | read => exact hcall inside
          | write => exact hcall inside

/-- **A whole run.** -/
theorem feed_follows (es : List WatchEvent) (w : AvahiWatch) :
    Follows w (feed step w es).1 ((feed step w es).2.filterMap WatchNews.request) := by
  induction es generalizing w with
  | nil => exact .refl w
  | cons e es ih =>
      rw [feed_cons, List.filterMap_append]
      exact (step_follows w e).trans (ih _)

lemma setWatchedEvents_incallback (w : AvahiWatch) (event : ℕ) :
    (w.setWatchedEvents event).m_incallback = w.m_incallback := by
  rw [setWatchedEvents_eq]
  cases asks .read event <;> cases asks .write event <;> rfl

/-- Between two events no callback is under way, and whatever Avahi is told is that it can
read. -/
lemma step_told (hw : w.m_incallback = false) (e : WatchEvent) :
    (w.step e).1.m_incallback = false ∧ ∀ news ∈ (w.step e).2,
      news.request = none → news = .told AVAHI_WATCH_IN AVAHI_WATCH_IN := by
  have hcall : ∀ inside, ∀ news ∈
      ({ w with m_lastEvent := AVAHI_WATCH_IN, m_incallback := true }.call inside).2,
      news.request = none → news = .told AVAHI_WATCH_IN AVAHI_WATCH_IN := by
    intro inside news hnews hrequest
    rcases List.mem_cons.mp hnews with rfl | hasked
    · rfl
    · rcases List.mem_map.mp hasked with ⟨event, _, rfl⟩
      cases hrequest
  cases e with
  | update event =>
      refine ⟨(setWatchedEvents_incallback w event).trans hw, ?_⟩
      intro news hnews hrequest
      rw [List.mem_singleton.mp hnews] at hrequest
      cases hrequest
  | activated notifier inside =>
      rw [step]
      cases w.notifiers.get notifier with
      | none => exact ⟨hw, by simp⟩
      | some kind =>
          cases kind with
          | read => exact ⟨rfl, hcall inside⟩
          | write => exact ⟨rfl, hcall inside⟩

/-- A run from the constructor, whose own request is the first. -/
lemma new_feed_follows (event unset : ℕ) (es : List WatchEvent) :
    Follows ⟨[], none, none, unset, false⟩ (feed step (new event unset) es).1
      (event :: (feed step (new event unset) es).2.filterMap WatchNews.request) :=
  (setWatchedEvents_follows ⟨[], none, none, unset, false⟩ event).trans
    (feed_follows es (new event unset))

lemma bare_valid (unset : ℕ) : Valid ⟨[], none, none, unset, false⟩ := by
  intro kind p hp
  cases kind <;> cases hp

lemma new_live (event unset : ℕ) (es : List WatchEvent) (kind : NotifierType) :
    (feed step (new event unset) es).1.live kind
      = ((feed step (new event unset) es).1.pointer kind).isSome.toNat
        + repeats ((event :: (feed step (new event unset) es).2.filterMap WatchNews.request).map
            (asks kind)) := by
  have hlive := (new_feed_follows event unset es).live (bare_valid unset) kind
  have hnone : (pointer ⟨[], none, none, unset, false⟩ kind).isSome = false := by
    cases kind <;> rfl
  have hzero : live ⟨[], none, none, unset, false⟩ kind = 0 := rfl
  rw [hnone, hzero, List.map_cons, repeats, Bool.false_and] at hlive
  rw [List.map_cons]
  simpa using hlive

/-- **The law of the watch**, for every run from its constructor.  A notifier is at hand for a kind
of event exactly if Avahi asked for that kind last, and it is alive; for each request that asked
for the kind right after another that did, one more is left; and what Avahi is told, in the
callback and by `getEvents` there, is that it can read, also when the socket can be written. -/
theorem watch_law (event unset : ℕ) (es : List WatchEvent) :
    (∀ kind, ((feed step (new event unset) es).1.pointer kind).isSome
        = asks kind (((feed step (new event unset) es).2.filterMap
            WatchNews.request).getLastD event) ∧
      (feed step (new event unset) es).1.live kind
        = ((feed step (new event unset) es).1.pointer kind).isSome.toNat
          + repeats ((event :: (feed step (new event unset) es).2.filterMap
              WatchNews.request).map (asks kind))) ∧
    (feed step (new event unset) es).1.Valid ∧
    (feed step (new event unset) es).1.getEvents = 0 ∧
    ∀ news ∈ (feed step (new event unset) es).2,
      news.request = none → news = .told AVAHI_WATCH_IN AVAHI_WATCH_IN := by
  have hfollows := new_feed_follows event unset es
  rcases feed_invariant (I := fun w : AvahiWatch => w.m_incallback = false)
    (fun w e hw => step_told hw e) es (new event unset) (setWatchedEvents_incallback _ event)
    with ⟨hidle, htold⟩
  refine ⟨fun kind => ⟨?_, new_live event unset es kind⟩, hfollows.valid (bare_valid unset), ?_,
    htold⟩
  · rw [hfollows.atHand, List.map_cons, List.getLastD_cons, List.getLastD_map]
  · rw [getEvents, hidle]
    rfl

/-- **When no notifier is left behind.**  In every run from the constructor: the notifiers of a kind
are the one at hand, or none, exactly if no request has asked for it right after another that
did. -/
theorem watch_exact_iff (event unset : ℕ) (es : List WatchEvent) (kind : NotifierType) :
    (feed step (new event unset) es).1.live kind
        = ((feed step (new event unset) es).1.pointer kind).isSome.toNat ↔
      (event :: (feed step (new event unset) es).2.filterMap WatchNews.request).IsChain
        fun event event' => ¬(asks kind event = true ∧ asks kind event' = true) := by
  rw [new_live, Nat.add_eq_left, List.map_cons, repeats_eq_zero, ← List.map_cons,
    List.isChain_map]

/-- Avahi asks twice that it may write: one notifier stays when it asks no more. -/
example : (feed step (new 1 0) [.update 5, .update 5, .update 1]).1.live .write = 1 := by decide

end AvahiWatch

end LightControl
