import Mathlib.Data.List.Basic
import Mathlib.Data.List.Induction
import Mathlib.Data.Option.Basic

/-!
# Runs of a partial step function

A machine is a step function `step : σ → ε → Option σ`; `none` is a step that goes wrong.  A
run folds the step over a list of events and stops at the first one that goes wrong.

* `run_invariant` — the induction every safety argument uses: an invariant that one step
  preserves holds wherever a run arrives; `run_unchanged` for a value that no step changes.
* `run_history_invariant` — the same for an invariant that also speaks of the events so far.
* `Along` — a property of every step a run takes, as a recursion over the events, with
  `along_iff_reached` reading it back as "at every position of the run".
* `along_congr` — two step properties that agree under an invariant agree along a run.
* `Throughout` — a property of every state a run reaches, with `throughout_of_along` for one that
  the steps with a property keep, and `throughout_iff_along` for one that each step keeps or breaks.
* `run_isSome_iff_along` — a run goes through exactly when each of its steps does.
* `foldl_filter_related` — two runs, one of which leaves some of the events out.
* `times` — a callback that is registered several times, and so runs several times for one event.
-/

namespace Runs

variable {σ ε : Type*} {step : σ → ε → Option σ}

/-- The state after the events `es`, or `none` as soon as a step goes wrong. -/
def run (step : σ → ε → Option σ) (s : σ) (es : List ε) : Option σ := es.foldlM step s

@[simp] lemma run_nil (s : σ) : run step s [] = some s := rfl

@[simp] lemma run_cons (s : σ) (e : ε) (es : List ε) :
    run step s (e :: es) = (step s e).bind fun s' => run step s' es := by
  simp [run, List.foldlM_cons]

lemma run_append (s : σ) (es fs : List ε) :
    run step s (es ++ fs) = (run step s es).bind fun s' => run step s' fs := by
  simp [run, List.foldlM_append]

/-- The invariant rule for some events: what holds at the start and is preserved by the steps of
the run holds wherever the run arrives. -/
lemma run_invariant_of_mem {I : σ → Prop} :
    ∀ (es : List ε) {s s' : σ}, (∀ s e s', e ∈ es → I s → step s e = some s' → I s') → I s →
      run step s es = some s' → I s' := by
  intro es
  induction es with
  | nil =>
      intro s s' _ h0 h
      rw [run_nil, Option.some.injEq] at h
      exact h ▸ h0
  | cons e es ih =>
      intro s s' hstep h0 h
      rw [run_cons, Option.bind_eq_some_iff] at h
      rcases h with ⟨s₁, h₁, h₂⟩
      refine ih ?_ (hstep s e s₁ List.mem_cons_self h0 h₁) h₂
      intro t f t' hf
      exact hstep t f t' (List.mem_cons_of_mem e hf)

/-- **The invariant rule.**  What holds at the start and is preserved by every step holds
wherever the run arrives. -/
theorem run_invariant {I : σ → Prop}
    (hstep : ∀ s e s', I s → step s e = some s' → I s') (es : List ε) {s s' : σ} (h0 : I s)
    (h : run step s es = some s') : I s' :=
  run_invariant_of_mem es (fun s e s' _ => hstep s e s') h0 h

/-- What no step changes, a run does not change. -/
lemma run_unchanged {α : Type*} {f : σ → α} (hstep : ∀ s e s', step s e = some s' → f s' = f s)
    (es : List ε) {s s' : σ} (h : run step s es = some s') : f s' = f s := by
  refine run_invariant (I := fun t => f t = f s) ?_ es rfl h
  intro t e t' ht h
  exact (hstep t e t' h).trans ht

/-- **The history rule.**  An invariant of the state and of the events that led to it. -/
theorem run_history_invariant {I : List ε → σ → Prop} {s₀ : σ} (h0 : I [] s₀)
    (hstep : ∀ es s e s', run step s₀ es = some s → I es s → step s e = some s' →
      I (es ++ [e]) s') :
    ∀ (es : List ε) {s : σ}, run step s₀ es = some s → I es s := by
  intro es
  induction es using List.reverseRecOn with
  | nil =>
      intro s h
      rw [run_nil, Option.some.injEq] at h
      exact h ▸ h0
  | append_singleton es e ih =>
      intro s h
      rw [run_append, Option.bind_eq_some_iff] at h
      rcases h with ⟨s₁, h₁, h₂⟩
      rw [run_cons, Option.bind_eq_some_iff] at h₂
      rcases h₂ with ⟨s₂, h₂, h₃⟩
      rw [run_nil, Option.some.injEq] at h₃
      exact h₃ ▸ hstep es s₁ e s₂ h₁ (ih h₁) h₂

/-- `P` holds of every step the run takes, each in the state the run has then reached. -/
def Along (step : σ → ε → Option σ) (P : σ → ε → Prop) : σ → List ε → Prop
  | _, [] => True
  | s, e :: es => P s e ∧ ∀ s', step s e = some s' → Along step P s' es

/-- Along one run a decidable property can be checked. -/
instance decidableAlong {P : σ → ε → Prop} [∀ s e, Decidable (P s e)] :
    ∀ (s : σ) (es : List ε), Decidable (Along step P s es)
  | _, [] => isTrue trivial
  | s, e :: es =>
      match h : step s e with
      | none => decidable_of_iff (P s e) (by simp [Along, h])
      | some s' =>
          have : Decidable (Along step P s' es) := decidableAlong s' es
          decidable_of_iff (P s e ∧ Along step P s' es) (by simp [Along, h])

lemma along_append {P : σ → ε → Prop} :
    ∀ (es fs : List ε) {s s' : σ}, run step s es = some s' →
      (Along step P s (es ++ fs) ↔ Along step P s es ∧ Along step P s' fs) := by
  intro es fs
  induction es with
  | nil =>
      intro s s' h
      rw [run_nil, Option.some.injEq] at h
      simp [Along, h]
  | cons e es ih =>
      intro s s' h
      rw [run_cons, Option.bind_eq_some_iff] at h
      rcases h with ⟨s₁, h₁, h₂⟩
      simp only [List.cons_append, Along, h₁, Option.some.injEq, forall_eq', ih h₂, and_assoc]

/-- `Along`, position by position. -/
theorem along_iff_reached {P : σ → ε → Prop} :
    ∀ (es : List ε) (s : σ), Along step P s es ↔
      ∀ pre e post s', es = pre ++ e :: post → run step s pre = some s' → P s' e := by
  intro es
  induction es with
  | nil => simp [Along]
  | cons e es ih =>
      intro s
      simp only [Along]
      constructor
      · rintro ⟨hP, hrest⟩ pre e' post s' hes hrun
        cases pre with
        | nil =>
            rw [List.nil_append, List.cons.injEq] at hes
            rw [run_nil, Option.some.injEq] at hrun
            rw [← hes.1, ← hrun]
            exact hP
        | cons p pre =>
            rw [List.cons_append, List.cons.injEq] at hes
            rw [run_cons, Option.bind_eq_some_iff] at hrun
            rcases hrun with ⟨s₁, h₁, h₂⟩
            rw [← hes.1] at h₁
            exact (ih s₁).mp (hrest s₁ h₁) pre e' post s' hes.2 h₂
      · intro h
        refine ⟨h [] e es s rfl rfl, ?_⟩
        intro s₁ h₁
        rw [ih s₁]
        intro pre e' post s' hes hrun
        refine h (e :: pre) e' post s' (by rw [hes]; rfl) ?_
        rw [run_cons, h₁]
        exact hrun

/-- Step properties that agree wherever the invariant holds agree along the run. -/
theorem along_congr {I : σ → Prop} {P Q : σ → ε → Prop}
    (hstep : ∀ s e s', I s → step s e = some s' → I s')
    (hPQ : ∀ s e, I s → (P s e ↔ Q s e)) :
    ∀ (es : List ε) {s : σ}, I s → (Along step P s es ↔ Along step Q s es) := by
  intro es
  induction es with
  | nil =>
      intro s _
      exact Iff.rfl
  | cons e es ih =>
      intro s h0
      simp only [Along]
      refine and_congr (hPQ s e h0) (forall₂_congr ?_)
      intro s₁ h₁
      exact ih (hstep s e s₁ h0 h₁)

/-- `Q` holds in every state the run reaches. -/
def Throughout (step : σ → ε → Option σ) (Q : σ → Prop) (s : σ) (es : List ε) : Prop :=
  ∀ pre post s', es = pre ++ post → run step s pre = some s' → Q s'

lemma throughout_nil {Q : σ → Prop} {s : σ} : Throughout step Q s [] ↔ Q s := by
  constructor
  · intro h
    exact h [] [] s rfl rfl
  · intro h pre post s' hes hrun
    rw [(List.append_eq_nil_iff.mp hes.symm).1, run_nil, Option.some.injEq] at hrun
    exact hrun ▸ h

lemma throughout_cons {Q : σ → Prop} {s : σ} {e : ε} {es : List ε} :
    Throughout step Q s (e :: es) ↔
      Q s ∧ ∀ s', step s e = some s' → Throughout step Q s' es := by
  constructor
  · intro h
    refine ⟨h [] (e :: es) s rfl rfl, ?_⟩
    intro s₁ h₁ pre post s' hes hrun
    refine h (e :: pre) post s' (by rw [hes]; rfl) ?_
    rw [run_cons, h₁]
    exact hrun
  · rintro ⟨hs, hrest⟩ pre post s' hes hrun
    cases pre with
    | nil =>
        rw [run_nil, Option.some.injEq] at hrun
        exact hrun ▸ hs
    | cons e' pre =>
        rw [List.cons_append, List.cons.injEq] at hes
        rw [run_cons, Option.bind_eq_some_iff] at hrun
        rcases hrun with ⟨s₁, h₁, h₂⟩
        rw [← hes.1] at h₁
        exact hrest s₁ h₁ pre post s' hes.2 h₂

/-- An invariant that the steps keep which have `P` holds throughout a run along which `P` does. -/
theorem throughout_of_along {I : σ → Prop} {P : σ → ε → Prop}
    (hstep : ∀ s e s', I s → P s e → step s e = some s' → I s') :
    ∀ (es : List ε) {s : σ}, I s → Along step P s es → Throughout step I s es := by
  intro es
  induction es with
  | nil =>
      intro s h0 _
      exact throughout_nil.mpr h0
  | cons e es ih =>
      rintro s h0 ⟨hP, hrest⟩
      refine throughout_cons.mpr ⟨h0, ?_⟩
      intro s₁ h₁
      exact ih (hstep s e s₁ h0 hP h₁) (hrest s₁ h₁)

/-- **States and steps.**  What every step keeps exactly if `P` holds of it, and a step that goes
wrong does not count against, holds throughout a run exactly if `P` holds along it. -/
theorem throughout_iff_along {Q : σ → Prop} {P : σ → ε → Prop}
    (hstep : ∀ s e s', Q s → step s e = some s' → (Q s' ↔ P s e))
    (hwrong : ∀ s e, step s e = none → P s e) :
    ∀ (es : List ε) {s : σ}, Q s → (Throughout step Q s es ↔ Along step P s es) := by
  intro es
  induction es with
  | nil =>
      intro s h0
      simp [throughout_nil, Along, h0]
  | cons e es ih =>
      intro s h0
      rw [throughout_cons, Along]
      cases hs : step s e with
      | none => simp [h0, hwrong s e hs]
      | some s₁ =>
          have hQ := hstep s e s₁ h0 hs
          simp only [h0, true_and, Option.some.injEq, forall_eq']
          constructor
          · intro h
            have h₁ : Q s₁ := h [] es s₁ rfl rfl
            exact ⟨hQ.mp h₁, (ih h₁).mp h⟩
          · rintro ⟨hP, h⟩
            exact (ih (hQ.mpr hP)).mpr h

/-- A run goes through exactly when every step of it does. -/
theorem run_isSome_iff_along : ∀ (es : List ε) (s : σ),
    (run step s es).isSome ↔ Along step (fun s e => (step s e).isSome) s es := by
  intro es
  induction es with
  | nil => simp [Along]
  | cons e es ih =>
      intro s
      rw [run_cons, Along]
      cases hs : step s e with
      | none => simp
      | some s₁ =>
          simp only [Option.bind_some, Option.isSome_some, true_and, Option.some.injEq,
            forall_eq']
          exact ih s₁

/-! ## Steps that never go wrong -/

/-- A run of steps that never go wrong is a fold. -/
lemma run_some (f : σ → ε → σ) (s : σ) (es : List ε) :
    run (fun s e => some (f s e)) s es = some (es.foldl f s) := by
  induction es generalizing s with
  | nil => rfl
  | cons e es ih => rw [run_cons, Option.bind_some, ih, List.foldl_cons]

/-- **Two runs.**  A relation that kept events preserve on both sides, and left out events on the
one side that has them, holds between a run and the run without the events left out. -/
theorem foldl_filter_related {R : σ → σ → Prop} {f : σ → ε → σ} {keep : ε → Bool}
    (hkeep : ∀ s t e, R s t → keep e = true → R (f s e) (f t e))
    (hdrop : ∀ s t e, R s t → keep e = false → R (f s e) t) :
    ∀ (es : List ε) {s t : σ}, R s t → R (es.foldl f s) ((es.filter keep).foldl f t) := by
  intro es
  induction es with
  | nil =>
      intro s t h
      exact h
  | cons e es ih =>
      intro s t h
      cases he : keep e with
      | true =>
          rw [List.filter_cons_of_pos he]
          exact ih (hkeep s t e h he)
      | false =>
          rw [List.filter_cons_of_neg (by simp [he])]
          exact ih (hdrop s t e h he)

/-! ## Callbacks -/

/-- What an event does that a callback is registered for `n` times. -/
def times (callback : σ → Option σ) : ℕ → σ → Option σ
  | 0, s => some s
  | n + 1, s => (callback s).bind (times callback n)

lemma times_invariant {callback : σ → Option σ} {I : σ → Prop}
    (hstep : ∀ s s', I s → callback s = some s' → I s') :
    ∀ (n : ℕ) {s s' : σ}, I s → times callback n s = some s' → I s' := by
  intro n
  induction n with
  | zero =>
      intro s s' h0 h
      rw [times, Option.some.injEq] at h
      exact h ▸ h0
  | succ n ih =>
      intro s s' h0 h
      rw [times, Option.bind_eq_some_iff] at h
      rcases h with ⟨s₁, h₁, h₂⟩
      exact ih (hstep s s₁ h0 h₁) h₂

lemma times_unchanged {callback : σ → Option σ} {α : Type*} {f : σ → α}
    (hstep : ∀ s s', callback s = some s' → f s' = f s) (n : ℕ) {s s' : σ}
    (h : times callback n s = some s') : f s' = f s := by
  refine times_invariant (I := fun t => f t = f s) ?_ n rfl h
  intro t t' ht h
  exact (hstep t t' h).trans ht

lemma times_isSome {callback : σ → Option σ} (h : ∀ s, (callback s).isSome) :
    ∀ (n : ℕ) (s : σ), (times callback n s).isSome := by
  intro n
  induction n with
  | zero =>
      intro s
      rfl
  | succ n ih =>
      intro s
      rcases Option.isSome_iff_exists.mp (h s) with ⟨s₁, h₁⟩
      rw [times, h₁, Option.bind_some]
      exact ih s₁

lemma times_of_fixed {callback : σ → Option σ} {s : σ} (h : callback s = some s) (n : ℕ) :
    times callback n s = some s := by
  induction n with
  | zero => rfl
  | succ n ih => rw [times, h, Option.bind_some, ih]

/-- A callback that is a step: the event is a run of it. -/
lemma times_eq_run (e : ε) (n : ℕ) (s : σ) :
    times (fun s => step s e) n s = run step s (List.replicate n e) := by
  induction n generalizing s with
  | zero => rfl
  | succ n ih =>
      rw [times, List.replicate_succ, run_cons]
      exact congrArg (step s e).bind (funext ih)

end Runs
