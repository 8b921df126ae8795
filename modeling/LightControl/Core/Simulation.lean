import LightControl.Core.Runs

/-!
# Simulations between runs

* `run_simulation` — one machine follows another: a relation that every step keeps, as long as a
  condition on the second machine holds, relates the ends of the two runs.
* `emitted`, `run_emitted` — a machine that is a part of another: the steps of its own with which
  it goes through a run of the whole, and where these take it.
* `ons` — how often a run switches a flag on; `ons_simulation` and `ons_emitted` compare the two
  machines of each kind.
-/

namespace Runs

variable {σ τ ε δ : Type*}

/-- **Simulation.**  A relation that each step keeps for which `P` holds relates the ends of the
two runs, if `P` holds all along the second. -/
theorem run_simulation {step : σ → ε → Option σ} {step' : τ → ε → Option τ}
    {R : σ → τ → Prop} {P : τ → ε → Prop}
    (hstep : ∀ s t e s', R s t → P t e → step s e = some s' →
      ∃ t', step' t e = some t' ∧ R s' t') :
    ∀ (es : List ε) {s s' : σ} {t : τ}, R s t → Along step' P t es → run step s es = some s' →
      ∃ t', run step' t es = some t' ∧ R s' t' := by
  intro es
  induction es with
  | nil =>
      intro s s' t hR _ h
      rw [run_nil, Option.some.injEq] at h
      exact ⟨t, rfl, h ▸ hR⟩
  | cons e es ih =>
      rintro s s' t hR ⟨hP, hrest⟩ h
      rw [run_cons, Option.bind_eq_some_iff] at h
      rcases h with ⟨s₁, h₁, h₂⟩
      rcases hstep s t e s₁ hR hP h₁ with ⟨t₁, ht₁, hR₁⟩
      rcases ih hR₁ (hrest t₁ ht₁) h₂ with ⟨t', ht', hR'⟩
      refine ⟨t', ?_, hR'⟩
      rw [run_cons, ht₁, Option.bind_some, ht']

variable {step : σ → ε → Option σ} {step' : τ → δ → Option τ} {out : σ → ε → List δ}

/-- What the steps of a run give out, until it goes wrong; it may depend on the state in which a
step starts. -/
def emitted (step : σ → ε → Option σ) (out : σ → ε → List δ) : σ → List ε → List δ
  | _, [] => []
  | s, e :: es => out s e ++ (step s e).elim [] fun s' => emitted step out s' es

lemma emitted_cons {s s' : σ} {e : ε} (h : step s e = some s') (es : List ε) :
    emitted step out s (e :: es) = out s e ++ emitted step out s' es := by
  rw [emitted, h, Option.elim_some]

lemma emitted_append : ∀ (es fs : List ε) {s s' : σ}, run step s es = some s' →
    emitted step out s (es ++ fs) = emitted step out s es ++ emitted step out s' fs := by
  intro es fs
  induction es with
  | nil =>
      intro s s' h
      rw [run_nil, Option.some.injEq] at h
      rw [h, List.nil_append, emitted, List.nil_append]
  | cons e es ih =>
      intro s s' h
      rw [run_cons, Option.bind_eq_some_iff] at h
      rcases h with ⟨s₁, h₁, h₂⟩
      rw [List.cons_append, emitted_cons h₁, emitted_cons h₁, ih h₂, List.append_assoc]

/-- **Projection.**  A part of a machine that each step moves by steps of its own is moved so by
whole runs. -/
theorem run_emitted {f : σ → τ}
    (hstep : ∀ s e s', step s e = some s' → run step' (f s) (out s e) = some (f s')) :
    ∀ (es : List ε) {s s' : σ}, run step s es = some s' →
      run step' (f s) (emitted step out s es) = some (f s') := by
  intro es
  induction es with
  | nil =>
      intro s s' h
      rw [run_nil, Option.some.injEq] at h
      rw [h, emitted, run_nil]
  | cons e es ih =>
      intro s s' h
      rw [run_cons, Option.bind_eq_some_iff] at h
      rcases h with ⟨s₁, h₁, h₂⟩
      rw [emitted_cons h₁, run_append, hstep s e s₁ h₁, Option.bind_some, ih h₂]

/-- What is given out whatever the state is, by steps that do not go wrong. -/
lemma emitted_of_isSome {f : ε → List δ} (hstep : ∀ s e, (step s e).isSome) (es : List ε)
    (s : σ) : emitted step (fun _ => f) s es = es.flatMap f := by
  induction es generalizing s with
  | nil => rfl
  | cons e es ih =>
      rcases Option.isSome_iff_exists.mp (hstep s e) with ⟨s', hs'⟩
      rw [emitted_cons hs', ih, List.flatMap_cons]

/-! ## Switching on -/

/-- A flag is off before and on after. -/
def turnsOn (before after : Bool) : ℕ := (!before && after).toNat

lemma turnsOn_trans (a b c : Bool) : turnsOn a c ≤ turnsOn a b + turnsOn b c := by
  cases a <;> cases b <;> cases c <;> decide

/-- How often a run switches a flag on. -/
def ons (step : σ → ε → Option σ) (lit : σ → Bool) : σ → List ε → ℕ
  | _, [] => 0
  | s, e :: es =>
      (step s e).elim 0 fun s' => turnsOn (lit s) (lit s') + ons step lit s' es

variable {lit : σ → Bool} {lit' : τ → Bool}

lemma ons_cons {s s' : σ} {e : ε} (h : step s e = some s') (es : List ε) :
    ons step lit s (e :: es) = turnsOn (lit s) (lit s') + ons step lit s' es := by
  rw [ons, h, Option.elim_some]

lemma ons_append : ∀ (es fs : List ε) {s s' : σ}, run step s es = some s' →
    ons step lit s (es ++ fs) = ons step lit s es + ons step lit s' fs := by
  intro es fs
  induction es with
  | nil =>
      intro s s' h
      rw [run_nil, Option.some.injEq] at h
      rw [h, List.nil_append, ons, Nat.zero_add]
  | cons e es ih =>
      intro s s' h
      rw [run_cons, Option.bind_eq_some_iff] at h
      rcases h with ⟨s₁, h₁, h₂⟩
      rw [List.cons_append, ons_cons h₁, ons_cons h₁, ih h₂, Nat.add_assoc]

/-- A run that ends with the flag on, and began with it off, has switched it on. -/
lemma turnsOn_le_ons : ∀ (es : List ε) {s s' : σ}, run step s es = some s' →
    turnsOn (lit s) (lit s') ≤ ons step lit s es := by
  intro es
  induction es with
  | nil =>
      intro s s' h
      rw [run_nil, Option.some.injEq] at h
      rw [h]
      cases lit s' <;> exact Nat.zero_le _
  | cons e es ih =>
      intro s s' h
      rw [run_cons, Option.bind_eq_some_iff] at h
      rcases h with ⟨s₁, h₁, h₂⟩
      rw [ons_cons h₁]
      exact Nat.le_trans (turnsOn_trans (lit s) (lit s₁) (lit s'))
        (Nat.add_le_add_left (ih h₂) _)

/-- Machines that follow each other step by step, with the flag in common, switch it on equally
often. -/
theorem ons_simulation {step' : τ → ε → Option τ} {R : σ → τ → Prop} {P : τ → ε → Prop}
    (hstep : ∀ s t e s', R s t → P t e → step s e = some s' →
      ∃ t', step' t e = some t' ∧ R s' t')
    (hlit : ∀ s t, R s t → lit s = lit' t) :
    ∀ (es : List ε) {s s' : σ} {t : τ}, R s t → Along step' P t es → run step s es = some s' →
      ons step lit s es = ons step' lit' t es := by
  intro es
  induction es with
  | nil =>
      intro s s' t _ _ _
      rfl
  | cons e es ih =>
      rintro s s' t hR ⟨hP, hrest⟩ h
      rw [run_cons, Option.bind_eq_some_iff] at h
      rcases h with ⟨s₁, h₁, h₂⟩
      rcases hstep s t e s₁ hR hP h₁ with ⟨t₁, ht₁, hR₁⟩
      rw [ons_cons h₁, ons_cons ht₁, hlit s t hR, hlit s₁ t₁ hR₁, ih hR₁ (hrest t₁ ht₁) h₂]

/-- A machine switches the flag of its part on no more often than the part's own steps do. -/
theorem ons_emitted {f : σ → τ}
    (hstep : ∀ s e s', step s e = some s' → run step' (f s) (out s e) = some (f s')) :
    ∀ (es : List ε) {s s' : σ}, run step s es = some s' →
      ons step (fun s => lit' (f s)) s es ≤ ons step' lit' (f s) (emitted step out s es) := by
  intro es
  induction es with
  | nil =>
      intro s s' _
      exact Nat.zero_le _
  | cons e es ih =>
      intro s s' h
      rw [run_cons, Option.bind_eq_some_iff] at h
      rcases h with ⟨s₁, h₁, h₂⟩
      have hpart := hstep s e s₁ h₁
      rw [ons_cons h₁, emitted_cons h₁, ons_append _ _ hpart]
      exact Nat.add_le_add (turnsOn_le_ons _ hpart) (ih h₂)

end Runs
