/-! # Labelled transitions — runs, guarded runs and the invariant rule

    A component that takes one atomic step at a time is a partial function
    `step : σ → ε → Option σ`: the event names who moves and what the
    environment answers, `none` means the event is not enabled.  Every
    interleaving of several parties is a list of events, so a statement about
    all schedules is a statement about `Reaches`.

    `ok` is a condition on the steps of a run, read in the state before the
    step.  `Reaches step ok s₀ s` says that some run from `s₀` to `s` meets it
    at every step; `Free` is the condition that asks for nothing. -/

namespace Transition

variable {σ ε : Type}

/-- The states reached from `s₀` by steps that all meet `ok`. -/
inductive Reaches (step : σ → ε → Option σ) (ok : σ → ε → Prop) (s₀ : σ) : σ → Prop where
  | init : Reaches step ok s₀ s₀
  | step {s s' : σ} (e : ε) : Reaches step ok s₀ s → ok s e → step s e = some s' →
      Reaches step ok s₀ s'

/-- The condition every step meets. -/
def Free : σ → ε → Prop := fun _ _ => True

instance (s : σ) (e : ε) : Decidable (Free s e) := inferInstanceAs (Decidable True)

/-- Run a list of events, stopping at the first one that is not enabled or
    that does not meet `ok`. -/
def run (step : σ → ε → Option σ) (ok : σ → ε → Prop) [∀ s e, Decidable (ok s e)] :
    σ → List ε → Option σ
  | s, [] => some s
  | s, e :: es => if ok s e then (step s e).bind (fun s' => run step ok s' es) else none

/-- **THE INVARIANT RULE**: what holds at the start and is kept by every step
    that meets `ok` holds in every state reached. -/
theorem Reaches.invariant {step : σ → ε → Option σ} {ok : σ → ε → Prop} {s₀ s : σ}
    {P : σ → Prop} (h₀ : P s₀)
    (hstep : ∀ s e s', P s → ok s e → step s e = some s' → P s')
    (h : Reaches step ok s₀ s) : P s := by
  induction h with
  | init => exact h₀
  | step e _ hok hs ih => exact hstep _ e _ ih hok hs

/-- Runs compose. -/
theorem Reaches.trans {step : σ → ε → Option σ} {ok : σ → ε → Prop} {s₀ s₁ s₂ : σ}
    (h₁ : Reaches step ok s₀ s₁) (h₂ : Reaches step ok s₁ s₂) : Reaches step ok s₀ s₂ := by
  induction h₂ with
  | init => exact h₁
  | step e _ hok hs ih => exact Reaches.step e ih hok hs

/-- A computed run reaches its last state. -/
theorem reaches_of_run {step : σ → ε → Option σ} {ok : σ → ε → Prop}
    [∀ s e, Decidable (ok s e)] {es : List ε} {s s' : σ}
    (h : run step ok s es = some s') : Reaches step ok s s' := by
  induction es generalizing s with
  | nil =>
      have hs : s = s' := Option.some.inj h
      rw [hs]
      exact Reaches.init
  | cons e es ih =>
      simp only [run] at h
      by_cases hok : ok s e
      · rw [if_pos hok] at h
        obtain ⟨s₁, hs₁, hrest⟩ := Option.bind_eq_some_iff.mp h
        exact (Reaches.step e Reaches.init hok hs₁).trans (ih hrest)
      · rw [if_neg hok] at h
        exact nomatch h

/-- The last state of a computed run that goes through is reached. -/
theorem reaches_getD {step : σ → ε → Option σ} {ok : σ → ε → Prop}
    [∀ s e, Decidable (ok s e)] {es : List ε} {s d : σ}
    (h : (run step ok s es).isSome = true) :
    Reaches step ok s ((run step ok s es).getD d) := by
  obtain ⟨s', hs'⟩ := Option.isSome_iff_exists.mp h
  rw [hs']
  exact reaches_of_run hs'

/-! ## Runs with their events -/

section Trace

variable {step : σ → ε → Option σ}

/-- The events of a run from `s` to `s'`. -/
def Trace (step : σ → ε → Option σ) (s : σ) (es : List ε) (s' : σ) : Prop :=
  run step Free s es = some s'

theorem trace_nil {s s' : σ} : Trace step s [] s' ↔ s = s' := by
  rw [Trace, run, Option.some.injEq]

theorem trace_cons {s s' : σ} {e : ε} {es : List ε} :
    Trace step s (e :: es) s' ↔ ∃ s₁, step s e = some s₁ ∧ Trace step s₁ es s' := by
  rw [Trace, run, if_pos (show Free s e from trivial), Option.bind_eq_some_iff]
  rfl

/-- Runs with their events compose. -/
theorem trace_append {s s' : σ} {es es' : List ε} :
    Trace step s (es ++ es') s' ↔ ∃ s₁, Trace step s es s₁ ∧ Trace step s₁ es' s' := by
  induction es generalizing s with
  | nil => simp [trace_nil]
  | cons e es ih =>
      rw [List.cons_append, trace_cons]
      constructor
      · rintro ⟨s₂, hs, hrest⟩
        obtain ⟨s₁, hes, hes'⟩ := ih.mp hrest
        exact ⟨s₁, trace_cons.mpr ⟨s₂, hs, hes⟩, hes'⟩
      · rintro ⟨s₁, hes, hes'⟩
        obtain ⟨s₂, hs, hrest⟩ := trace_cons.mp hes
        exact ⟨s₂, hs, ih.mpr ⟨s₁, hrest, hes'⟩⟩

/-- One more step. -/
theorem Trace.concat {s s' s'' : σ} {es : List ε} {e : ε} (h : Trace step s es s')
    (hs : step s' e = some s'') : Trace step s (es ++ [e]) s'' :=
  trace_append.mpr ⟨s', h, trace_cons.mpr ⟨s'', hs, trace_nil.mpr rfl⟩⟩

/-- **THE HISTORY RULE**: the invariant rule for what is said of a state and of
    the events that led to it. -/
theorem Trace.invariant {s₀ s : σ} {es : List ε} (P : List ε → σ → Prop) (h₀ : P [] s₀)
    (hstep : ∀ es s e s', P es s → step s e = some s' → P (es ++ [e]) s')
    (h : Trace step s₀ es s) : P es s := by
  have hfrom : ∀ es old s₁, P old s₁ → Trace step s₁ es s → P (old ++ es) s := by
    intro es
    induction es with
    | nil =>
        intro old s₁ hP h
        rw [List.append_nil, ← trace_nil.mp h]
        exact hP
    | cons e es ih =>
        intro old s₁ hP h
        obtain ⟨s₂, hs, hrest⟩ := trace_cons.mp h
        rw [List.append_cons]
        exact ih (old ++ [e]) s₂ (hstep old s₁ e s₂ hP hs) hrest
  exact hfrom es [] s₀ h₀ h

/-- From `s` an event of `goal` comes before any event of `avoid`: until then no
    event of `avoid` comes, the component moves at most `n` times by itself, and
    it can move without an event of `avoid`. -/
def LeadsTo (step : σ → ε → Option σ) (own avoid goal : ε → Bool) (n : Nat) (s : σ) : Prop :=
  ∀ es s', Trace step s es s' → (∀ e ∈ es, goal e = false) →
    (∀ e ∈ es, avoid e = false) ∧ es.countP own ≤ n ∧
      ∃ e s'', own e = true ∧ avoid e = false ∧ step s' e = some s''

/-- **THE VARIANT RULE**: an invariant under which the component can move, and a
    rank that falls whenever it does. -/
theorem leadsTo_of_rank {own avoid goal : ε → Bool} {n : Nat} {s : σ} (I : σ → Prop)
    (rank : σ → Nat)
    (hmove : ∀ s, I s → ∃ e s', own e = true ∧ avoid e = false ∧ step s e = some s')
    (hstep : ∀ s e s', I s → step s e = some s' → goal e = false →
      avoid e = false ∧ I s' ∧ rank s' ≤ rank s ∧ (own e = true → rank s' < rank s))
    (hs : I s) (hn : rank s ≤ n) : LeadsTo step own avoid goal n s := by
  intro es s' h hgoal
  have hall : (∀ e ∈ es, goal e = false) →
      (∀ e ∈ es, avoid e = false) ∧ I s' ∧ es.countP own + rank s' ≤ rank s := by
    refine h.invariant (fun es s' => (∀ e ∈ es, goal e = false) →
      (∀ e ∈ es, avoid e = false) ∧ I s' ∧ es.countP own + rank s' ≤ rank s) ?_ ?_
    · exact fun _ => ⟨List.forall_mem_nil _, hs, Nat.le_of_eq (Nat.zero_add _)⟩
    · intro es s₁ e s₂ ih hs₁ hgoal
      obtain ⟨havoid, hI, hrank⟩ := ih fun e he => hgoal e (List.mem_append_left _ he)
      obtain ⟨he, hI', hle, hlt⟩ := hstep s₁ e s₂ hI hs₁
        (hgoal e (List.mem_append_right _ (List.mem_singleton_self e)))
      refine ⟨fun e' he' => ?_, hI', ?_⟩
      · obtain hmem | hmem := List.mem_append.mp he'
        · exact havoid e' hmem
        · rw [List.mem_singleton.mp hmem]
          exact he
      · rw [List.countP_append, List.countP_singleton]
        by_cases hown : own e = true
        · have := hlt hown
          rw [if_pos hown]
          omega
        · rw [if_neg hown]
          omega
  obtain ⟨havoid, hI, hrank⟩ := hall hgoal
  exact ⟨havoid, by omega, hmove s' hI⟩

end Trace

end Transition
