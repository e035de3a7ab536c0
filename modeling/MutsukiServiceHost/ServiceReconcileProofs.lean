import MutsukiServiceHost.ServiceBootstrapProofs

/-! # What `reconcile` leaves behind

    `reconcile` makes two passes over the runners: the first removes what is not
    desired or desired with another spec, the second starts what is then not
    running.  A step of either pass touches the runner of one id, and each of
    them can fail.  One lemma says what a step of a pass does; the state after a
    pass follows from it by induction on the ids that are left.

    The boot starts the same specs one by one.  The two agree when no runner id
    has two specs. -/

namespace ServiceSupervisor

open Transition
open ServiceBoot
open ServiceLoader (plainManifest)

/-- The runner an error is about. -/
def RunnerSupervisorError.runnerId : RunnerSupervisorError → String
  | .alreadyRunning runnerId => runnerId
  | .unknownRunner runnerId => runnerId
  | .spawn runnerId _ => runnerId
  | .stop runnerId _ => runnerId

/-- Some error is about the runner. -/
def Named (errors : List RunnerSupervisorError) (id : String) : Prop :=
  ∃ error ∈ errors, error.runnerId = id

theorem Named.append {errors : List RunnerSupervisorError} {id : String} (h : Named errors id)
    (others : List RunnerSupervisorError) : Named (errors ++ others) id := by
  obtain ⟨error, hmem, hid⟩ := h
  exact ⟨error, List.mem_append_left _ hmem, hid⟩

/-! ## Entries and their keys -/

/-- Every runner is kept under its own id. -/
def Keyed (runners : Runners) : Prop :=
  ∀ (id : String) (runner : ManagedRunner), runners[id]? = some runner → runner.spec.runnerId = id

theorem refreshRunner_spec (answer : TryWait) (runner : ManagedRunner) :
    (refreshRunner answer runner).spec = runner.spec := by
  obtain ⟨spec, child, state, restarts, lastError⟩ := runner
  cases child with
  | none => rfl
  | some child => cases answer <;> rfl

/-- An error of `stop_child` is about the runner. -/
theorem stopChild_error {answer : StopAnswer} {runner : ManagedRunner}
    {error : RunnerSupervisorError} (h : (stopChild answer runner).2 = .failed error) :
    error.runnerId = runner.spec.runnerId := by
  obtain ⟨spec, child, state, restarts, lastError⟩ := runner
  cases child with
  | none => exact nomatch h
  | some child =>
      cases answer with
      | exited | waited | killed | dropped => exact nomatch h
      | killFailed detail => rw [← StopEnd.failed.inj h]; rfl

/-- A runner that the refresh leaves running is as before. -/
theorem refreshRunner_running {answer : TryWait} {runner : ManagedRunner}
    (h : (refreshRunner answer runner).state = .running) :
    (refreshRunner answer runner).child = runner.child ∧
      (refreshRunner answer runner).restarts = runner.restarts ∧
      (refreshRunner answer runner).lastError = runner.lastError := by
  obtain ⟨spec, child, state, restarts, lastError⟩ := runner
  cases child with
  | none => exact ⟨rfl, rfl, rfl⟩
  | some child =>
      cases answer with
      | running => exact ⟨rfl, rfl, rfl⟩
      | exited code => exact nomatch h
      | failed detail => exact nomatch h

section Keys

variable {answers : Answers} {runners runners' : Runners}

theorem Keyed.insert {runnerId : String} {runner : ManagedRunner} (h : Keyed runners)
    (hrunner : runner.spec.runnerId = runnerId) : Keyed (runners.insert runnerId runner) :=
  forall_insert h hrunner

theorem Handled.keyed {runnerId : String} (m : Handled answers runners runnerId runners')
    (h : Keyed runners) : Keyed runners' := by
  cases m with
  | absent => exact h
  | replaced runner after hrunner hspec => exact h.insert (by rw [hspec, h runnerId runner hrunner])

theorem Keyed.refreshAll (h : Keyed runners) : Keyed (refreshAll answers runners) := by
  intro id runner hrunner
  rw [getElem?_refreshAll, Option.map_eq_some_iff] at hrunner
  obtain ⟨before, hbefore, rfl⟩ := hrunner
  rw [refreshRunner_spec]
  exact h id before hbefore

theorem keyed_start (h : Keyed runners) (spec : ManagedRunnerSpec) :
    Keyed (start answers runners spec).1 := by
  rw [start]
  split
  · exact h
  · split
    · exact h
    · exact h.insert rfl

theorem keyed_stopLoop {ids : List String} (h : Keyed runners) :
    Keyed (stopLoop answers runners ids).1 := by
  induction ids generalizing runners with
  | nil => exact h
  | cons runnerId ids ih =>
      rw [stopLoop]
      split
      · exact ih h
      · rename_i runner hrunner
        split
        · rename_i after hafter
          exact (Handled.taken hrunner hafter).keyed h
        · rename_i after stopEnd _ hafter
          exact ih ((Handled.taken hrunner hafter).keyed h)

end Keys

/-! ## The first pass -/

/-- A step of the first pass at one id: the runners and the errors after it. -/
inductive Removal (desired : Desired) (runners : Runners) (runnerId : String) :
    Runners → List RunnerSupervisorError → Prop where
  /-- there is no runner, or it is as desired -/
  | kept (h : ∀ runner : ManagedRunner, runners[runnerId]? = some runner →
      desired[runnerId]? = some runner.spec) : Removal desired runners runnerId runners []
  /-- the runner is stopped and removed -/
  | erased (runner : ManagedRunner) (hrunner : runners[runnerId]? = some runner)
      (hreplaced : Replaced desired runnerId runner) :
      Removal desired runners runnerId (runners.erase runnerId) []
  /-- the runner cannot be stopped and stays, without its child -/
  | stuck (runner after : ManagedRunner) (error : RunnerSupervisorError)
      (hrunner : runners[runnerId]? = some runner) (hreplaced : Replaced desired runnerId runner)
      (hspec : after.spec = runner.spec) (hchild : after.child = none)
      (herror : error.runnerId = runner.spec.runnerId) :
      Removal desired runners runnerId (runners.insert runnerId after) [error]

/-- The first pass, when it comes to its end. -/
inductive Removals (desired : Desired) :
    Runners → List String → Runners → List RunnerSupervisorError → Prop where
  | nil (runners : Runners) : Removals desired runners [] runners []
  | cons {runners runners₁ runners' : Runners} {runnerId : String} {ids : List String}
      {added later : List RunnerSupervisorError}
      (hstep : Removal desired runners runnerId runners₁ added)
      (hrest : Removals desired runners₁ ids runners' later) :
      Removals desired runners (runnerId :: ids) runners' (added ++ later)

section FirstPass

variable {answers : Answers} {desired : Desired} {runners runners' runners₁ : Runners}
  {errors added : List RunnerSupervisorError} {runnerId id : String} {ids : List String}

variable (answers desired runners errors runnerId ids) in
/-- What the loop does at the next id: a step and the rest, or the future is
    dropped while it stops the runner. -/
theorem removeLoop_cons :
    (∃ runners₁ added, Removal desired runners runnerId runners₁ added ∧
      removeLoop answers desired runners errors (runnerId :: ids) =
        removeLoop answers desired runners₁ (errors ++ added) ids) ∨
    (∃ runner after : ManagedRunner, runners[runnerId]? = some runner ∧
      Replaced desired runnerId runner ∧ after.spec = runner.spec ∧ after.child = none ∧
      removeLoop answers desired runners errors (runnerId :: ids) =
        (runners.insert runnerId after, .dropped)) := by
  rw [removeLoop]
  split
  · rename_i hnone
    refine Or.inl ⟨runners, [], .kept fun runner hrunner => ?_, by rw [List.append_nil]⟩
    rw [hnone] at hrunner
    cases hrunner
  · rename_i runner hrunner
    dsimp only
    split
    · rename_i hkept
      rw [kept_iff] at hkept
      refine Or.inl ⟨runners, [], .kept fun other hother => ?_, by rw [List.append_nil]⟩
      rw [hkept, Option.some.inj (hrunner.symm.trans hother)]
    · rename_i hreplaced
      rw [kept_iff] at hreplaced
      have hchild := (stopChild_state (answers.stop runnerId) runner).1
      have hspec := stopChild_spec (answers.stop runnerId) runner
      split
      · rename_i after hafter
        rw [hafter] at hchild hspec
        exact Or.inr ⟨runner, after, hrunner, hreplaced, hspec, hchild, rfl⟩
      · rename_i after error hafter
        have herror : error.runnerId = runner.spec.runnerId := stopChild_error (by rw [hafter])
        rw [hafter] at hchild hspec
        exact Or.inl ⟨_, [error],
          .stuck runner after error hrunner hreplaced hspec hchild herror, rfl⟩
      · exact Or.inl ⟨_, [], .erased runner hrunner hreplaced, by rw [List.append_nil]⟩

theorem removals_of_finished {errors' : List RunnerSupervisorError}
    (h : removeLoop answers desired runners errors ids = (runners', .finished errors')) :
    ∃ added, errors' = errors ++ added ∧ Removals desired runners ids runners' added := by
  induction ids generalizing runners errors with
  | nil =>
      obtain ⟨hrunners, herrors⟩ := Prod.mk.inj h
      rw [← hrunners, ← Ended.finished.inj herrors]
      exact ⟨[], (List.append_nil _).symm, .nil runners⟩
  | cons runnerId ids ih =>
      obtain ⟨runners₁, added, hstep, heq⟩ | ⟨runner, after, -, -, -, -, heq⟩ :=
        removeLoop_cons answers desired runners errors runnerId ids
      · obtain ⟨later, herrors, hrest⟩ := ih (heq.symm.trans h)
        exact ⟨added ++ later, by rw [herrors, List.append_assoc], .cons hstep hrest⟩
      · exact nomatch (Prod.mk.inj (heq.symm.trans h)).2

/-- A step touches one runner. -/
theorem Removal.other (h : Removal desired runners runnerId runners₁ added)
    (hid : runnerId ≠ id) : runners₁[id]? = runners[id]? := by
  cases h with
  | kept => rfl
  | erased => rw [getElem?_erase, if_neg hid]
  | stuck => rw [getElem?_insert, if_neg hid]

theorem Removal.gone (h : Removal desired runners runnerId runners₁ added)
    (hnone : runners[id]? = none) : runners₁[id]? = none := by
  by_cases hid : runnerId = id
  · cases h with
    | kept => exact hnone
    | erased => rw [getElem?_erase, if_pos hid]
    | stuck runner after error hrunner =>
        rw [hid, hnone] at hrunner
        exact nomatch hrunner
  · rw [h.other hid, hnone]

theorem Removal.spec (h : Removal desired runners runnerId runners₁ added) {runner₁ : ManagedRunner}
    (hrunner₁ : runners₁[id]? = some runner₁) :
    ∃ runner : ManagedRunner, runners[id]? = some runner ∧ runner.spec = runner₁.spec := by
  by_cases hid : runnerId = id
  · cases h with
    | kept => exact ⟨runner₁, hrunner₁, rfl⟩
    | erased =>
        rw [getElem?_erase, if_pos hid] at hrunner₁
        exact nomatch hrunner₁
    | stuck runner after error hrunner hreplaced hspec =>
        rw [getElem?_insert, if_pos hid, Option.some.injEq] at hrunner₁
        exact ⟨runner, hid ▸ hrunner, hrunner₁ ▸ hspec.symm⟩
  · rw [h.other hid] at hrunner₁
    exact ⟨runner₁, hrunner₁, rfl⟩

theorem Removal.keyed (h : Removal desired runners runnerId runners₁ added)
    (hkeyed : Keyed runners) :
    Keyed runners₁ := by
  intro id runner₁ hrunner₁
  obtain ⟨runner, hrunner, hspec⟩ := h.spec hrunner₁
  rw [← hspec]
  exact hkeyed id runner hrunner

/-- A runner that is as desired is not touched. -/
theorem Removal.kept_eq (h : Removal desired runners runnerId runners₁ added)
    {runner : ManagedRunner}
    (hrunner : runners[id]? = some runner) (hdesired : desired[id]? = some runner.spec) :
    runners₁[id]? = some runner := by
  by_cases hid : runnerId = id
  · subst hid
    cases h with
    | kept => exact hrunner
    | erased other hother hreplaced | stuck other after error hother hreplaced =>
        rw [← Option.some.inj (hrunner.symm.trans hother)] at hreplaced
        exact absurd hdesired hreplaced
  · rw [h.other hid, hrunner]

/-- A step at a runner that is to be replaced removes it or reports it. -/
theorem Removal.replaced (h : Removal desired runners id runners₁ added) (hkeyed : Keyed runners)
    {runner : ManagedRunner} (hrunner : runners[id]? = some runner)
    (hreplaced : Replaced desired id runner) : runners₁[id]? = none ∨ Named added id := by
  cases h with
  | kept hkept => exact absurd (hkept runner hrunner) hreplaced
  | erased => exact Or.inl (by rw [getElem?_erase, if_pos rfl])
  | stuck other after error hother _ _ _ herror =>
      exact Or.inr ⟨error, List.mem_singleton_self _, herror.trans (hkeyed id other hother)⟩

theorem Removal.named (h : Removal desired runners runnerId runners₁ added) (hkeyed : Keyed runners)
    {error : RunnerSupervisorError} (hmem : error ∈ added) : error.runnerId ∈ runners := by
  cases h with
  | kept | erased => exact nomatch hmem
  | stuck runner after _ hrunner _ _ _ herror =>
      rw [List.mem_singleton.mp hmem, herror, hkeyed runnerId runner hrunner,
        Std.ExtTreeMap.mem_iff_isSome_getElem?, hrunner]
      rfl

theorem Removals.gone (h : Removals desired runners ids runners' added)
    (hnone : runners[id]? = none) : runners'[id]? = none := by
  induction h with
  | nil => exact hnone
  | cons hstep hrest ih => exact ih (hstep.gone hnone)

theorem Removals.kept_eq (h : Removals desired runners ids runners' added) {runner : ManagedRunner}
    (hrunner : runners[id]? = some runner) (hdesired : desired[id]? = some runner.spec) :
    runners'[id]? = some runner := by
  induction h with
  | nil => exact hrunner
  | cons hstep hrest ih => exact ih (hstep.kept_eq hrunner hdesired)

/-- Every runner the pass comes to that is to be replaced is removed or
    reported. -/
theorem Removals.replaced (h : Removals desired runners ids runners' added) (hkeyed : Keyed runners)
    (hmem : id ∈ ids) {runner : ManagedRunner} (hrunner : runners[id]? = some runner)
    (hreplaced : Replaced desired id runner) : runners'[id]? = none ∨ Named added id := by
  induction h with
  | nil => exact nomatch hmem
  | @cons runners runners₁ runners' runnerId ids added later hstep hrest ih =>
      by_cases hid : runnerId = id
      · subst hid
        obtain hnone | hnamed := hstep.replaced hkeyed hrunner hreplaced
        · exact Or.inl (hrest.gone hnone)
        · exact Or.inr (hnamed.append later)
      · have hlater : id ∈ ids := List.mem_of_ne_of_mem (Ne.symm hid) hmem
        obtain hnone | ⟨error, herror, hnamed⟩ :=
          ih (hstep.keyed hkeyed) hlater ((hstep.other hid).trans hrunner)
        · exact Or.inl hnone
        · exact Or.inr ⟨error, List.mem_append_right _ herror, hnamed⟩

theorem Removals.named (h : Removals desired runners ids runners' added) (hkeyed : Keyed runners)
    {error : RunnerSupervisorError} (hmem : error ∈ added) : error.runnerId ∈ runners := by
  induction h with
  | nil => exact nomatch hmem
  | cons hstep hrest ih =>
      obtain hadded | hlater := List.mem_append.mp hmem
      · exact hstep.named hkeyed hadded
      · have hmem₁ := ih (hstep.keyed hkeyed) hlater
        rw [Std.ExtTreeMap.mem_iff_isSome_getElem?, Option.isSome_iff_exists] at hmem₁ ⊢
        obtain ⟨runner₁, hrunner₁⟩ := hmem₁
        obtain ⟨runner, hrunner, -⟩ := hstep.spec hrunner₁
        exact ⟨runner, hrunner⟩

end FirstPass

/-! ## The second pass -/

section SecondPass

variable {answers : Answers} {runners : Runners} {errors : List RunnerSupervisorError}
  {specs : List (String × ManagedRunnerSpec)}

/-- The pass does not touch a runner that is running. -/
theorem startLoop_running {id : String} {runner : ManagedRunner}
    (hrunner : runners[id]? = some runner) (hstate : runner.state = .running) :
    (startLoop answers runners errors specs).1[id]? = some runner := by
  induction specs generalizing runners errors with
  | nil => exact hrunner
  | cons entry specs ih =>
      rw [startLoop]
      split
      · exact ih hrunner
      · rename_i hneeds
        split
        · have hne : entry.1 ≠ id := by
            rintro rfl
            refine hneeds ?_
            rw [hrunner]
            simp [hstate]
          refine ih ?_
          rw [getElem?_insert, if_neg hne, hrunner]
        · exact ih hrunner

variable (answers runners errors) in
/-- After its turn a wanted runner is one that was running, or one that has just
    been spawned, or it is reported. -/
theorem startLoop_wanted {id : String} {spec : ManagedRunnerSpec}
    (hids : specs.Pairwise fun a b => a.1 ≠ b.1) (hmem : (id, spec) ∈ specs) :
    (∃ runner : ManagedRunner, runners[id]? = some runner ∧ runner.state = .running ∧
      (startLoop answers runners errors specs).1[id]? = some runner) ∨
    Respawned answers (startLoop answers runners errors specs).1
      (startLoop answers runners errors specs).2 id spec := by
  by_cases hrunning : ∃ runner : ManagedRunner, runners[id]? = some runner ∧ runner.state = .running
  · obtain ⟨runner, hrunner, hstate⟩ := hrunning
    refine Or.inl ⟨runner, hrunner, hstate, ?_⟩
    exact startLoop_running hrunner hstate
  · exact Or.inr (startLoop_respawns (fun runner hrunner hstate => hrunning ⟨runner, hrunner, hstate⟩)
      hids hmem)

/-- An error of the pass is about a spec of the pass. -/
theorem startLoop_named {error : RunnerSupervisorError}
    (h : error ∈ (startLoop answers runners errors specs).2) :
    error ∈ errors ∨ ∃ entry ∈ specs, error.runnerId = entry.2.runnerId := by
  induction specs generalizing runners errors with
  | nil => exact Or.inl h
  | cons entry specs ih =>
      have hrest : ∀ {runners : Runners}, error ∈ (startLoop answers runners errors specs).2 →
          error ∈ errors ∨ ∃ e ∈ entry :: specs, error.runnerId = e.2.runnerId := by
        intro runners hmem
        obtain hold | ⟨e, he, heq⟩ := ih hmem
        · exact Or.inl hold
        · exact Or.inr ⟨e, List.mem_cons_of_mem _ he, heq⟩
      rw [startLoop] at h
      split at h
      · exact hrest h
      · split at h
        · exact hrest h
        · obtain hold | ⟨e, he, heq⟩ := ih h
          · obtain hold | hnew := List.mem_append.mp hold
            · exact Or.inl hold
            · rw [List.mem_singleton.mp hnew]
              exact Or.inr ⟨entry, List.mem_cons_self, rfl⟩
          · exact Or.inr ⟨e, List.mem_cons_of_mem _ he, heq⟩

end SecondPass

/-! ## The desired specs -/

section Desired

variable {specs : List ManagedRunnerSpec} {id : String}

/-- The last spec of an id counts. -/
theorem getElem?_desiredMap :
    (desiredMap specs)[id]? = specs.reverse.find? fun spec => spec.runnerId = id := by
  rw [desiredMap, Std.ExtTreeMap.ofList_eq_insertMany_empty, Std.ExtTreeMap.getElem?_insertMany_list,
    Std.ExtTreeMap.getElem?_empty, Option.or_none, List.findSomeRev?_eq_findSome?_reverse,
    ← List.map_reverse, List.findSome?_map]
  induction specs.reverse with
  | nil => rfl
  | cons spec specs ih =>
      simp only [List.findSome?_cons, List.find?_cons, Function.comp_apply,
        Std.LawfulEqCmp.compare_eq_iff_eq, ← ih]
      by_cases hid : spec.runnerId = id
      · simp [hid]
      · simp [hid]

theorem desiredMap_runnerId {spec : ManagedRunnerSpec} (h : (desiredMap specs)[id]? = some spec) :
    spec ∈ specs ∧ spec.runnerId = id := by
  rw [getElem?_desiredMap] at h
  have hid := List.find?_some h
  exact ⟨List.mem_reverse.mp (List.mem_of_find?_eq_some h), of_decide_eq_true hid⟩

/-- With one spec for each id every spec counts. -/
theorem desiredMap_of_mem {spec : ManagedRunnerSpec}
    (hdistinct : specs.Pairwise fun a b => a.runnerId ≠ b.runnerId) (hmem : spec ∈ specs) :
    (desiredMap specs)[spec.runnerId]? = some spec := by
  refine Std.ExtTreeMap.getElem?_ofList_of_mem Std.ReflCmp.compare_self ?_
    (List.mem_map_of_mem hmem)
  exact List.pairwise_map.mpr (hdistinct.imp fun hne heq =>
    hne (Std.LawfulEqCmp.compare_eq_iff_eq.mp heq))

/-- The entries of the map are apart, and each is under its own id. -/
theorem desiredMap_toList :
    ((desiredMap specs).toList.Pairwise fun a b => a.1 ≠ b.1) ∧
      ∀ entry ∈ (desiredMap specs).toList, entry.2 ∈ specs ∧ entry.2.runnerId = entry.1 := by
  constructor
  · exact Std.ExtTreeMap.distinct_keys_toList.imp fun hne heq =>
      hne (Std.LawfulEqCmp.compare_eq_iff_eq.mpr heq)
  · intro entry hmem
    exact desiredMap_runnerId (Std.ExtTreeMap.mem_toList_iff_getElem?_eq_some.mp hmem)

end Desired

/-! ## After `reconcile` -/

section Keys

variable {answers : Answers} {runners : Runners} {errors : List RunnerSupervisorError}

theorem keyed_removeLoop {desired : Desired} {ids : List String} (h : Keyed runners) :
    Keyed (removeLoop answers desired runners errors ids).1 := by
  induction ids generalizing runners errors with
  | nil => exact h
  | cons runnerId ids ih =>
      obtain ⟨runners₁, added, hstep, heq⟩ | ⟨runner, after, hrunner, -, hspec, -, heq⟩ :=
        removeLoop_cons answers desired runners errors runnerId ids
      · rw [heq]
        exact ih (hstep.keyed h)
      · rw [heq]
        exact h.insert (hspec ▸ h runnerId runner hrunner)

theorem keyed_startLoop {specs : List (String × ManagedRunnerSpec)} (h : Keyed runners)
    (hspecs : ∀ entry ∈ specs, entry.2.runnerId = entry.1) :
    Keyed (startLoop answers runners errors specs).1 := by
  induction specs generalizing runners errors with
  | nil => exact h
  | cons entry specs ih =>
      obtain ⟨hentry, hrest⟩ := List.forall_mem_cons.mp hspecs
      rw [startLoop]
      split
      · exact ih h hrest
      · split
        · exact ih (h.insert hentry) hrest
        · exact ih h hrest

theorem keyed_reconcile (h : Keyed runners) (specs : List ManagedRunnerSpec) :
    Keyed (reconcile answers runners specs).1 := by
  have hremoved : Keyed (removeLoop answers (desiredMap specs) (refreshAll answers runners) []
      (refreshAll answers runners).keys).1 := keyed_removeLoop h.refreshAll
  rw [reconcile]
  split
  · rename_i hloop
    rw [hloop] at hremoved
    exact hremoved
  · rename_i hloop
    rw [hloop] at hremoved
    exact keyed_startLoop hremoved fun entry hmem => (desiredMap_toList.2 entry hmem).2

theorem keyed_step {runners' : Runners} {call : Call} (h : Keyed runners)
    (hstep : step runners call = some runners') : Keyed runners' := by
  obtain ⟨operation, answers⟩ := call
  cases operation with
  | start spec =>
      rw [← Option.some.inj hstep]
      exact keyed_start h spec
  | list =>
      rw [← Option.some.inj hstep]
      exact h.refreshAll
  | restart runnerId =>
      rw [← Option.some.inj hstep]
      exact (restart_handled runnerId).keyed h
  | stop runnerId =>
      rw [← Option.some.inj hstep]
      exact (stop_handled runnerId).keyed h
  | reconcile specs =>
      rw [← Option.some.inj hstep]
      exact keyed_reconcile h specs
  | shutdown =>
      rw [← Option.some.inj hstep]
      exact keyed_stopLoop h
  | abandoned =>
      rw [← Option.some.inj hstep]
      exact h

/-- The supervisor keeps every runner under its own id. -/
theorem keyed_of_reaches (h : Reaches step Free ∅ runners) : Keyed runners := by
  refine h.invariant (fun id runner hrunner => ?_) fun _ _ _ hkeyed _ hstep =>
    keyed_step hkeyed hstep
  rw [Std.ExtTreeMap.getElem?_empty] at hrunner
  exact nomatch hrunner

end Keys

/-- What is true after a `reconcile` that comes to its end. -/
structure Reconciled (answers : Answers) (runners : Runners) (specs : List ManagedRunnerSpec)
    (runners' : Runners) (errors : List RunnerSupervisorError) : Prop where
  /-- A desired runner runs with the desired spec, or it is reported. -/
  wanted : ∀ spec ∈ specs,
    (∃ runner : ManagedRunner, runners'[spec.runnerId]? = some runner ∧ runner.spec = spec ∧
      runner.state = .running ∧ runner.child.isSome = true) ∨ Named errors spec.runnerId
  /-- A runner that is not desired is gone, or it is reported. -/
  unwanted : ∀ id, (∀ spec ∈ specs, spec.runnerId ≠ id) → runners'[id]? = none ∨ Named errors id
  /-- A runner that the refresh finds running, and that is as desired, is kept. -/
  kept : ∀ (id : String) (runner : ManagedRunner), runners[id]? = some runner → runner.spec ∈ specs →
    (refreshRunner (answers.tryWait id) runner).state = .running →
    ∃ runner' : ManagedRunner, runners'[id]? = some runner' ∧ runner'.spec = runner.spec ∧
      runner'.child = runner.child ∧ runner'.restarts = runner.restarts ∧
      runner'.lastError = runner.lastError
  /-- No other runner is reported. -/
  named : ∀ error ∈ errors, error.runnerId ∈ runners ∨
    ∃ spec ∈ specs, spec.runnerId = error.runnerId

/-- A `reconcile` that comes to its end has made both passes. -/
theorem reconcile_finished {answers : Answers} {runners runners' : Runners}
    {specs : List ManagedRunnerSpec} {errors : List RunnerSupervisorError}
    (h : reconcile answers runners specs = (runners', .finished errors)) :
    ∃ removed removalErrors,
      Removals (desiredMap specs) (refreshAll answers runners) (refreshAll answers runners).keys
        removed removalErrors ∧
      startLoop answers removed removalErrors (desiredMap specs).toList = (runners', errors) := by
  rw [reconcile] at h
  split at h
  · cases (Prod.mk.inj h).2
  · rename_i removed removalErrors hloop
    obtain ⟨added, herrors, hremovals⟩ := removals_of_finished hloop
    rw [List.nil_append] at herrors
    obtain ⟨hrunners, hended⟩ := Prod.mk.inj h
    refine ⟨removed, removalErrors, herrors ▸ hremovals, ?_⟩
    exact Prod.ext hrunners (Ended.finished.inj hended)

section Postcondition

variable {answers : Answers} {runners runners' removed : Runners} {desired : Desired}
  {specs : List ManagedRunnerSpec} {removalErrors errors : List RunnerSupervisorError}

/-- After the first pass a runner is gone, or reported, or as desired and as
    the refresh left it. -/
theorem removed_cases (hkeyed : Keyed runners)
    (h : Removals desired runners runners.keys removed removalErrors) (id : String) :
    removed[id]? = none ∨ Named removalErrors id ∨
      ∃ runner : ManagedRunner, runners[id]? = some runner ∧ desired[id]? = some runner.spec ∧
        removed[id]? = some runner := by
  cases hrunner : runners[id]? with
  | none => exact Or.inl (h.gone hrunner)
  | some runner =>
      by_cases hdesired : desired[id]? = some runner.spec
      · exact Or.inr (Or.inr ⟨runner, rfl, hdesired, h.kept_eq hrunner hdesired⟩)
      · have hmem : id ∈ runners.keys := by
          rw [Std.ExtTreeMap.mem_keys, Std.ExtTreeMap.mem_iff_isSome_getElem?, hrunner]
          rfl
        obtain hnone | hnamed := h.replaced hkeyed hmem hrunner hdesired
        · exact Or.inl hnone
        · exact Or.inr (Or.inl hnamed)

theorem mem_refreshAll {id : String} : id ∈ refreshAll answers runners ↔ id ∈ runners := by
  simp only [Std.ExtTreeMap.mem_iff_isSome_getElem?, getElem?_refreshAll, Option.isSome_map]

/-- Reports of the first pass are kept by the second. -/
theorem Named.startLoop {id : String} {entries : List (String × ManagedRunnerSpec)}
    (h : Named removalErrors id) :
    Named (startLoop answers removed removalErrors entries).2 id := by
  obtain ⟨error, hmem, hid⟩ := h
  exact ⟨error, startLoop_errors hmem, hid⟩

variable (answers) in
theorem reconcile_wanted (howns : OwnsChild runners) (hkeyed : Keyed runners)
    (h : Removals desired runners runners.keys removed removalErrors)
    (hapart : desired.toList.Pairwise fun a b => a.1 ≠ b.1) {spec : ManagedRunnerSpec}
    (hspec : desired[spec.runnerId]? = some spec) :
    (∃ runner : ManagedRunner,
      (startLoop answers removed removalErrors desired.toList).1[spec.runnerId]? = some runner ∧
      runner.spec = spec ∧ runner.state = .running ∧ runner.child.isSome = true) ∨
    Named (startLoop answers removed removalErrors desired.toList).2 spec.runnerId := by
  have hmem : (spec.runnerId, spec) ∈ desired.toList :=
    Std.ExtTreeMap.mem_toList_iff_getElem?_eq_some.mpr hspec
  obtain ⟨runner, hrunner, hstate, hfinal⟩ | hspawned :=
    startLoop_wanted answers removed removalErrors hapart hmem
  · -- it was running after the first pass
    obtain hnone | hnamed | ⟨before, hbefore, hdesired, hkept⟩ :=
      removed_cases hkeyed h spec.runnerId
    · exact nomatch hnone.symm.trans hrunner
    · exact Or.inr hnamed.startLoop
    · obtain rfl : before = runner := Option.some.inj (hkept.symm.trans hrunner)
      exact Or.inl ⟨before, hfinal, Option.some.inj (hdesired.symm.trans hspec), hstate,
        howns _ before hbefore hstate⟩
  · rw [Respawned] at hspawned
    split at hspawned
    · exact Or.inl ⟨_, hspawned, rfl, rfl, rfl⟩
    · exact Or.inr ⟨_, hspawned, rfl⟩

variable (answers) in
theorem reconcile_unwanted (hkeyed : Keyed runners)
    (h : Removals desired runners runners.keys removed removalErrors) {id : String}
    (hid : desired[id]? = none) :
    (startLoop answers removed removalErrors desired.toList).1[id]? = none ∨
      Named (startLoop answers removed removalErrors desired.toList).2 id := by
  have hother : ∀ entry ∈ desired.toList, entry.1 ≠ id := by
    rintro ⟨key, spec⟩ hmem rfl
    exact nomatch hid.symm.trans (Std.ExtTreeMap.mem_toList_iff_getElem?_eq_some.mp hmem)
  rw [startLoop_other hother]
  obtain hnone | hnamed | ⟨before, -, hdesired, -⟩ := removed_cases hkeyed h id
  · exact Or.inl hnone
  · exact Or.inr hnamed.startLoop
  · exact nomatch hid.symm.trans hdesired

variable (answers) in
theorem reconcile_kept (h : Removals desired runners runners.keys removed removalErrors)
    {id : String} {runner : ManagedRunner} (hrunner : runners[id]? = some runner)
    (hdesired : desired[id]? = some runner.spec) (hstate : runner.state = .running) :
    (startLoop answers removed removalErrors desired.toList).1[id]? = some runner :=
  startLoop_running (h.kept_eq hrunner hdesired) hstate

end Postcondition

/-- **AFTER RECONCILE**: whatever the processes did, every desired runner runs
    with its spec and a child or is reported, every other runner is gone or
    reported, a running runner that is as desired is kept, and no runner is
    reported that is neither there nor desired. -/
theorem reconcile_postcondition {answers : Answers} {runners runners' : Runners}
    {specs : List ManagedRunnerSpec} {errors : List RunnerSupervisorError}
    (hreaches : Reaches step Free ∅ runners) (howns : OwnsChild runners)
    (hdistinct : specs.Pairwise fun a b => a.runnerId ≠ b.runnerId)
    (h : reconcile answers runners specs = (runners', .finished errors)) :
    Reconciled answers runners specs runners' errors := by
  have hkeyed : Keyed runners := keyed_of_reaches hreaches
  obtain ⟨removed, removalErrors, hremovals, hstart⟩ := reconcile_finished h
  obtain ⟨hrunners, herrors⟩ : (startLoop answers removed removalErrors _).1 = runners' ∧
      (startLoop answers removed removalErrors _).2 = errors := Prod.mk.inj hstart
  constructor
  · intro spec hspec
    have hwanted := reconcile_wanted answers howns.refreshAll hkeyed.refreshAll hremovals
      desiredMap_toList.1 (desiredMap_of_mem hdistinct hspec)
    rwa [hrunners, herrors] at hwanted
  · intro id hid
    have hnone : (desiredMap specs)[id]? = none := by
      cases hdesired : (desiredMap specs)[id]? with
      | none => rfl
      | some spec =>
          obtain ⟨hmem, heq⟩ := desiredMap_runnerId hdesired
          exact absurd heq (hid spec hmem)
    have hunwanted := reconcile_unwanted answers hkeyed.refreshAll hremovals hnone
    rwa [hrunners, herrors] at hunwanted
  · intro id runner hrunner hspec hstate
    have hrefreshed : (refreshAll answers runners)[id]? =
        some (refreshRunner (answers.tryWait id) runner) := by
      rw [getElem?_refreshAll, hrunner, Option.map_some]
    have hdesired : (desiredMap specs)[id]? =
        some (refreshRunner (answers.tryWait id) runner).spec := by
      rw [refreshRunner_spec, ← hkeyed id runner hrunner]
      exact desiredMap_of_mem hdistinct hspec
    have hkept := reconcile_kept answers hremovals hrefreshed hdesired hstate
    rw [hrunners] at hkept
    exact ⟨_, hkept, refreshRunner_spec _ _, refreshRunner_running hstate⟩
  · intro error hmem
    rw [← herrors] at hmem
    obtain hremoval | ⟨entry, hentry, heq⟩ := startLoop_named hmem
    · exact Or.inl (mem_refreshAll.mp (hremovals.named hkeyed.refreshAll hremoval))
    · exact Or.inr ⟨entry.2, (desiredMap_toList.2 entry hentry).1, heq.symm⟩

/-- The sidecar is replaced by another one: it is gone, and the new one cannot
    be started. -/
theorem startedSidecar_reconciled :
    let answers := { sidecarAnswers 2 .killed with spawn := fun _ => .error "not found" }
    Reconciled answers startedSidecar [otherSidecar] ∅ [.spawn "sidecar-b" "not found"] := by
  refine reconcile_postcondition ?_ startedSidecar_owns (List.pairwise_singleton _ _)
    (by decide +kernel)
  exact Reaches.step ⟨.start sidecarSpec, sidecarAnswers 1 .killed⟩ Reaches.init trivial rfl

/-! ## Boot and reload -/

/-- The loop of `start_supervised_sidecars`: an error is only logged.  The `i`-th
    call meets the answers `answers i`. -/
def startSupervisedSidecars (answers : Nat → Answers) : Runners → Nat → List ManagedRunnerSpec →
    Runners
  | runners, _, [] => runners
  | runners, i, spec :: specs =>
      startSupervisedSidecars answers (start (answers i) runners spec).1 (i + 1) specs

/-- The same ids have the same specs and the same child processes. -/
def SameProcesses (before after : Runners) : Prop :=
  ∀ id : String, (after[id]?).map (fun runner => (runner.spec, runner.child)) =
    (before[id]?).map fun runner => (runner.spec, runner.child)

section Boot

variable {answers : Nat → Answers} {runners : Runners} {i : Nat} {specs : List ManagedRunnerSpec}
  {id : String}

/-- A runner that runs is not started again. -/
theorem startSupervisedSidecars_running {runner : ManagedRunner}
    (hrunner : runners[id]? = some runner)
    (hstate : runner.state = .running) :
    (startSupervisedSidecars answers runners i specs)[id]? = some runner := by
  induction specs generalizing runners i with
  | nil => exact hrunner
  | cons spec specs ih =>
      refine ih ?_
      rw [start]
      by_cases hid : spec.runnerId = id
      · rw [hid, hrunner, Option.any_some, hstate, if_pos (decide_eq_true rfl)]
        exact hrunner
      · split
        · exact hrunner
        · split
          · exact hrunner
          · rw [getElem?_insert, if_neg hid, hrunner]

/-- At the boot the first spec of an id counts. -/
theorem startSupervisedSidecars_first
    (hspawn : ∀ (i : Nat) (id : String), ∃ child, (answers i).spawn id = .ok child)
    (hnone : runners[id]? = none) :
    (∃ spec child, specs.find? (fun spec => spec.runnerId = id) = some spec ∧
      (startSupervisedSidecars answers runners i specs)[id]? = some (spawned spec child)) ∨
    (specs.find? (fun spec => spec.runnerId = id) = none ∧
      (startSupervisedSidecars answers runners i specs)[id]? = none) := by
  induction specs generalizing runners i with
  | nil => exact Or.inr ⟨rfl, hnone⟩
  | cons spec specs ih =>
      rw [startSupervisedSidecars, List.find?_cons]
      by_cases hid : spec.runnerId = id
      · subst hid
        obtain ⟨child, hchild⟩ := hspawn i spec.runnerId
        refine Or.inl ⟨spec, child, by rw [decide_eq_true rfl], ?_⟩
        refine startSupervisedSidecars_running ?_ rfl
        rw [start, hnone, Option.any_none, if_neg Bool.false_ne_true, hchild, getElem?_insert,
          if_pos rfl]
      · rw [decide_eq_false hid]
        refine ih ?_
        rw [start]
        split
        · exact hnone
        · split
          · exact hnone
          · rw [getElem?_insert, if_neg hid, hnone]

end Boot

section Reload

variable {answers : Answers} {desired : Desired} {runners : Runners}
  {errors : List RunnerSupervisorError} {runnerId id : String} {ids : List String}

/-- The first pass does nothing when every runner is as desired. -/
theorem removeLoop_of_kept (h : ∀ (id : String) (runner : ManagedRunner),
    runners[id]? = some runner → desired[id]? = some runner.spec) :
    removeLoop answers desired runners errors ids = (runners, .finished errors) := by
  induction ids with
  | nil => rfl
  | cons runnerId ids ih =>
      obtain ⟨runners₁, added, hstep, heq⟩ | ⟨runner, after, hrunner, hreplaced, -⟩ :=
        removeLoop_cons answers desired runners errors runnerId ids
      · cases hstep with
        | kept => rw [heq, List.append_nil, ih]
        | erased runner hrunner hreplaced | stuck runner after error hrunner hreplaced =>
            exact absurd (h runnerId runner hrunner) hreplaced
      · exact absurd (h runnerId runner hrunner) hreplaced

/-- The second pass does nothing when every desired runner runs. -/
theorem startLoop_of_running {specs : List (String × ManagedRunnerSpec)}
    (h : ∀ entry ∈ specs, ∃ runner : ManagedRunner,
      runners[entry.1]? = some runner ∧ runner.state = .running) :
    startLoop answers runners errors specs = (runners, errors) := by
  induction specs with
  | nil => rfl
  | cons entry specs ih =>
      obtain ⟨⟨runner, hrunner, hstate⟩, hrest⟩ := List.forall_mem_cons.mp h
      rw [startLoop, hrunner]
      simp only [Option.all_some, hstate, ne_eq, not_true_eq_false, decide_false, Bool.not_false,
        if_true]
      exact ih hrest

/-- The runner of an id, if there is one, has no process. -/
def Bare (runners : Runners) (id : String) : Prop :=
  ∀ runner : ManagedRunner, runners[id]? = some runner → runner.child = none

theorem Bare.insert {after : ManagedRunner} (h : runnerId ≠ id → Bare runners id)
    (hchild : after.child = none) : Bare (runners.insert runnerId after) id := by
  intro runner hrunner
  rw [getElem?_insert] at hrunner
  split at hrunner
  · rw [← Option.some.inj hrunner, hchild]
  · rename_i hid
    exact h hid runner hrunner

theorem Bare.removal {runners₁ : Runners} {added : List RunnerSupervisorError}
    (h : Bare runners id) (hstep : Removal desired runners runnerId runners₁ added) :
    Bare runners₁ id := by
  cases hstep with
  | kept => exact h
  | erased =>
      intro runner hrunner
      rw [getElem?_erase] at hrunner
      split at hrunner
      · exact nomatch hrunner
      · exact h runner hrunner
  | stuck _ after _ _ _ _ hchild => exact Bare.insert (fun _ => h) hchild

theorem Bare.removeLoop (h : Bare runners id) :
    Bare (removeLoop answers desired runners errors ids).1 id := by
  induction ids generalizing runners errors with
  | nil => exact h
  | cons runnerId ids ih =>
      obtain ⟨runners₁, added, hstep, heq⟩ | ⟨runner, after, -, -, -, hchild, heq⟩ :=
        removeLoop_cons answers desired runners errors runnerId ids
      · rw [heq]
        exact ih (h.removal hstep)
      · rw [heq]
        exact Bare.insert (fun _ => h) hchild

variable (answers errors) in
/-- When a runner is to be replaced, the first pass takes the child of one that
    is, also when it is dropped on the way. -/
theorem removeLoop_takes {runner : ManagedRunner} (hmem : id ∈ ids)
    (hrunner : runners[id]? = some runner) (hreplaced : Replaced desired id runner) :
    ∃ (id : String) (runner : ManagedRunner), runners[id]? = some runner ∧
      Replaced desired id runner ∧ Bare (removeLoop answers desired runners errors ids).1 id := by
  induction ids generalizing runners errors runner with
  | nil => exact nomatch hmem
  | cons runnerId ids ih =>
      obtain ⟨runners₁, added, hstep, heq⟩ | ⟨other, after, hother, hreplaced', -, hchild, heq⟩ :=
        removeLoop_cons answers desired runners errors runnerId ids
      · rw [heq]
        by_cases hid : runnerId = id
        · subst hid
          refine ⟨runnerId, runner, hrunner, hreplaced, Bare.removeLoop ?_⟩
          intro after hafter
          cases hstep with
          | kept hkept => exact absurd (hkept runner hrunner) hreplaced
          | erased =>
              rw [getElem?_erase, if_pos rfl] at hafter
              exact nomatch hafter
          | stuck _ stuck _ _ _ _ hchild =>
              rw [getElem?_insert, if_pos rfl] at hafter
              rw [← Option.some.inj hafter, hchild]
        · obtain ⟨id₁, runner₁, hrunner₁, hreplaced₁, hbare⟩ :=
            ih (errors ++ added) (List.mem_of_ne_of_mem (Ne.symm hid) hmem)
              ((hstep.other hid).trans hrunner) hreplaced
          obtain ⟨before, hbefore, hspec⟩ := hstep.spec hrunner₁
          refine ⟨id₁, before, hbefore, ?_, hbare⟩
          rw [Replaced, hspec]
          exact hreplaced₁
      · rw [heq]
        exact ⟨runnerId, other, hother, hreplaced', Bare.insert (fun hne => absurd rfl hne) hchild⟩

variable (answers runners errors id) in
/-- The second pass leaves a runner as it is, or spawns it with a spec of the
    pass. -/
theorem startLoop_cases (specs : List (String × ManagedRunnerSpec)) :
    (startLoop answers runners errors specs).1[id]? = runners[id]? ∨
      ∃ spec child, (id, spec) ∈ specs ∧
        (startLoop answers runners errors specs).1[id]? = some (spawned spec child) := by
  induction specs generalizing runners errors with
  | nil => exact Or.inl rfl
  | cons entry specs ih =>
      have hrest : ∀ (runners : Runners) (errors : List RunnerSupervisorError),
          (startLoop answers runners errors specs).1[id]? = runners[id]? ∨
          ∃ spec child, (id, spec) ∈ entry :: specs ∧
            (startLoop answers runners errors specs).1[id]? = some (spawned spec child) := by
        intro runners errors
        obtain hsame | ⟨spec, child, hmem, heq⟩ := ih runners errors
        · exact Or.inl hsame
        · exact Or.inr ⟨spec, child, List.mem_cons_of_mem _ hmem, heq⟩
      obtain ⟨key, wanted⟩ := entry
      rw [startLoop]
      split
      · exact hrest _ _
      · split
        · rename_i child _
          by_cases hid : key = id
          · subst hid
            refine Or.inr ⟨wanted, child, List.mem_cons_self, startLoop_running ?_ rfl⟩
            rw [getElem?_insert, if_pos rfl]
          · have hinsert : (runners.insert key (spawned wanted child))[id]? = runners[id]? := by
              rw [getElem?_insert, if_neg hid]
            rw [← hinsert]
            exact hrest _ _
        · exact hrest _ _

variable (answers) in
/-- When a runner is to be replaced, there is one that loses its child or gets
    the desired spec. -/
theorem reconcile_changes {specs : List ManagedRunnerSpec} {runner : ManagedRunner}
    (hrunner : (refreshAll answers runners)[id]? = some runner)
    (hreplaced : Replaced (desiredMap specs) id runner) :
    ∃ (id : String) (runner : ManagedRunner), (refreshAll answers runners)[id]? = some runner ∧
      Replaced (desiredMap specs) id runner ∧
      ∀ after : ManagedRunner, (reconcile answers runners specs).1[id]? = some after →
        after.child = none ∨ (desiredMap specs)[id]? = some after.spec := by
  have hmem : id ∈ (refreshAll answers runners).keys := by
    rw [Std.ExtTreeMap.mem_keys, Std.ExtTreeMap.mem_iff_isSome_getElem?, hrunner]
    rfl
  obtain ⟨id, runner, hrunner, hreplaced, hbare⟩ :=
    removeLoop_takes answers [] hmem hrunner hreplaced
  refine ⟨id, runner, hrunner, hreplaced, fun after hafter => ?_⟩
  rw [reconcile] at hafter
  split at hafter
  · rename_i hloop
    rw [hloop] at hbare
    exact Or.inl (hbare after hafter)
  · rename_i removed removalErrors hloop
    rw [hloop] at hbare
    obtain hsame | ⟨spec, child, hentry, heq⟩ :=
      startLoop_cases answers removed removalErrors id (desiredMap specs).toList
    · exact Or.inl (hbare after (hsame.symm.trans hafter))
    · refine Or.inr ?_
      rw [← Option.some.inj (heq.symm.trans hafter)]
      exact Std.ExtTreeMap.mem_toList_iff_getElem?_eq_some.mp hentry

end Reload

/-- The runners of a boot whose processes all start: the first spec of an id
    counts. -/
def Booted (specs : List ManagedRunnerSpec) (booted : Runners) : Prop :=
  ∀ id : String,
    (∃ spec child, specs.find? (fun spec => spec.runnerId = id) = some spec ∧
      booted[id]? = some (spawned spec child)) ∨
    (specs.find? (fun spec => spec.runnerId = id) = none ∧ booted[id]? = none)

/-- The first and the last spec of every runner id are the same. -/
def FirstIsLast (specs : List ManagedRunnerSpec) : Prop :=
  ∀ id : String, specs.find? (fun spec => spec.runnerId = id) =
    specs.reverse.find? (fun spec => spec.runnerId = id)

section Booted

variable {reload : Answers} {specs : List ManagedRunnerSpec} {booted : Runners}

/-- Processes that all run are as they were. -/
theorem Booted.refreshAll (h : Booted specs booted)
    (hrunning : ∀ id : String, reload.tryWait id = .running) :
    refreshAll reload booted = booted := by
  refine Std.ExtTreeMap.ext_getElem? fun id => ?_
  rw [getElem?_refreshAll, hrunning]
  obtain ⟨spec, child, -, hentry⟩ | ⟨-, hentry⟩ := h id
  · rw [hentry]
    rfl
  · rw [hentry]
    rfl

theorem Booted.reconcile_eq (h : Booted specs booted)
    (hrunning : ∀ id : String, reload.tryWait id = .running) (hagree : FirstIsLast specs) :
    (reconcile reload booted specs).1 = booted := by
  have hdesired : ∀ (id : String) (runner : ManagedRunner), booted[id]? = some runner →
      (desiredMap specs)[id]? = some runner.spec := by
    intro id runner hrunner
    obtain ⟨spec, child, hfind, hentry⟩ | ⟨-, hentry⟩ := h id
    · rw [← Option.some.inj (hentry.symm.trans hrunner), getElem?_desiredMap, ← hagree id, hfind]
      rfl
    · exact nomatch hentry.symm.trans hrunner
  have hstarted : ∀ entry ∈ (desiredMap specs).toList, ∃ runner : ManagedRunner,
      booted[entry.1]? = some runner ∧ runner.state = .running := by
    intro entry hmem
    obtain ⟨spec, child, -, hentry⟩ | ⟨hfind, -⟩ := h entry.1
    · exact ⟨_, hentry, rfl⟩
    · obtain ⟨hspec, hid⟩ := desiredMap_toList.2 entry hmem
      exact absurd (decide_eq_true hid) (List.find?_eq_none.mp hfind entry.2 hspec)
  rw [reconcile]
  simp only [h.refreshAll hrunning, removeLoop_of_kept hdesired, startLoop_of_running hstarted]

theorem Booted.firstIsLast (h : Booted specs booted)
    (hrunning : ∀ id : String, reload.tryWait id = .running)
    (hsame : SameProcesses booted (reconcile reload booted specs).1) : FirstIsLast specs := by
  intro id
  obtain ⟨spec, child, hfind, hentry⟩ | ⟨hfind, -⟩ := h id
  · by_contra hdiffer
    have hreplaced : Replaced (desiredMap specs) id (spawned spec child) := by
      rw [Replaced, getElem?_desiredMap]
      exact fun heq => hdiffer (hfind.trans heq.symm)
    obtain ⟨id, runner, hrunner, hreplaced, hchanged⟩ :=
      reconcile_changes reload ((h.refreshAll hrunning).symm ▸ hentry) hreplaced
    rw [h.refreshAll hrunning] at hrunner
    -- the runner has lost its child, or its spec is not the one of the boot
    obtain ⟨spec, child, -, hentry⟩ | ⟨-, hentry⟩ := h id
    · obtain rfl : spawned spec child = runner := Option.some.inj (hentry.symm.trans hrunner)
      have hafter := hsame id
      rw [hentry, Option.map_some, Option.map_eq_some_iff] at hafter
      obtain ⟨after, hafter, heq⟩ := hafter
      obtain ⟨hspec, hchild⟩ := Prod.mk.inj heq
      obtain hnone | hdesired := hchanged after hafter
      · exact nomatch hnone.symm.trans hchild
      · rw [hspec] at hdesired
        exact hreplaced hdesired
    · exact nomatch hentry.symm.trans hrunner
  · refine hfind.trans (List.find?_eq_none.mpr fun spec hmem => ?_).symm
    exact List.find?_eq_none.mp hfind spec (List.mem_reverse.mp hmem)

end Booted

/-- **BOOT AND RELOAD**: with every process started and running, a reload with
    the specs of the boot leaves all processes alone exactly when the first and
    the last spec of every runner id are the same. -/
theorem reload_unchanged_iff {answers : Nat → Answers} {reload : Answers}
    {specs : List ManagedRunnerSpec}
    (hspawn : ∀ (i : Nat) (id : String), ∃ child, (answers i).spawn id = .ok child)
    (hrunning : ∀ id : String, reload.tryWait id = .running) :
    SameProcesses (startSupervisedSidecars answers ∅ 0 specs)
        (reconcile reload (startSupervisedSidecars answers ∅ 0 specs) specs).1 ↔
      FirstIsLast specs := by
  have hbooted : Booted specs (startSupervisedSidecars answers ∅ 0 specs) := fun id =>
    startSupervisedSidecars_first hspawn Std.ExtTreeMap.getElem?_empty
  constructor
  · intro hsame
    exact hbooted.firstIsLast hrunning hsame
  · intro hagree
    rw [hbooted.reconcile_eq hrunning hagree]
    exact fun _ => rfl

/-- Processes that run and spawn as `pid` at their turn. -/
def bootAnswers (i : Nat) : Answers := sidecarAnswers (i + 1) .killed

/-- Two sidecars, one of them listed twice, are left alone. -/
theorem repeated_sidecar_reloads :
    let specs := [sidecarSpec, otherSidecar, sidecarSpec]
    let booted := startSupervisedSidecars bootAnswers ∅ 0 specs
    SameProcesses booted (reconcile (bootAnswers 3) booted specs).1 :=
  (reload_unchanged_iff (fun i _ => ⟨⟨i + 1⟩, rfl⟩) fun _ => rfl).mpr fun _ => rfl

/-- The record of a process with one runner. -/
def sharedRecord (pluginId : String) : ServiceLoader.PluginRecord where
  manifestPath := ⟨true, ["plugins", pluginId, "plugin.toml"]⟩
  manifest := { plainManifest pluginId .process with runners := [⟨"shared", pluginId⟩] }
  runtime := some ⟨"helper", [], [], none, "sidecar"⟩
  resolvedArtifact := none

/-- Two plugins whose manifests name one runner. -/
def sharedSpecs : List ManagedRunnerSpec :=
  sidecarSpecs demoBootCfg [sharedRecord "plugin-a", sharedRecord "plugin-b"]

/-- **A RUNNER CHANGES HANDS**: the boot starts the runner of the first plugin;
    a reload of the unchanged catalog stops it and starts the second one's. -/
theorem shared_runner_changes_hands :
    let booted := startSupervisedSidecars bootAnswers ∅ 0 sharedSpecs
    let reloaded := (reconcile (bootAnswers 7) booted sharedSpecs).1
    (booted["shared"]?).map (fun runner => (runner.spec.pluginId, runner.child)) =
        some ("plugin-a", some ⟨1⟩) ∧
      (reloaded["shared"]?).map (fun runner => (runner.spec.pluginId, runner.child)) =
        some ("plugin-b", some ⟨8⟩) ∧
      ¬ SameProcesses booted reloaded := by
  intro booted reloaded
  have hbooted : (booted["shared"]?).map (fun runner => (runner.spec.pluginId, runner.child)) =
      some ("plugin-a", some ⟨1⟩) := by decide +kernel
  have hreloaded : (reloaded["shared"]?).map (fun runner => (runner.spec.pluginId, runner.child)) =
      some ("plugin-b", some ⟨8⟩) := by decide +kernel
  refine ⟨hbooted, hreloaded, fun hsame => ?_⟩
  have hpid := congrArg (Option.map fun entry => (entry.1.pluginId, entry.2)) (hsame "shared")
  rw [Option.map_map, Option.map_map] at hpid
  exact absurd (hreloaded.symm.trans (hpid.trans hbooted)) (by decide)

end ServiceSupervisor
