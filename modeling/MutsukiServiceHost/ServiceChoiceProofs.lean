import MutsukiServiceHost.ServiceSaveProofs

/-! # Deployment choices — changes that run side by side

    `change_plugin_deployment` clones the choices, saves the changed clone,
    awaits a whole reload and then stores the clone in memory.  Two changes
    whose windows overlap both start from the same choices, and the one that
    ends last wins.  When the windows do not overlap, no choice is lost. -/

namespace ServiceDeployment

open ServiceControl ServiceCatalog ListUpdate Transition

/-- The request is a set or a clear. -/
def MgmtRequest.isChange : MgmtRequest → Bool
  | .pluginReload => false
  | .pluginDeploymentSet _ | .pluginDeploymentClear _ => true

/-- The request is between its clone of the choices and its end. -/
def Phase.changing (p : Phase) : Bool :=
  match p.inWork with
  | some (some _, _) => true
  | _ => false

/-- The handler has not begun. -/
def Phase.isQueued : Phase → Bool
  | .queued => true
  | _ => false

/-- The steps under which no choice is lost: a change clones the choices only
    while no other change is at work. -/
def ChoiceSafe (s : Runtime) : Event → Prop
  | .task i .ok => ∀ t ∈ s.tasks[i]?, t.phase.isQueued = true → t.request.isChange = true →
      ∀ u ∈ s.tasks, u.phase.changing = false
  | _ => True

/-- The request did not go well, or will not. -/
def Phase.lost : Phase → Bool
  | .done response => !response.ok
  | .dropped _ => true
  | .saving _ (some _) _ => true
  | _ => false

/-- A change that did not go well, or will not. -/
def Task.lost (t : Task) : Bool := t.request.isChange && t.phase.lost

/-- No change has gone wrong. -/
def Fine (s : Runtime) : Prop := ∀ t ∈ s.tasks, t.lost = false

/-- Only changes save and commit, a response to restore for is an error, and
    one to commit for is not. -/
def Phase.Orderly : Phase → Prop
  | .saving w restoring _ => w.change ≠ none ∧ ∀ response ∈ restoring, response.ok = false
  | .committing w response => w.change ≠ none ∧ response.ok = true
  | _ => True

section Orderly

theorem orderly_begin (cfg : RuntimeCfg) (s : Runtime) (request : MgmtRequest) :
    (begin cfg s request).Orderly :=
  begin_cases (P := Phase.Orderly) (fun _ => trivial) (fun _ _ => trivial)

theorem orderly_afterScan (w : Work) : (afterScan w).Orderly :=
  afterScan_cases (P := Phase.Orderly) (fun _ => trivial) (fun hc => ⟨hc, nofun⟩)

theorem orderly_afterFailedReload (w : Work) (text : String) :
    (afterFailedReload w (failed text)).Orderly := by
  refine afterFailedReload_cases (P := Phase.Orderly) (fun _ => trivial) ?_
  refine fun hc => ⟨hc, ?_⟩
  rintro response ⟨⟩
  rfl

theorem orderly_afterReload (r : Reload) (changes : List PluginReloadChange)
    (errors : List String) : (afterReload r.work (r.response changes errors)).Orderly :=
  afterReload_cases (P := Phase.Orderly) (fun _ => trivial) (fun hc => ⟨hc, rfl⟩)

theorem orderly_afterFailedSave (error : ServiceRuntimeError)
    (restoring : Option ControlResponse) : (afterFailedSave error restoring).Orderly :=
  afterFailedSave_cases (P := Phase.Orderly) (fun _ => trivial)

theorem orderly_afterSave (w : Work) (restoring : Option ControlResponse) :
    (afterSave w restoring).Orderly := by
  cases restoring <;> trivial

variable {cfg : RuntimeCfg} {s s' : Runtime} {i : Nat} {t u : Task} {e : TaskEvent}

theorem TaskMove.orderly (m : TaskMove cfg s i t e s') (ht : s.tasks[i]? = some t)
    (hu : s'.tasks[i]? = some u) (h : t.phase.Orderly) : u.phase.Orderly := by
  cases m with
  | quiet _ p q =>
      rw [getElem?_setPhase ht] at hu
      cases hu
      cases q with
      | begin => exact orderly_begin _ _ _
      | resolved => exact orderly_afterScan _
      | saveDir w restoring hp | saveSerialize w restoring bytes hp =>
          rw [hp] at h
          exact h
      | reconciled r changes errors => exact orderly_afterReload r changes errors
      | dropQueued | generation | bootstrapped | dropBootstrap | lockRead | lockDir
      | lockSerialize | dropReconcile => trivial
  | quietFail _ fault p q =>
      rw [getElem?_setFailed ht] at hu
      cases hu
      cases q with
      | scan | resolve | lockRead => trivial
      | save _ w restoring at_ error => exact orderly_afterFailedSave error restoring
      | coreGone | bootstrap | lock | coreGoneLate => exact orderly_afterFailedReload _ _
  | writePending w restoring bytes hp | removeOld w restoring hp =>
      cases (getElem?_modify_self ht).symm.trans hu
      rw [hp] at h
      exact h
  | leavePending w restoring bytes detail left error =>
      cases (getElem?_modify_self ht).symm.trans hu
      exact orderly_afterFailedSave error restoring
  | rename w restoring =>
      cases (getElem?_modify_self ht).symm.trans hu
      exact orderly_afterSave w restoring
  | leaveLock | reloadFail | restoreFail =>
      cases (getElem?_modify_self ht).symm.trans hu
      exact orderly_afterFailedReload _ _
  | writeLock | install | replace | commit =>
      cases (getElem?_modify_self ht).symm.trans hu
      trivial

theorem lost_afterFailedSave (error : ServiceRuntimeError) (restoring : Option ControlResponse) :
    (afterFailedSave error restoring).lost = true :=
  afterFailedSave_cases (P := fun p => p.lost = true) (fun _ => rfl)

theorem lost_afterFailedReload (w : Work) (text : String) :
    (afterFailedReload w (failed text)).lost = true :=
  afterFailedReload_cases (P := fun p => p.lost = true) (fun _ => rfl) (fun _ => rfl)

/-- What has gone wrong stays so. -/
theorem TaskMove.stays_lost (m : TaskMove cfg s i t e s') (ht : s.tasks[i]? = some t)
    (hu : s'.tasks[i]? = some u) (horderly : t.phase.Orderly) (h : t.phase.lost = true) :
    u.phase.lost = true := by
  cases m with
  | quiet _ p q =>
      rw [getElem?_setPhase ht] at hu
      cases hu
      cases q with
      | begin hp | dropQueued hp | resolved _ _ _ _ hp | generation _ _ hp | bootstrapped _ hp
      | dropBootstrap _ hp | lockRead _ hp | lockDir _ _ hp | lockSerialize _ _ _ hp
      | reconciled _ _ _ hp | dropReconcile _ _ hp =>
          rw [hp] at h
          exact nomatch h
      | saveDir _ restoring hp | saveSerialize _ restoring _ hp =>
          rw [hp] at h
          cases restoring with
          | none => exact nomatch h
          | some => rfl
  | quietFail _ fault p q =>
      rw [getElem?_setFailed ht] at hu
      cases hu
      cases q with
      | scan | resolve => rfl
      | save _ _ restoring _ error => exact lost_afterFailedSave error restoring
      | coreGone | bootstrap | lock | coreGoneLate => exact lost_afterFailedReload _ _
      | lockRead _ _ hp =>
          rw [hp] at h
          exact nomatch h
  | writePending _ restoring _ hp | removeOld _ restoring hp =>
      cases (getElem?_modify_self ht).symm.trans hu
      rw [hp] at h
      cases restoring with
      | none => exact nomatch h
      | some => rfl
  | leavePending _ restoring _ _ _ error =>
      cases (getElem?_modify_self ht).symm.trans hu
      exact lost_afterFailedSave error restoring
  | rename w restoring _ hp =>
      cases (getElem?_modify_self ht).symm.trans hu
      rw [hp] at h horderly
      cases restoring with
      | none => exact nomatch h
      | some response =>
          -- the response to restore for is an error
          show (!response.ok) = true
          rw [horderly.2 response rfl]
          rfl
  | leaveLock | reloadFail | restoreFail =>
      cases (getElem?_modify_self ht).symm.trans hu
      exact lost_afterFailedReload _ _
  | writeLock _ _ _ hp | install _ _ _ _ hp | replace _ _ hp | commit _ _ hp =>
      rw [hp] at h
      exact nomatch h

/-- A change that ends has gone wrong or commits. -/
theorem TaskMove.ended (m : TaskMove cfg s i t e s') (ht : s.tasks[i]? = some t)
    (hu : s'.tasks[i]? = some u) (horderly : t.phase.Orderly)
    (hchange : ∀ x, t.phase.inWork = some x → x.1 ≠ none) (h : u.phase.isOver = true) :
    u.phase.lost = true ∨ ∃ w response, t.phase = .committing w response ∧
      s' = { s.setPhase i (.done response) with deploymentState := w.next } := by
  have hstays := m.stays_lost ht hu horderly
  cases m with
  | quiet _ p q =>
      rw [getElem?_setPhase ht] at hu
      cases hu
      cases q with
      | begin hp =>
          refine .inl ?_
          exact begin_cases (P := fun p => p.isOver = true → p.lost = true) (fun _ _ => rfl)
            (fun _ _ => nofun) h
      | dropQueued | dropBootstrap | dropReconcile => exact .inl rfl
      | resolved change previous next catalog hp =>
          refine absurd h ?_
          exact afterScan_cases (P := fun p => ¬ p.isOver = true) (fun _ => nofun) (fun _ => nofun)
      | saveDir | saveSerialize | generation | bootstrapped | lockRead | lockDir
      | lockSerialize => exact nomatch h
      | reconciled r changes errors hp =>
          have hne : r.work.change ≠ none :=
            hchange (r.work.change, r.work.previous, r.work.next) (by rw [hp]; rfl)
          refine absurd h ?_
          exact afterReload_cases (P := fun p => ¬ p.isOver = true) (fun hc => absurd hc hne)
            (fun _ => nofun)
  | quietFail _ fault p q =>
      rw [getElem?_setFailed ht] at hu
      cases hu
      cases q with
      | scan | resolve => exact .inl rfl
      | save _ _ restoring _ error => exact .inl (lost_afterFailedSave error restoring)
      | coreGone | bootstrap | lock | coreGoneLate => exact .inl (lost_afterFailedReload _ _)
      | lockRead => exact nomatch h
  | leavePending _ restoring _ _ _ error =>
      cases (getElem?_modify_self ht).symm.trans hu
      exact .inl (lost_afterFailedSave error restoring)
  | rename w restoring _ hp =>
      cases (getElem?_modify_self ht).symm.trans hu
      cases restoring with
      | none => exact nomatch h
      | some response => exact .inl (hstays (by rw [hp]; rfl))
  | leaveLock | reloadFail | restoreFail =>
      cases (getElem?_modify_self ht).symm.trans hu
      exact .inl (lost_afterFailedReload _ _)
  | writePending | removeOld | writeLock | install | replace =>
      cases (getElem?_modify_self ht).symm.trans hu
      exact nomatch h
  | commit w response hp => exact .inr ⟨w, response, hp, rfl⟩

end Orderly

/-! ## What a change in work is -/

theorem MgmtRequest.change_ne_none {cfg : RuntimeCfg} {request : MgmtRequest}
    (h : request.isChange = true) : request.change cfg ≠ .ok none := by
  cases request with
  | pluginReload => exact nomatch h
  | pluginDeploymentSet params =>
      show (cfg.readSet params).map _ ≠ .ok none
      cases cfg.readSet params <;> nofun
  | pluginDeploymentClear params =>
      show (cfg.readClear params).map _ ≠ .ok none
      cases cfg.readClear params <;> nofun

theorem MgmtRequest.isChange_of_change {cfg : RuntimeCfg} {request : MgmtRequest} {c : Change}
    (h : request.change cfg = .ok (some c)) : request.isChange = true := by
  cases request with
  | pluginReload => exact nomatch h
  | pluginDeploymentSet | pluginDeploymentClear => rfl

theorem Phase.changing_inv {p : Phase} (h : p.changing = true) :
    ∃ c previous next, p.inWork = some (some c, previous, next) := by
  simp only [Phase.changing] at h
  split at h
  · rename_i c x hx
    exact ⟨c, x.1, x.2, hx⟩
  · exact nomatch h

theorem Phase.changing_of_inWork {p : Phase}
    {x : Option Change × PluginDeploymentState × PluginDeploymentState}
    (h : p.inWork = some x) (hx : x.1 ≠ none) : p.changing = true := by
  obtain ⟨change, previous, next⟩ := x
  cases change with
  | none => exact absurd rfl hx
  | some c =>
      simp only [Phase.changing]
      rw [h]

theorem Phase.changing_of_committing {w : Work} {response : ControlResponse} {p : Phase}
    (hp : p = .committing w response) (h : p.Orderly) : p.changing = true := by
  subst hp
  exact Phase.changing_of_inWork rfl h.1

theorem Phase.changing_of_isSaving {p : Phase} (h : p.isSaving = true) (horderly : p.Orderly) :
    p.changing = true := by
  cases p with
  | saving w restoring at_ => exact Phase.changing_of_inWork rfl horderly.1
  | queued | scanning | readGeneration | committing | bootstrapping | readLock | writingLock
  | reloading | replacing | reconciling | done | dropped => exact nomatch h

/-- A request that is neither waiting nor over is at work. -/
theorem Phase.inWork_of_busy {p : Phase} (hq : p ≠ .queued) (hover : p.isOver = false) :
    ∃ x, p.inWork = some x := by
  cases p with
  | queued => exact absurd rfl hq
  | done | dropped => exact nomatch hover
  | scanning | saving | readGeneration | committing | bootstrapping | readLock | writingLock
  | reloading | replacing | reconciling => exact ⟨_, rfl⟩

/-! ## One change at a time -/

/-- The change was made. -/
def Made (cfg : RuntimeCfg) (s : Runtime) (c : Change) : Prop :=
  ∃ t ∈ s.tasks, (∃ response, t.phase = .done response) ∧ t.request.change cfg = .ok (some c)

/-- One change at a time, and, unless one goes wrong, memory and disk hold the
    changes made so far. -/
structure ChoiceInv (cfg : RuntimeCfg) (s₀ s : Runtime) : Prop where
  work : WorkInv cfg s
  orderly : ∀ (i : Nat) (t : Task), s.tasks[i]? = some t → t.phase.Orderly
  exclusive : ∀ (i j : Nat) (t u : Task), s.tasks[i]? = some t → s.tasks[j]? = some u →
    t.phase.changing = true → u.phase.changing = true → i = j
  base : ∀ (i : Nat) (t : Task) (c : Change) (previous next : PluginDeploymentState),
    s.tasks[i]? = some t → t.phase.inWork = some (some c, previous, next) →
    previous = s.deploymentState
  idle : Fine s → (∀ t ∈ s.tasks, t.phase.changing = false) → s.load cfg = .ok s.deploymentState
  busy : Fine s → ∀ (i : Nat) (t : Task), s.tasks[i]? = some t → t.phase.changing = true →
    DiskAt cfg (.ok s.deploymentState) s t.phase
  choices : Fine s → ∀ id,
    (∃ c, Made cfg s c ∧ c.pluginId = id ∧ s.deploymentState.plugins.lookup id = c.deployment) ∨
    ((∀ c, Made cfg s c → c.pluginId ≠ id) ∧
      s.deploymentState.plugins.lookup id = s₀.deploymentState.plugins.lookup id)

theorem begin_ne_queued (cfg : RuntimeCfg) (s : Runtime) (request : MgmtRequest) :
    begin cfg s request ≠ .queued :=
  begin_cases (P := (· ≠ .queued)) (fun _ => nofun) (fun _ _ => nofun)

theorem afterFailedReload_ne_queued (w : Work) (response : ControlResponse) :
    afterFailedReload w response ≠ .queued :=
  afterFailedReload_cases (P := (· ≠ .queued)) (fun _ => nofun) (fun _ => nofun)

theorem afterFailedSave_ne_queued (error : ServiceRuntimeError)
    (restoring : Option ControlResponse) : afterFailedSave error restoring ≠ .queued :=
  afterFailedSave_cases (P := (· ≠ .queued)) (fun _ => nofun)

/-- No step leads back to the start. -/
theorem TaskMove.not_queued {cfg : RuntimeCfg} {s s' : Runtime} {i : Nat} {t u : Task}
    {e : TaskEvent} (m : TaskMove cfg s i t e s') (ht : s.tasks[i]? = some t)
    (hu : s'.tasks[i]? = some u) : u.phase ≠ .queued := by
  cases m with
  | quiet _ p q =>
      rw [getElem?_setPhase ht] at hu
      cases hu
      cases q with
      | begin => exact begin_ne_queued cfg s _
      | resolved =>
          exact afterScan_cases (P := (· ≠ .queued)) (fun _ => nofun) (fun _ => nofun)
      | reconciled =>
          exact afterReload_cases (P := (· ≠ .queued)) (fun _ => nofun) (fun _ => nofun)
      | dropQueued | saveDir | saveSerialize | generation | bootstrapped | dropBootstrap
      | lockRead | lockDir | lockSerialize | dropReconcile => nofun
  | quietFail _ fault p q =>
      rw [getElem?_setFailed ht] at hu
      cases hu
      cases q with
      | scan | resolve | lockRead => nofun
      | save _ _ restoring _ error => exact afterFailedSave_ne_queued error restoring
      | coreGone | bootstrap | lock | coreGoneLate => exact afterFailedReload_ne_queued _ _
  | leavePending _ restoring _ _ _ error =>
      cases (getElem?_modify_self ht).symm.trans hu
      exact afterFailedSave_ne_queued error restoring
  | rename _ restoring =>
      cases (getElem?_modify_self ht).symm.trans hu
      cases restoring <;> nofun
  | leaveLock | reloadFail | restoreFail =>
      cases (getElem?_modify_self ht).symm.trans hu
      exact afterFailedReload_ne_queued _ _
  | writePending | removeOld | writeLock | install | replace | commit =>
      cases (getElem?_modify_self ht).symm.trans hu
      nofun

/-- A request that is over does not move. -/
theorem TaskMove.not_over {cfg : RuntimeCfg} {s s' : Runtime} {i : Nat} {t : Task} {e : TaskEvent}
    (m : TaskMove cfg s i t e s') : t.phase.isOver = false := by
  cases m with
  | quiet _ p q =>
      cases q with
      | begin hp | dropQueued hp | resolved _ _ _ _ hp | saveDir _ _ hp | saveSerialize _ _ _ hp
      | generation _ _ hp | bootstrapped _ hp | dropBootstrap _ hp | lockRead _ hp
      | lockDir _ _ hp | lockSerialize _ _ _ hp | reconciled _ _ _ hp | dropReconcile _ _ hp =>
          rw [hp]
          rfl
  | quietFail _ fault p q =>
      cases q with
      | scan _ _ _ _ hp | resolve _ _ _ _ hp | save _ _ _ _ _ hp | coreGone _ hp
      | bootstrap _ _ hp | lockRead _ _ hp | lock _ _ _ _ _ _ hp | coreGoneLate _ _ hp =>
          rw [hp]
          rfl
  | writePending _ _ _ hp | leavePending _ _ _ _ _ _ hp | removeOld _ _ hp | rename _ _ _ hp
  | writeLock _ _ _ hp | leaveLock _ _ _ _ _ _ hp | install _ _ _ _ hp | reloadFail _ _ _ _ hp
  | restoreFail _ _ _ _ _ _ hp | replace _ _ hp | commit _ _ hp =>
      rw [hp]
      rfl

/-- The task that has moved. -/
theorem TaskMove.moved {cfg : RuntimeCfg} {s s' : Runtime} {i : Nat} {t : Task} {e : TaskEvent}
    (m : TaskMove cfg s i t e s') (ht : s.tasks[i]? = some t) :
    ∃ u, s'.tasks[i]? = some u ∧ u.request = t.request := by
  obtain ⟨f, hf, hrequest⟩ := m.tasks
  refine ⟨f t, ?_, hrequest t⟩
  rw [hf]
  exact getElem?_modify_self ht

section Moves

variable {cfg : RuntimeCfg} {s₀ s s' : Runtime} {i : Nat} {t u : Task} {e : TaskEvent}

/-- A request that is not changing anything leaves the disk and the choices
    alone. -/
theorem ChoiceInv.aside (h : ChoiceInv cfg s₀ s) (ht : s.tasks[i]? = some t)
    (m : TaskMove cfg s i t e s') (hp : t.phase.changing = false) :
    s'.disk = s.disk ∧ s'.deploymentState = s.deploymentState := by
  have horderly := h.orderly i t ht
  refine ⟨m.disk ?_, ?_⟩
  · cases hsaving : t.phase.isSaving with
    | false => rfl
    | true =>
        rw [Phase.changing_of_isSaving hsaving horderly] at hp
        exact nomatch hp
  · rcases m.memory with hmem | ⟨w, response, hc, -⟩
    · exact hmem
    · rw [Phase.changing_of_committing hc horderly] at hp
      exact nomatch hp

/-- A request starts to change something with its first step. -/
theorem ChoiceInv.starts (m : TaskMove cfg s i t e s') (ht : s.tasks[i]? = some t)
    (hu : s'.tasks[i]? = some u) (hp : t.phase.changing = false) (hup : u.phase.changing = true) :
    t.phase = .queued ∧ e = .ok ∧ u.phase = begin cfg s t.request ∧ t.request.isChange = true := by
  obtain ⟨c, previous, next, hx⟩ := Phase.changing_inv hup
  rcases m.inWork ht hu hx with hx' | ⟨hq, he, hbegin⟩
  · rw [Phase.changing_of_inWork hx' nofun] at hp
    exact nomatch hp
  · rw [hbegin] at hx
    exact ⟨hq, he, hbegin, MgmtRequest.isChange_of_change (inWork_begin hx).1⟩

/-- While a change stays at work, the choices in memory stay. -/
theorem ChoiceInv.working (m : TaskMove cfg s i t e s') (ht : s.tasks[i]? = some t)
    (hu : s'.tasks[i]? = some u) (hup : u.phase.changing = true) :
    s'.deploymentState = s.deploymentState := by
  rcases m.memory with hmem | ⟨w, response, hc, rfl⟩
  · exact hmem
  · cases (getElem?_modify_self ht).symm.trans hu
    exact nomatch hup

/-- A change that leaves its work has gone wrong or commits. -/
theorem ChoiceInv.leaves (h : ChoiceInv cfg s₀ s) (ht : s.tasks[i]? = some t)
    (m : TaskMove cfg s i t e s') (hu : s'.tasks[i]? = some u) (hrequest : u.request = t.request)
    (hchange : t.request.isChange = true) (hup : u.phase.changing = false) :
    u.lost = true ∨ ∃ w response, t.phase = .committing w response ∧
      s' = { s.setPhase i (.done response) with deploymentState := w.next } := by
  have hwork : ∀ x, t.phase.inWork = some x → x.1 ≠ none := by
    intro x hx hnone
    have hreq := (h.work.work i t x ht hx).1
    rw [hnone] at hreq
    exact MgmtRequest.change_ne_none hchange hreq
  have hover : u.phase.isOver = true := by
    cases hover : u.phase.isOver with
    | true => rfl
    | false =>
        have hnq : u.phase ≠ .queued := m.not_queued ht hu
        obtain ⟨x, hx⟩ := Phase.inWork_of_busy hnq hover
        have hne : x.1 ≠ none := by
          rcases m.inWork ht hu hx with hx' | ⟨-, -, hbegin⟩
          · exact hwork x hx'
          · rw [hbegin] at hx
            intro hnone
            have hreq := (inWork_begin hx).1
            rw [hnone] at hreq
            exact MgmtRequest.change_ne_none hchange hreq
        rw [Phase.changing_of_inWork hx hne] at hup
        exact nomatch hup
  refine (m.ended ht hu (h.orderly i t ht) hwork hover).imp_left ?_
  intro hlost
  simp only [Task.lost]
  rw [hrequest, hchange, hlost]
  rfl

/-- A request has moved: whoever changes something is it or was at it before. -/
theorem TaskMove.tasks_inv (m : TaskMove cfg s i t e s') (hu : s'.tasks[i]? = some u) {j : Nat}
    {v : Task} (hv : s'.tasks[j]? = some v) : (i = j ∧ v = u) ∨ (i ≠ j ∧ s.tasks[j]? = some v) := by
  by_cases hij : i = j
  · subst hij
    exact .inl ⟨rfl, Option.some.inj (hv.symm.trans hu)⟩
  · rw [m.other hij] at hv
    exact .inr ⟨hij, hv⟩

theorem ChoiceInv.fine_before (h : ChoiceInv cfg s₀ s) (ht : s.tasks[i]? = some t)
    (m : TaskMove cfg s i t e s') (hu : s'.tasks[i]? = some u) (hrequest : u.request = t.request)
    (hfine : Fine s') : Fine s := by
  intro v hv
  obtain ⟨j, hj⟩ := List.getElem?_of_mem hv
  by_cases hij : i = j
  · subst hij
    cases ht.symm.trans hj
    have hnot := hfine u (List.mem_of_getElem? hu)
    cases hlost : t.lost with
    | false => rfl
    | true =>
        obtain ⟨hchange, hphase⟩ := Bool.and_eq_true_iff.mp hlost
        have hstays := m.stays_lost ht hu (h.orderly i t ht) hphase
        simp only [Task.lost] at hnot
        rw [hrequest, hchange, hstays] at hnot
        exact nomatch hnot
  · rw [← m.other hij] at hj
    exact hfine v (List.mem_of_getElem? hj)

/-- Nobody else is changing anything. -/
theorem ChoiceInv.alone (h : ChoiceInv cfg s₀ s) (hsafe : ChoiceSafe s (.task i e))
    (ht : s.tasks[i]? = some t) (m : TaskMove cfg s i t e s') (hu : s'.tasks[i]? = some u)
    (hup : u.phase.changing = true) {j : Nat} {v : Task} (hij : i ≠ j)
    (hv : s.tasks[j]? = some v) : v.phase.changing = false := by
  cases hvp : v.phase.changing with
  | false => rfl
  | true =>
      cases hp : t.phase.changing with
      | true => exact absurd (h.exclusive i j t v ht hv hp hvp) hij
      | false =>
          obtain ⟨hq, rfl, -, hchange⟩ := ChoiceInv.starts m ht hu hp hup
          have hnone := hsafe t ht (by rw [hq]; rfl) hchange v (List.mem_of_getElem? hv)
          exact nomatch hnone.symm.trans hvp

theorem ChoiceInv.exclusive_after (h : ChoiceInv cfg s₀ s) (hsafe : ChoiceSafe s (.task i e))
    (ht : s.tasks[i]? = some t) (m : TaskMove cfg s i t e s') (hu : s'.tasks[i]? = some u) :
    ∀ (j k : Nat) (v w : Task), s'.tasks[j]? = some v → s'.tasks[k]? = some w →
      v.phase.changing = true → w.phase.changing = true → j = k := by
  intro j k v w hv hw hvp hwp
  rcases m.tasks_inv hu hv with ⟨rfl, rfl⟩ | ⟨hij, hv'⟩
  · rcases m.tasks_inv hu hw with ⟨rfl, -⟩ | ⟨hik, hw'⟩
    · rfl
    · rw [h.alone hsafe ht m hu hvp hik hw'] at hwp
      exact nomatch hwp
  · rcases m.tasks_inv hu hw with ⟨rfl, rfl⟩ | ⟨-, hw'⟩
    · rw [h.alone hsafe ht m hu hwp hij hv'] at hvp
      exact nomatch hvp
    · exact h.exclusive j k v w hv' hw' hvp hwp

/-- Another change at work sees the choices it cloned. -/
theorem ChoiceInv.memory_kept (h : ChoiceInv cfg s₀ s) (ht : s.tasks[i]? = some t)
    (m : TaskMove cfg s i t e s') {j : Nat} {v : Task} (hij : i ≠ j) (hv : s.tasks[j]? = some v)
    (hvp : v.phase.changing = true) :
    s'.disk = s.disk ∧ s'.deploymentState = s.deploymentState := by
  refine h.aside ht m ?_
  cases hp : t.phase.changing with
  | false => rfl
  | true => exact absurd (h.exclusive i j t v ht hv hp hvp) hij

theorem ChoiceInv.base_after (h : ChoiceInv cfg s₀ s) (ht : s.tasks[i]? = some t)
    (m : TaskMove cfg s i t e s') (hu : s'.tasks[i]? = some u) :
    ∀ (j : Nat) (v : Task) (c : Change) (previous next : PluginDeploymentState),
      s'.tasks[j]? = some v → v.phase.inWork = some (some c, previous, next) →
      previous = s'.deploymentState := by
  intro j v c previous next hv hx
  have hvp : v.phase.changing = true := Phase.changing_of_inWork hx nofun
  rcases m.tasks_inv hu hv with ⟨rfl, rfl⟩ | ⟨hij, hv'⟩
  · rw [ChoiceInv.working m ht hu hvp]
    rcases m.inWork ht hu hx with hx' | ⟨-, -, hbegin⟩
    · exact h.base i t c previous next ht hx'
    · rw [hbegin] at hx
      exact (inWork_begin hx).2.1
  · rw [(h.memory_kept ht m hij hv' hvp).2]
    exact h.base j v c previous next hv' hx

/-- The new choices are on the disk when they are committed. -/
theorem ChoiceInv.committed (h : ChoiceInv cfg s₀ s) (hfine : Fine s) (ht : s.tasks[i]? = some t)
    {w : Work} {response : ControlResponse} (hp : t.phase = .committing w response) :
    ∃ c, t.request.change cfg = .ok (some c) ∧ w.next = s.deploymentState.change c ∧
      s.load cfg = .ok w.next := by
  have horderly := h.orderly i t ht
  have hbusy := h.busy hfine i t ht (Phase.changing_of_committing hp horderly)
  have hx : t.phase.inWork = some (w.change, w.previous, w.next) := by
    rw [hp]
    rfl
  obtain ⟨hrequest, -, hnext⟩ := h.work.work i t _ ht hx
  rw [hp] at horderly hbusy
  cases hc : w.change with
  | none => exact absurd hc horderly.1
  | some c =>
      rw [hc] at hx
      have hload : s.load cfg = settled (.ok s.deploymentState) w := hbusy
      rw [settled, hc] at hload
      have hprev : w.previous = s.deploymentState := h.base i t c w.previous w.next ht hx
      refine ⟨c, hrequest.trans (congrArg Except.ok hc), ?_, hload⟩
      rw [← hprev]
      exact hnext.trans (congrArg (applyChange w.previous) hc)

theorem ChoiceInv.idle_after (h : ChoiceInv cfg s₀ s) (ht : s.tasks[i]? = some t)
    (m : TaskMove cfg s i t e s') (hu : s'.tasks[i]? = some u) (hrequest : u.request = t.request)
    (hfine : Fine s') (hall : ∀ v ∈ s'.tasks, v.phase.changing = false) :
    s'.load cfg = .ok s'.deploymentState := by
  have hfine₀ := h.fine_before ht m hu hrequest hfine
  cases hp : t.phase.changing with
  | true =>
      -- the change has just ended, and well
      obtain ⟨c, previous, next, hx⟩ := Phase.changing_inv hp
      have hchange := MgmtRequest.isChange_of_change (h.work.work i t _ ht hx).1
      have hmem := List.mem_of_getElem? hu
      rcases h.leaves ht m hu hrequest hchange (hall u hmem) with hlost | ⟨w, response, hc, rfl⟩
      · rw [hfine u hmem] at hlost
        exact nomatch hlost
      · obtain ⟨-, -, -, hload⟩ := h.committed hfine₀ ht hc
        exact hload
  | false =>
      obtain ⟨hdisk, hmem⟩ := h.aside ht m hp
      rw [load_of_disk hdisk, hmem]
      refine h.idle hfine₀ ?_
      intro v hv
      obtain ⟨j, hj⟩ := List.getElem?_of_mem hv
      by_cases hij : i = j
      · subst hij
        cases ht.symm.trans hj
        exact hp
      · rw [← m.other hij] at hj
        exact hall v (List.mem_of_getElem? hj)

theorem ChoiceInv.busy_after (h : ChoiceInv cfg s₀ s) (hsafe : ChoiceSafe s (.task i e))
    (ht : s.tasks[i]? = some t) (m : TaskMove cfg s i t e s') (hu : s'.tasks[i]? = some u)
    (hrequest : u.request = t.request) (hfine : Fine s') :
    ∀ (j : Nat) (v : Task), s'.tasks[j]? = some v → v.phase.changing = true →
      DiskAt cfg (.ok s'.deploymentState) s' v.phase := by
  have hfine₀ := h.fine_before ht m hu hrequest hfine
  intro j v hv hvp
  rcases m.tasks_inv hu hv with ⟨rfl, rfl⟩ | ⟨hij, hv'⟩
  · rw [ChoiceInv.working m ht hu hvp]
    refine m.diskAt ht hu (h.work.next_version ht) ?_
    cases hp : t.phase.changing with
    | true => exact h.busy hfine₀ i t ht hp
    | false =>
        -- it begins, and finds on the disk what is in memory
        obtain ⟨hq, rfl, -, hchange⟩ := ChoiceInv.starts m ht hu hp hvp
        rw [hq]
        exact h.idle hfine₀ (hsafe t ht (by rw [hq]; rfl) hchange)
  · obtain ⟨hdisk, hmem⟩ := h.memory_kept ht m hij hv' hvp
    rw [hmem]
    exact (h.busy hfine₀ j v hv' hvp).congr hdisk

/-- The changes made before a step are made after it. -/
theorem Made.mono (m : TaskMove cfg s i t e s') (ht : s.tasks[i]? = some t) {c : Change}
    (h : Made cfg s c) : Made cfg s' c := by
  obtain ⟨v, hv, ⟨response, hdone⟩, hc⟩ := h
  obtain ⟨j, hj⟩ := List.getElem?_of_mem hv
  have hij : i ≠ j := by
    rintro rfl
    cases ht.symm.trans hj
    have hover := m.not_over
    rw [hdone] at hover
    exact nomatch hover
  rw [← m.other hij] at hj
  exact ⟨v, List.mem_of_getElem? hj, ⟨response, hdone⟩, hc⟩

/-- A change made after a step was made before, or the step commits it. -/
theorem ChoiceInv.made_inv (h : ChoiceInv cfg s₀ s) (ht : s.tasks[i]? = some t)
    (m : TaskMove cfg s i t e s') (hu : s'.tasks[i]? = some u) (hrequest : u.request = t.request)
    (hfine : Fine s') {c : Change} (hmade : Made cfg s' c) : Made cfg s c ∨
      (t.request.change cfg = .ok (some c) ∧ ∃ w response, t.phase = .committing w response ∧
        s' = { s.setPhase i (.done response) with deploymentState := w.next }) := by
  obtain ⟨v, hv, ⟨response, hdone⟩, hc⟩ := hmade
  obtain ⟨j, hj⟩ := List.getElem?_of_mem hv
  rcases m.tasks_inv hu hj with ⟨rfl, rfl⟩ | ⟨hij, hj'⟩
  · rw [hrequest] at hc
    refine (h.leaves ht m hu hrequest (MgmtRequest.isChange_of_change hc) ?_).elim ?_ ?_
    · rw [hdone]
      rfl
    · intro hlost
      rw [hfine v hv] at hlost
      exact nomatch hlost
    · exact fun hcommit => .inr ⟨hc, hcommit⟩
  · exact .inl ⟨v, List.mem_of_getElem? hj', ⟨response, hdone⟩, hc⟩

theorem ChoiceInv.choices_after (h : ChoiceInv cfg s₀ s) (ht : s.tasks[i]? = some t)
    (m : TaskMove cfg s i t e s') (hu : s'.tasks[i]? = some u) (hrequest : u.request = t.request)
    (hfine : Fine s') (id : String) :
    (∃ c, Made cfg s' c ∧ c.pluginId = id ∧
      s'.deploymentState.plugins.lookup id = c.deployment) ∨
    ((∀ c, Made cfg s' c → c.pluginId ≠ id) ∧
      s'.deploymentState.plugins.lookup id = s₀.deploymentState.plugins.lookup id) := by
  have hfine₀ := h.fine_before ht m hu hrequest hfine
  by_cases hcommit : ∃ w response, t.phase = .committing w response ∧
      s' = { s.setPhase i (.done response) with deploymentState := w.next }
  · -- the committed change is the one made last
    obtain ⟨w, response, hp, rfl⟩ := hcommit
    obtain ⟨c, hc, hnext, -⟩ := h.committed hfine₀ ht hp
    have hdone : u.phase = .done response := by
      cases (getElem?_modify_self ht).symm.trans hu
      rfl
    have hmade : Made cfg { s.setPhase i (.done response) with deploymentState := w.next } c :=
      ⟨u, List.mem_of_getElem? hu, ⟨response, hdone⟩, hrequest ▸ hc⟩
    have hlookup := lookup_change s.deploymentState c id
    show (∃ c, _ ∧ _ ∧ w.next.plugins.lookup id = _) ∨ (_ ∧ w.next.plugins.lookup id = _)
    rw [hnext, hlookup]
    by_cases hid : id = c.pluginId
    · rw [if_pos hid]
      exact .inl ⟨c, hmade, hid.symm, rfl⟩
    · rw [if_neg hid]
      refine (h.choices hfine₀ id).imp ?_ ?_
      · rintro ⟨c', hmade', hc'⟩
        exact ⟨c', hmade'.mono m ht, hc'⟩
      · rintro ⟨hnone, hkept⟩
        refine ⟨?_, hkept⟩
        intro c' hmade'
        rcases h.made_inv ht m hu hrequest hfine hmade' with hold | ⟨hsame, -⟩
        · exact hnone c' hold
        · cases hsame.symm.trans hc
          exact fun heq => hid heq.symm
  · have hmem : s'.deploymentState = s.deploymentState := m.memory.resolve_right hcommit
    rw [hmem]
    refine (h.choices hfine₀ id).imp ?_ ?_
    · rintro ⟨c, hmade, hc⟩
      exact ⟨c, hmade.mono m ht, hc⟩
    · rintro ⟨hnone, hkept⟩
      refine ⟨?_, hkept⟩
      intro c hmade
      rcases h.made_inv ht m hu hrequest hfine hmade with hold | ⟨-, hbad⟩
      · exact hnone c hold
      · exact absurd hbad hcommit

end Moves

/-! ## No choice is lost -/

theorem ChoiceInv.init {cfg : RuntimeCfg} {s : Runtime} (htasks : s.tasks = [])
    (hload : s.load cfg = .ok s.deploymentState) : ChoiceInv cfg s s := by
  have hnone : ∀ {i : Nat} {t : Task}, s.tasks[i]? ≠ some t := by
    intro i t ht
    rw [htasks] at ht
    exact nomatch ht
  refine ⟨WorkInv.init htasks hload, fun _ _ ht => absurd ht hnone,
    fun _ _ _ _ ht => absurd ht hnone, fun _ _ _ _ _ ht => absurd ht hnone, fun _ _ => hload,
    fun _ _ _ ht => absurd ht hnone, fun _ id => .inr ⟨?_, rfl⟩⟩
  rintro c ⟨t, ht, -⟩
  rw [htasks] at ht
  exact nomatch ht

theorem ChoiceInv.request {cfg : RuntimeCfg} {s₀ s : Runtime} (h : ChoiceInv cfg s₀ s)
    (request : MgmtRequest)
    (hwork : WorkInv cfg { s with tasks := s.tasks ++ [⟨request, .queued, []⟩] }) :
    ChoiceInv cfg s₀ { s with tasks := s.tasks ++ [⟨request, .queued, []⟩] } := by
  -- the new request has done nothing yet
  have hold : ∀ {j : Nat} {u : Task}, (s.tasks ++ [⟨request, .queued, []⟩])[j]? = some u →
      u.phase.changing = true → s.tasks[j]? = some u := by
    intro j u hu hup
    rcases getElem?_concat_inv hu with hu | ⟨-, rfl⟩
    · exact hu
    · exact nomatch hup
  have hfine : Fine { s with tasks := s.tasks ++ [⟨request, .queued, []⟩] } → Fine s :=
    fun hfine t ht => hfine t (List.mem_append_left _ ht)
  have hmade : ∀ c, Made cfg { s with tasks := s.tasks ++ [⟨request, .queued, []⟩] } c ↔
      Made cfg s c := by
    intro c
    constructor
    · rintro ⟨t, ht, ⟨response, hdone⟩, hc⟩
      rcases List.mem_append.mp ht with ht | ht
      · exact ⟨t, ht, ⟨response, hdone⟩, hc⟩
      · rw [List.mem_singleton.mp ht] at hdone
        exact nomatch hdone
    · rintro ⟨t, ht, hdone, hc⟩
      exact ⟨t, List.mem_append_left _ ht, hdone, hc⟩
  refine ⟨hwork, ?_, ?_, ?_, ?_, ?_, ?_⟩
  · intro i t ht
    rcases getElem?_concat_inv ht with ht | ⟨-, rfl⟩
    · exact h.orderly i t ht
    · trivial
  · intro i j t u ht hu htp hup
    exact h.exclusive i j t u (hold ht htp) (hold hu hup) htp hup
  · intro i t c previous next ht hx
    exact h.base i t c previous next (hold ht (Phase.changing_of_inWork hx nofun)) hx
  · intro hf hall
    exact h.idle (hfine hf) fun t ht => hall t (List.mem_append_left _ ht)
  · intro hf i t ht htp
    exact (h.busy (hfine hf) i t (hold ht htp) htp).congr rfl
  · intro hf id
    simp only [hmade]
    exact h.choices (hfine hf) id

theorem ChoiceInv.preserved {cfg : RuntimeCfg} {s₀ s s' : Runtime} {e : Event}
    (h : ChoiceInv cfg s₀ s) (hsafe : ChoiceSafe s e) (hs : step cfg s e = some s') :
    ChoiceInv cfg s₀ s' := by
  have hwork := h.work.preserved hs
  cases step_move hs with
  | request request => exact h.request request hwork
  | takeCore =>
      exact ⟨hwork, h.orderly, h.exclusive, h.base, h.idle,
        fun hf i t ht htp => (h.busy hf i t ht htp).congr rfl, h.choices⟩
  | inventory inventory =>
      exact ⟨hwork, h.orderly, h.exclusive, h.base, h.idle,
        fun hf i t ht htp => (h.busy hf i t ht htp).congr rfl, h.choices⟩
  | task i t te _ ht m =>
      obtain ⟨u, hu, hrequest⟩ := m.moved ht
      refine ⟨hwork, ?_, h.exclusive_after hsafe ht m hu, h.base_after ht m hu,
        h.idle_after ht m hu hrequest, h.busy_after hsafe ht m hu hrequest,
        h.choices_after ht m hu hrequest⟩
      intro j v hv
      rcases m.tasks_inv hu hv with ⟨rfl, rfl⟩ | ⟨-, hv'⟩
      · exact m.orderly ht hu (h.orderly i t ht)
      · exact h.orderly j v hv'

/-- The sets and clears of a run are about different plugins. -/
def DistinctPlugins (cfg : RuntimeCfg) (s : Runtime) : Prop :=
  ∀ (i j : Nat) (t u : Task) (c d : Change), s.tasks[i]? = some t → s.tasks[j]? = some u →
    t.request.change cfg = .ok (some c) → u.request.change cfg = .ok (some d) →
    c.pluginId = d.pluginId → i = j

/-- **NO CHOICE IS LOST**: in every run in which the windows of changes do not
    overlap, when all changes have answered `ok` and were about different
    plugins, memory and disk hold the same choices: every one that was set, none
    that was cleared, and the old ones of the other plugins. -/
theorem choices_kept {cfg : RuntimeCfg} {s₀ s : Runtime} (htasks : s₀.tasks = [])
    (hload : s₀.load cfg = .ok s₀.deploymentState) (h : Reaches (step cfg) ChoiceSafe s₀ s)
    (hok : ∀ t ∈ s.tasks, t.request.isChange = true →
      ∃ response, t.phase = .done response ∧ response.ok = true)
    (hdistinct : DistinctPlugins cfg s) :
    s.load cfg = .ok s.deploymentState ∧
    (∀ t ∈ s.tasks, ∀ c, t.request.change cfg = .ok (some c) →
      s.deploymentState.plugins.lookup c.pluginId = c.deployment) ∧
    ∀ id, (∀ t ∈ s.tasks, ∀ c, t.request.change cfg = .ok (some c) → c.pluginId ≠ id) →
      s.deploymentState.plugins.lookup id = s₀.deploymentState.plugins.lookup id := by
  have hinv : ChoiceInv cfg s₀ s := by
    refine h.invariant (P := ChoiceInv cfg s₀) (ChoiceInv.init htasks hload) ?_
    intro s e s' hinv hsafe hs
    exact hinv.preserved hsafe hs
  have hfine : Fine s := by
    intro t ht
    simp only [Task.lost]
    cases hchange : t.request.isChange with
    | false => rfl
    | true =>
        obtain ⟨response, hdone, hresponse⟩ := hok t ht hchange
        show t.phase.lost = false
        rw [hdone, Phase.lost, hresponse]
        rfl
  refine ⟨hinv.idle hfine ?_, ?_, ?_⟩
  · intro t ht
    cases htp : t.phase.changing with
    | false => rfl
    | true =>
        obtain ⟨i, hi⟩ := List.getElem?_of_mem ht
        obtain ⟨c, previous, next, hx⟩ := Phase.changing_inv htp
        have hchange := MgmtRequest.isChange_of_change (hinv.work.work i t _ hi hx).1
        obtain ⟨response, hdone, -⟩ := hok t ht hchange
        rw [hdone] at htp
        exact nomatch htp
  · intro t ht c hc
    obtain ⟨response, hdone, -⟩ := hok t ht (MgmtRequest.isChange_of_change hc)
    rcases hinv.choices hfine c.pluginId with ⟨d, ⟨u, hu, -, hd⟩, hid, hlookup⟩ | ⟨hnone, -⟩
    · -- the change made for this plugin is this one
      obtain ⟨i, hi⟩ := List.getElem?_of_mem ht
      obtain ⟨j, hj⟩ := List.getElem?_of_mem hu
      cases hdistinct i j t u c d hi hj hc hd hid.symm
      cases hi.symm.trans hj
      cases hc.symm.trans hd
      exact hlookup
    · exact absurd rfl (hnone c ⟨t, ht, ⟨response, hdone⟩, hc⟩)
  · intro id hother
    rcases hinv.choices hfine id with ⟨d, ⟨u, hu, -, hd⟩, hid, -⟩ | ⟨-, hkept⟩
    · exact absurd hid (hother u hu d hd)
    · exact hkept

/-! ## Two changes, one after the other and side by side -/

instance (s : Runtime) (e : Event) : Decidable (ChoiceSafe s e) :=
  match e with
  | .task i .ok => inferInstanceAs (Decidable (∀ t ∈ s.tasks[i]?, t.phase.isQueued = true →
      t.request.isChange = true → ∀ u ∈ s.tasks, u.phase.changing = false))
  | .task _ (.fail _) | .task _ (.failLeaving _ _) | .task _ (.reloaded _)
  | .task _ (.reloadFailed _ _) | .task _ (.reconciled _) | .task _ .drop | .request _
  | .takeCore | .inventory _ => inferInstanceAs (Decidable True)

/-- The requests of the sample runs. -/
def twoSets : List Event :=
  [.request (.pluginDeploymentSet (abiParams "echo")),
    .request (.pluginDeploymentSet (abiParams "clock"))]

/-- From the read of the generation to the response. -/
def finishedBy (i : Nat) : List Event :=
  swappedBy i ++ [.task i .ok, .task i (.reconciled []), .task i .ok]

def sequentialRuntime : Runtime :=
  (run (step sampleCfg) ChoiceSafe sampleRuntime
    (twoSets ++ savedBy 0 ++ finishedBy 0 ++ savedBy 1 ++ finishedBy 1)).getD sampleRuntime

/-- The plugin a request is about. -/
def Task.pluginId (cfg : RuntimeCfg) (t : Task) : Option String :=
  match t.request.change cfg with
  | .ok (some c) => some c.pluginId
  | _ => none

theorem distinctPlugins_of_nodup {cfg : RuntimeCfg} {s : Runtime}
    (h : (s.tasks.filterMap (Task.pluginId cfg)).Nodup) : DistinctPlugins cfg s := by
  intro i j t u c d ht hu hc hd hid
  refine filterMap_inj h ht hu (x := c.pluginId) ?_ ?_
  · simp only [Task.pluginId]
    rw [hc]
  · simp only [Task.pluginId]
    rw [hd, hid]

theorem choices_kept_sample :
    Reaches (step sampleCfg) ChoiceSafe sampleRuntime sequentialRuntime ∧
      sequentialRuntime.tasks.length = 2 ∧
      sequentialRuntime.load sampleCfg = .ok sequentialRuntime.deploymentState ∧
      ∀ t ∈ sequentialRuntime.tasks, ∀ c, t.request.change sampleCfg = .ok (some c) →
        sequentialRuntime.deploymentState.plugins.lookup c.pluginId = c.deployment := by
  have hrun : Reaches (step sampleCfg) ChoiceSafe sampleRuntime sequentialRuntime :=
    reaches_getD (by decide)
  have hover : ∀ t ∈ sequentialRuntime.tasks, t.phase.isOver = true ∧ t.phase.lost = false := by
    decide
  have hok : ∀ t ∈ sequentialRuntime.tasks, t.request.isChange = true →
      ∃ response, t.phase = .done response ∧ response.ok = true := by
    intro t ht _
    obtain ⟨hend, hgood⟩ := hover t ht
    cases hp : t.phase with
    | done response =>
        rw [hp] at hgood
        exact ⟨response, rfl, by simpa [Phase.lost] using hgood⟩
    | dropped =>
        rw [hp] at hgood
        exact nomatch hgood
    | queued | scanning | saving | readGeneration | bootstrapping | readLock | writingLock
    | reloading | replacing | reconciling | committing =>
        rw [hp] at hend
        exact nomatch hend
  have hdistinct : DistinctPlugins sampleCfg sequentialRuntime :=
    distinctPlugins_of_nodup (by decide)
  obtain ⟨hload, hset, -⟩ := choices_kept rfl rfl hrun hok hdistinct
  exact ⟨hrun, by decide, hload, hset⟩

/-- Both changes are at work when the first one ends. -/
def sideBySideRuntime : Runtime :=
  (run (step sampleCfg) Free sampleRuntime
    (twoSets ++ savedBy 0 ++ savedBy 1 ++ finishedBy 0 ++ finishedBy 1)).getD sampleRuntime

/-- **A LOST CHOICE**: both changes answer `ok`, and neither memory nor the disk
    has the choice of the first one. -/
theorem overlapping_change_loses_choice :
    Reaches (step sampleCfg) Free sampleRuntime sideBySideRuntime ∧
      sampleRuntime.load sampleCfg = .ok sampleRuntime.deploymentState ∧
      (∀ t ∈ sideBySideRuntime.tasks, t.phase.isOver = true ∧ t.phase.lost = false) ∧
      DistinctPlugins sampleCfg sideBySideRuntime ∧
      (sideBySideRuntime.tasks[0]?.map fun t => t.request.change sampleCfg) =
        some (.ok (some abiEcho)) ∧
      sideBySideRuntime.deploymentState.plugins.lookup "echo" = none ∧
      sideBySideRuntime.load sampleCfg = .ok (PluginDeploymentState.default.change abiClock) ∧
      (PluginDeploymentState.default.change abiClock).plugins.lookup "echo" = none :=
  ⟨reaches_getD (by decide), rfl, by decide, distinctPlugins_of_nodup (by decide), rfl, by decide,
    by rfl, by decide⟩

end ServiceDeployment
