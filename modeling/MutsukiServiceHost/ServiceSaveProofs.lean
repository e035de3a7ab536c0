import MutsukiServiceHost.ServiceDeploymentProofs

/-! # Saving the choices — the files of `save_deployment_state`

    `save_deployment_state` writes the new text beside the old file, removes the
    old file and renames the new one over it.  The file lists these steps, says
    what `load_deployment_state` finds when the process stops between two of
    them, and then follows the two files through a whole management request. -/

namespace ServiceDeployment

open ServiceControl ServiceCatalog ListUpdate

/-! ## The process stops -/

/-- The two files of `save_deployment_state`. -/
structure StateDisk where
  stateFile : Option Content
  pendingFile : Option Content
  deriving DecidableEq, Repr

/-- A file-system step of `save_deployment_state`. -/
inductive FileStep where
  | createDir
  | writePending (bytes : Content)
  /-- the file is removed if it is there -/
  | removeOld
  | rename

/-- What a step leaves on the disk. -/
def FileStep.apply : FileStep → StateDisk → StateDisk
  | .createDir, d => d
  | .writePending bytes, d => { d with pendingFile := some bytes }
  | .removeOld, d => { d with stateFile := none }
  | .rename, d =>
      match d.pendingFile with
      | some bytes => ⟨some bytes, none⟩
      | none => d

/-- The file-system steps of `save_deployment_state`: all of them, or the first
    one when the state does not serialize. -/
def saveDeploymentState (cfg : CatalogCfg) (state : PluginDeploymentState) : List FileStep :=
  match cfg.format.write state with
  | .ok bytes => [.createDir, .writePending bytes, .removeOld, .rename]
  | .error _ => [.createDir]

/-- The disk when the process stops after `k` of the steps. -/
def stopped (cfg : CatalogCfg) (d : StateDisk) (state : PluginDeploymentState) (k : Nat) :
    StateDisk :=
  ((saveDeploymentState cfg state).take k).foldl (fun d step => step.apply d) d

/-- `load_deployment_state` on a disk. -/
def StateDisk.load (d : StateDisk) (cfg : CatalogCfg) :
    Except ServiceRuntimeError PluginDeploymentState :=
  cfg.loadDeploymentState d.stateFile

section Stops

variable {cfg : CatalogCfg} {d : StateDisk} {state : PluginDeploymentState} {bytes : Content}

theorem stopped_zero : stopped cfg d state 0 = d := rfl

theorem stopped_one : stopped cfg d state 1 = d := by
  simp only [stopped, saveDeploymentState]
  split <;> rfl

theorem stopped_two (hw : cfg.format.write state = .ok bytes) :
    stopped cfg d state 2 = ⟨d.stateFile, some bytes⟩ := by
  simp only [stopped, saveDeploymentState]
  rw [hw]
  rfl

theorem stopped_three (hw : cfg.format.write state = .ok bytes) :
    stopped cfg d state 3 = ⟨none, some bytes⟩ := by
  simp only [stopped, saveDeploymentState]
  rw [hw]
  rfl

theorem stopped_end (hw : cfg.format.write state = .ok bytes) (k : Nat) :
    stopped cfg d state (k + 4) = ⟨some bytes, none⟩ := by
  simp only [stopped, saveDeploymentState]
  rw [hw, List.take_of_length_le (Nat.le_add_left 4 k)]
  rfl

theorem stopped_unwritten {detail : String} (hw : cfg.format.write state = .error detail)
    (k : Nat) : stopped cfg d state k = d := by
  simp only [stopped, saveDeploymentState]
  rw [hw]
  cases k with
  | zero => rfl
  | succ k =>
      rw [List.take_of_length_le (Nat.le_add_left 1 k)]
      rfl

end Stops

/-- Only the saved state is loaded from its text. -/
theorem load_some_inv {cfg : CatalogCfg} {state other : PluginDeploymentState} {bytes : Content}
    (hw : cfg.format.write state = .ok bytes)
    (h : cfg.loadDeploymentState (some bytes) = .ok other) : other = state := by
  unfold CatalogCfg.loadDeploymentState at h
  dsimp only at h
  rw [cfg.format.read_write state bytes hw] at h
  dsimp only at h
  split at h
  · exact (Except.ok.inj h).symm
  · exact nomatch h

/-- **WHERE A SAVE MAY STOP**: the old or the new choices are loaded exactly
    when the process does not stop between the removal and the rename, or one
    of the two is no choices at all; and when the saved state, if the save got
    to its end, has the version that is loaded. -/
theorem stopped_save_loads {cfg : CatalogCfg} {d : StateDisk} {s₀ : PluginDeploymentState}
    (hold : d.load cfg = .ok s₀) (s₁ : PluginDeploymentState) (k : Nat) :
    ((stopped cfg d s₁ k).load cfg = .ok s₀ ∨ (stopped cfg d s₁ k).load cfg = .ok s₁) ↔
      ((cfg.format.write s₁).isOk = true →
        (k = 3 → s₀ = .default ∨ s₁ = .default) ∧
        (4 ≤ k → s₁.version = deploymentStateVersion)) := by
  cases hw : cfg.format.write s₁ with
  | error detail =>
      rw [stopped_unwritten hw k]
      constructor
      · intro _ hbad
        exact nomatch hbad
      · intro _
        exact .inl hold
  | ok bytes =>
      match k with
      | 0 => exact ⟨fun _ _ => ⟨nofun, fun h => absurd h (by omega)⟩, fun _ => .inl hold⟩
      | 1 =>
          rw [stopped_one]
          exact ⟨fun _ _ => ⟨nofun, fun h => absurd h (by omega)⟩, fun _ => .inl hold⟩
      | 2 =>
          rw [stopped_two hw]
          exact ⟨fun _ _ => ⟨nofun, fun h => absurd h (by omega)⟩, fun _ => .inl hold⟩
      | 3 =>
          -- the old file is gone: no choices are loaded
          rw [stopped_three hw]
          constructor
          · rintro h _
            refine ⟨fun _ => ?_, fun h4 => absurd h4 (by omega)⟩
            exact h.imp (fun h => (Except.ok.inj h).symm) (fun h => (Except.ok.inj h).symm)
          · intro h
            exact ((h rfl).1 rfl).imp (congrArg Except.ok ·.symm) (congrArg Except.ok ·.symm)
      | k + 4 =>
          rw [stopped_end hw k]
          constructor
          · intro h _
            refine ⟨fun h3 => absurd h3 (by omega), fun _ => ?_⟩
            rcases h with h | h
            · rw [← load_some_inv hw h]
              exact CatalogCfg.load_version h
            · exact CatalogCfg.load_version h
          · intro h
            exact .inr (CatalogCfg.load_saved hw ((h rfl).2 (by omega)))

/-- The choice of the ABI artifact of `echo` is replaced by that of `clock`. -/
def stoppedSample (k : Nat) : StateDisk :=
  stopped sampleCatalogCfg
    ⟨(sampleCatalogCfg.format.write (PluginDeploymentState.default.change abiEcho)).toOption, none⟩
    (PluginDeploymentState.default.change abiClock) k

theorem stopped_save_loads_sample :
    (stoppedSample 2).load sampleCatalogCfg = .ok (PluginDeploymentState.default.change abiEcho) ∨
      (stoppedSample 2).load sampleCatalogCfg =
        .ok (PluginDeploymentState.default.change abiClock) :=
  (stopped_save_loads (d := ⟨(sampleCatalogCfg.format.write
    (PluginDeploymentState.default.change abiEcho)).toOption, none⟩) (by rfl)
    (PluginDeploymentState.default.change abiClock) 2).mpr fun _ => ⟨nofun, by decide⟩

/-- **THE WINDOW**: behind the removal of the old file and before the rename,
    both choices are lost. -/
theorem stop_before_rename_loses_choices :
    (stoppedSample 0).load sampleCatalogCfg = .ok (PluginDeploymentState.default.change abiEcho) ∧
      (stoppedSample 3).load sampleCatalogCfg = .ok .default ∧
      PluginDeploymentState.default ≠ PluginDeploymentState.default.change abiEcho ∧
      PluginDeploymentState.default ≠ PluginDeploymentState.default.change abiClock :=
  ⟨by rfl, by rfl, by decide, by decide⟩

/-! ## The files during a request -/

/-- The two files of the host. -/
def Runtime.disk (s : Runtime) : StateDisk := ⟨s.stateFile, s.pendingFile⟩

/-- How many file-system steps are behind this point of `save_deployment_state`. -/
def SaveStep.stops : SaveStep → Nat
  | .createDir => 0
  | .serialize | .writePending _ => 1
  | .removeOld => 2
  | .rename => 3

/-- The bytes that are or were to be written are those of the state. -/
def SaveStep.Ready (cfg : RuntimeCfg) (state : PluginDeploymentState) : SaveStep → Prop
  | .createDir | .serialize => True
  | .writePending bytes => cfg.catalog.format.write state = .ok bytes
  | .removeOld | .rename => ∃ bytes, cfg.catalog.format.write state = .ok bytes

/-- The save of `state` over a disk that loaded `old` has got to `at_`. -/
def SavingAt (cfg : RuntimeCfg) (s : Runtime)
    (old : Except ServiceRuntimeError PluginDeploymentState) (state : PluginDeploymentState)
    (at_ : SaveStep) : Prop :=
  at_.Ready cfg state ∧
    ∃ d : StateDisk, d.load cfg.catalog = old ∧ s.disk = stopped cfg.catalog d state at_.stops

/-- What is on the disk once the save, if there is one, is behind a request. -/
def settled (old : Except ServiceRuntimeError PluginDeploymentState) (w : Work) :
    Except ServiceRuntimeError PluginDeploymentState :=
  match w.change with
  | none => old
  | some _ => .ok w.next

/-- The disk while a request is at work that found `old` on it. -/
def DiskAt (cfg : RuntimeCfg) (old : Except ServiceRuntimeError PluginDeploymentState)
    (s : Runtime) : Phase → Prop
  | .queued | .scanning _ _ _ => s.load cfg = old
  | .saving w none at_ => w.change ≠ none ∧ SavingAt cfg s old w.next at_
  | .saving w (some _) at_ => SavingAt cfg s (.ok w.next) w.previous at_
  | .readGeneration w | .committing w _ => s.load cfg = settled old w
  | .bootstrapping r | .readLock r | .writingLock r _ _ | .reloading r _ | .replacing r _
  | .reconciling r _ => s.load cfg = settled old r.work
  | .done _ | .dropped _ => True

/-- The request is inside `save_deployment_state`. -/
def Phase.isSaving : Phase → Bool
  | .saving _ _ _ => true
  | _ => false

section Files

variable {cfg : RuntimeCfg} {s s' : Runtime} {i : Nat} {t u : Task} {e : TaskEvent}
variable {old : Except ServiceRuntimeError PluginDeploymentState}

theorem load_of_disk (h : s'.disk = s.disk) : s'.load cfg = s.load cfg :=
  congrArg (StateDisk.load · cfg.catalog) h

theorem DiskAt.congr {p : Phase} (h : DiskAt cfg old s p) (hdisk : s'.disk = s.disk) :
    DiskAt cfg old s' p := by
  have hload : s'.load cfg = s.load cfg := load_of_disk hdisk
  cases p with
  | saving w restoring at_ =>
      cases restoring with
      | none =>
          obtain ⟨hchange, hready, d, hd, hs⟩ := h
          exact ⟨hchange, hready, d, hd, hdisk.trans hs⟩
      | some response =>
          obtain ⟨hready, d, hd, hs⟩ := h
          exact ⟨hready, d, hd, hdisk.trans hs⟩
  | queued | scanning | readGeneration | committing | bootstrapping | readLock | writingLock
  | reloading | replacing | reconciling => exact hload.trans h
  | done | dropped => trivial

/-- Only a save touches the files. -/
theorem TaskMove.disk (m : TaskMove cfg s i t e s') (hp : t.phase.isSaving = false) :
    s'.disk = s.disk := by
  cases m with
  | writePending _ _ _ h | leavePending _ _ _ _ _ _ h | removeOld _ _ h | rename _ _ _ h =>
      rw [h] at hp
      exact nomatch hp
  | quiet | quietFail | writeLock | leaveLock | install | reloadFail | restoreFail | replace
  | commit => rfl

theorem SavingAt.load_before {state : PluginDeploymentState} {at_ : SaveStep}
    (h : SavingAt cfg s old state at_) (hlt : at_.stops < 3) : s.load cfg = old := by
  obtain ⟨hready, d, hd, hs⟩ := h
  show s.disk.load cfg.catalog = old
  rw [hs, ← hd]
  cases at_ with
  | createDir => rfl
  | serialize | writePending => exact congrArg (StateDisk.load · cfg.catalog) stopped_one
  | removeOld =>
      obtain ⟨bytes, hw⟩ := hready
      rw [SaveStep.stops, stopped_two hw]
      rfl
  | rename => exact absurd hlt (by decide)

/-- Before the rename there is no state file. -/
theorem SavingAt.load_rename {state : PluginDeploymentState}
    (h : SavingAt cfg s old state .rename) : s.load cfg = .ok .default := by
  obtain ⟨⟨bytes, hw⟩, d, -, hs⟩ := h
  show s.disk.load cfg.catalog = .ok .default
  rw [hs]
  exact congrArg (StateDisk.load · cfg.catalog) (stopped_three hw)

/-- The rename finds the bytes of the state. -/
theorem SavingAt.pending {state : PluginDeploymentState} {bytes : Content}
    (h : SavingAt cfg s old state .rename) (hb : s.pendingFile = some bytes) :
    cfg.catalog.format.write state = .ok bytes := by
  obtain ⟨⟨bytes', hw⟩, d, -, hs⟩ := h
  rw [SaveStep.stops, stopped_three hw] at hs
  have hp : s.pendingFile = some bytes' := congrArg StateDisk.pendingFile hs
  rw [hb] at hp
  cases hp
  exact hw

/-- A save goes on over the same old disk. -/
theorem DiskAt.saving {w : Work} {restoring : Option ControlResponse} {at_ : SaveStep}
    (h : DiskAt cfg old s (.saving w restoring at_)) :
    ∃ old', SavingAt cfg s old' (saveTarget w restoring) at_ ∧
      ∀ (s' : Runtime) (at' : SaveStep), SavingAt cfg s' old' (saveTarget w restoring) at' →
        DiskAt cfg old s' (.saving w restoring at') := by
  cases restoring with
  | none => exact ⟨old, h.2, fun _ _ h' => ⟨h.1, h'⟩⟩
  | some response => exact ⟨.ok w.next, h, fun _ _ h' => h'⟩

theorem DiskAt.afterFailedReload {w : Work} (response : ControlResponse)
    (h : s.load cfg = settled old w) : DiskAt cfg old s (afterFailedReload w response) := by
  refine afterFailedReload_cases (P := DiskAt cfg old s) (fun _ => trivial) ?_
  intro hc
  obtain ⟨change, hchange⟩ := Option.ne_none_iff_exists'.mp hc
  rw [settled, hchange] at h
  exact ⟨trivial, s.disk, h, rfl⟩

theorem DiskAt.afterReload {w : Work} (response : ControlResponse)
    (h : s.load cfg = settled old w) : DiskAt cfg old s (afterReload w response) :=
  afterReload_cases (P := DiskAt cfg old s) (fun _ => trivial) (fun _ => h)

theorem DiskAt.afterFailedSave (error : ServiceRuntimeError)
    (restoring : Option ControlResponse) : DiskAt cfg old s (afterFailedSave error restoring) :=
  afterFailedSave_cases (P := DiskAt cfg old s) (fun _ => trivial)

theorem DiskAt.afterScan {w : Work} (h : s.load cfg = old) :
    DiskAt cfg old s (afterScan w) := by
  refine afterScan_cases (P := DiskAt cfg old s) ?_ (fun hc => ⟨hc, trivial, s.disk, h, rfl⟩)
  intro hc
  show s.load cfg = settled old w
  rw [settled, hc]
  exact h

theorem DiskAt.begin {request : MgmtRequest} (h : s.load cfg = old) :
    DiskAt cfg old s (begin cfg s request) :=
  begin_cases (P := DiskAt cfg old s) (fun _ => trivial) (fun _ _ => h)

/-- A step that writes nothing. -/
theorem QuietStep.diskAt {p : Phase} (q : QuietStep cfg s t e p) (h : DiskAt cfg old s t.phase) :
    DiskAt cfg old s p := by
  cases q with
  | begin hp =>
      rw [hp] at h
      exact DiskAt.begin h
  | dropQueued | dropBootstrap | dropReconcile => trivial
  | resolved change previous next catalog hp =>
      rw [hp] at h
      exact DiskAt.afterScan h
  | saveDir w restoring hp =>
      rw [hp] at h
      obtain ⟨old', ⟨-, d, hd, hs⟩, hnext⟩ := h.saving
      refine hnext s .serialize ⟨trivial, d, hd, ?_⟩
      rw [hs, SaveStep.stops, SaveStep.stops, stopped_one, stopped_zero]
  | saveSerialize w restoring bytes hp hw =>
      rw [hp] at h
      obtain ⟨old', ⟨-, d, hd, hs⟩, hnext⟩ := h.saving
      exact hnext s (.writePending bytes) ⟨hw, d, hd, hs⟩
  | generation _ _ hp | bootstrapped _ hp | lockRead _ hp | lockDir _ _ hp
  | lockSerialize _ _ _ hp =>
      rw [hp] at h
      exact h
  | reconciled r changes errors hp =>
      rw [hp] at h
      exact DiskAt.afterReload _ h

/-- A step that fails and writes nothing. -/
theorem QuietFail.diskAt {fault : Fault} {p : Phase} (q : QuietFail cfg s i t e fault p)
    (h : DiskAt cfg old s t.phase) : DiskAt cfg old s p := by
  cases q with
  | scan | resolve => trivial
  | save _ w restoring at_ error => exact DiskAt.afterFailedSave error restoring
  | coreGone _ hp | bootstrap _ _ hp | lock _ _ _ _ _ _ hp | coreGoneLate _ _ hp =>
      rw [hp] at h
      exact DiskAt.afterFailedReload _ h
  | lockRead r detail hp =>
      rw [hp] at h
      exact h

/-- **THE FILES FOLLOW THE REQUEST**: what is on the disk at a point of a request
    is what the request has done of its save, or of the restoring. -/
theorem TaskMove.diskAt (m : TaskMove cfg s i t e s') (ht : s.tasks[i]? = some t)
    (hu : s'.tasks[i]? = some u)
    (hversion : ∀ x, t.phase.inWork = some x → x.2.2.version = deploymentStateVersion)
    (h : DiskAt cfg old s t.phase) : DiskAt cfg old s' u.phase := by
  cases m with
  | quiet _ p q =>
      rw [getElem?_setPhase ht] at hu
      cases hu
      exact (q.diskAt h).congr rfl
  | quietFail _ fault p q =>
      rw [getElem?_setFailed ht] at hu
      cases hu
      exact (q.diskAt h).congr rfl
  | writePending w restoring bytes hp =>
      cases (getElem?_modify_self ht).symm.trans hu
      rw [hp] at h
      obtain ⟨old', ⟨hw, d, hd, hs⟩, hnext⟩ := h.saving
      refine hnext _ .removeOld ⟨⟨bytes, hw⟩, d, hd, ?_⟩
      rw [SaveStep.stops, stopped_one] at hs
      rw [SaveStep.stops, stopped_two hw, ← hs]
      rfl
  | leavePending w restoring bytes detail left error =>
      cases (getElem?_modify_self ht).symm.trans hu
      exact DiskAt.afterFailedSave error restoring
  | removeOld w restoring hp =>
      cases (getElem?_modify_self ht).symm.trans hu
      rw [hp] at h
      obtain ⟨old', ⟨⟨bytes, hw⟩, d, hd, hs⟩, hnext⟩ := h.saving
      refine hnext _ .rename ⟨⟨bytes, hw⟩, d, hd, ?_⟩
      rw [SaveStep.stops, stopped_two hw] at hs
      rw [SaveStep.stops, stopped_three hw]
      exact congrArg (StateDisk.mk none) (congrArg StateDisk.pendingFile hs)
  | rename w restoring bytes hp hb =>
      cases (getElem?_modify_self ht).symm.trans hu
      rw [hp] at h
      cases restoring with
      | none =>
          obtain ⟨hchange, hsave⟩ := h
          show cfg.catalog.loadDeploymentState (some bytes) = settled old w
          have hv : w.next.version = deploymentStateVersion :=
            hversion (w.change, w.previous, w.next) (by rw [hp]; rfl)
          cases hc : w.change with
          | none => exact absurd hc hchange
          | some c =>
              rw [settled, hc]
              exact CatalogCfg.load_saved (hsave.pending hb) hv
      | some response => trivial
  | writeLock _ _ _ hp | install _ _ _ _ hp | replace _ _ hp =>
      cases (getElem?_modify_self ht).symm.trans hu
      rw [hp] at h
      exact h
  | leaveLock _ _ _ _ _ _ hp | reloadFail _ _ _ _ hp | restoreFail _ _ _ _ _ _ hp =>
      cases (getElem?_modify_self ht).symm.trans hu
      rw [hp] at h
      have hload : s.load cfg = settled old _ := h
      exact (DiskAt.afterFailedReload _ hload).congr rfl
  | commit =>
      cases (getElem?_modify_self ht).symm.trans hu
      trivial

end Files

/-! ## What a request works on -/

/-- The choices in memory have the current version, and a request at work makes
    its own change to choices of the current version. -/
structure WorkInv (cfg : RuntimeCfg) (s : Runtime) : Prop where
  version : s.deploymentState.version = deploymentStateVersion
  work : ∀ (i : Nat) (t : Task) (x : Option Change × PluginDeploymentState × PluginDeploymentState),
    s.tasks[i]? = some t → t.phase.inWork = some x →
    t.request.change cfg = .ok x.1 ∧ x.2.1.version = deploymentStateVersion ∧
      x.2.2 = applyChange x.2.1 x.1

theorem WorkInv.next_version {cfg : RuntimeCfg} {s : Runtime} (h : WorkInv cfg s) {i : Nat}
    {t : Task} (ht : s.tasks[i]? = some t)
    (x : Option Change × PluginDeploymentState × PluginDeploymentState)
    (hx : t.phase.inWork = some x) : x.2.2.version = deploymentStateVersion := by
  obtain ⟨-, hversion, hnext⟩ := h.work i t x ht hx
  rw [hnext, version_applyChange]
  exact hversion

/-- Only a commit touches the choices in memory. -/
theorem TaskMove.memory {cfg : RuntimeCfg} {s s' : Runtime} {i : Nat} {t : Task} {e : TaskEvent}
    (m : TaskMove cfg s i t e s') : s'.deploymentState = s.deploymentState ∨
      ∃ w response, t.phase = .committing w response ∧
        s' = { s.setPhase i (.done response) with deploymentState := w.next } := by
  cases m with
  | commit w response hp => exact .inr ⟨w, response, hp, rfl⟩
  | quiet | quietFail | writePending | leavePending | removeOld | rename | writeLock | leaveLock
  | install | reloadFail | restoreFail | replace => exact .inl rfl

theorem WorkInv.preserved {cfg : RuntimeCfg} {s s' : Runtime} {e : Event} (h : WorkInv cfg s)
    (hs : step cfg s e = some s') : WorkInv cfg s' := by
  cases step_move hs with
  | request request =>
      refine ⟨h.version, ?_⟩
      intro i t x ht hx
      rcases getElem?_concat_inv ht with ht | ⟨-, rfl⟩
      · exact h.work i t x ht hx
      · exact nomatch hx
  | takeCore => exact ⟨h.version, h.work⟩
  | inventory inventory => exact ⟨h.version, h.work⟩
  | task i t te _ ht m =>
      refine ⟨?_, ?_⟩
      · rcases m.memory with hmem | ⟨w, response, hp, rfl⟩
        · rw [hmem]
          exact h.version
        · exact h.next_version ht (w.change, w.previous, w.next) (by rw [hp]; rfl)
      · intro j u x hu hx
        by_cases hij : i = j
        · subst hij
          obtain ⟨f, hf, hrequest⟩ := m.tasks
          have hu' : u = f t := by
            rw [hf, getElem?_modify_self ht] at hu
            exact (Option.some.inj hu).symm
          rcases m.inWork ht hu hx with hx | ⟨-, -, hbegin⟩
          · rw [hu', hrequest]
            exact h.work i t x ht hx
          · rw [hbegin] at hx
            obtain ⟨hchange, hprev, hnext⟩ := inWork_begin hx
            rw [hu', hrequest, hprev]
            exact ⟨hchange, h.version, hnext⟩
        · rw [m.other hij] at hu
          exact h.work j u x hu hx

theorem WorkInv.init {cfg : RuntimeCfg} {s : Runtime} (htasks : s.tasks = [])
    (hload : s.load cfg = .ok s.deploymentState) : WorkInv cfg s := by
  refine ⟨CatalogCfg.load_version hload, ?_⟩
  intro i t x ht
  rw [htasks] at ht
  exact nomatch ht

end ServiceDeployment
