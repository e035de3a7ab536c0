import MutsukiServiceHost.ServiceChoiceProofs
import MutsukiServiceHost.ServiceCoherenceProofs

/-! # Failed and cancelled management requests

    One request alone, from any state: what its choices, its catalog and its
    lock file are when a step fails, and when its future is dropped at an await.
    The rollback of the source saves the previous choices again and writes the
    old lock file back, but only on some of the paths; the file says after which
    failing step everything is as before, and after which it is not. -/

namespace ServiceDeployment

open ServiceControl ServiceCatalog ListUpdate Transition

/-- Only request `i` and the end of Core take steps. -/
def Solo (i : Nat) (_ : Runtime) : Event → Prop
  | .task j _ => j = i
  | .takeCore => True
  | .request _ | .inventory _ => False

/-- The state in which a request has arrived. -/
def Runtime.arrive (s : Runtime) (request : MgmtRequest) : Runtime :=
  { s with tasks := s.tasks ++ [⟨request, .queued, []⟩] }

/-! ## What a failing step leaves behind -/

/-- The lock that the request writes, if it gets that far. -/
def newLock (cfg : RuntimeCfg) (s : Runtime) (request : MgmtRequest) : Option Content := do
  let change ← (request.change cfg).toOption
  let next := applyChange s.deploymentState change
  let catalog ← (cfg.catalog.resolveCatalog s.inventory next).toOption
  let host ← s.host
  (cfg.writeLock
    (Reload.lock cfg ⟨⟨change, s.deploymentState, next, catalog⟩, host.generation⟩)).toOption

/-- The lock file after a failing step. -/
def lockAfter (cfg : RuntimeCfg) (s : Runtime) (request : MgmtRequest) : Fault → Option Content
  | .lockWrite left => left
  | .coreGoneLate => newLock cfg s request
  | _ => s.lockFile

/-- The steps of `reload_catalog` whose failing is its answer. -/
def Fault.inReload : Fault → Bool
  | .coreGone | .bootstrap | .lockDir | .lockSerialize | .lockWrite _ | .coreGoneLate
  | .reload => true
  | _ => false

/-- What is loaded from the disk after a failing step. -/
def loadAfter (cfg : RuntimeCfg) (s : Runtime) (request : MgmtRequest) (fault : Fault) :
    Except ServiceRuntimeError PluginDeploymentState :=
  if fault.inReload then
    match request.change cfg with
    | .ok (some _) => .ok s.deploymentState
    | _ => s.load cfg
  else if fault = .saveRename then .ok .default
  else s.load cfg

/-! ## A request alone -/

section Alone

variable (cfg : RuntimeCfg) (s₀ : Runtime) (request : MgmtRequest)

/-- Choices, catalog and lock file are as before, and Core is or is gone. -/
structure Untouched (s : Runtime) : Prop where
  memory : s.deploymentState = s₀.deploymentState
  catalog : s.catalog = s₀.catalog
  lockFile : s.lockFile = s₀.lockFile
  host : ∀ h ∈ s.host, s₀.host = some h

/-- The work of the request. -/
structure WorkFor (w : Work) : Prop where
  change : request.change cfg = .ok w.change
  previous : w.previous = s₀.deploymentState
  next : w.next = applyChange s₀.deploymentState w.change
  catalog : cfg.catalog.resolveCatalog s₀.inventory w.next = .ok w.catalog

/-- The reload of the request. -/
structure ReloadFor (r : Reload) : Prop where
  work : WorkFor cfg s₀ request r.work
  generation : ∃ h, s₀.host = some h ∧ r.previousGeneration = h.generation

/-- The lock file was read, or its reading has failed. -/
def LockRead (faults : List Fault) (saved : SavedLock) : Prop :=
  (faults = [] ∧ saved.bytes = s₀.lockFile) ∨ faults = [.lockRead]

/-- What the request that ends with an error leaves behind. -/
def Outcome (s : Runtime) (faults : List Fault) : Prop :=
  s.deploymentState = s₀.deploymentState ∧ s.catalog = s₀.catalog ∧
    (faults = [] → s.load cfg = s₀.load cfg ∧ s.lockFile = s₀.lockFile) ∧
    ∀ fault, faults = [fault] → s.load cfg = loadAfter cfg s₀ request fault ∧
      s.lockFile = lockAfter cfg s₀ request fault

/-- How far the request has got. -/
def SoloAt (s : Runtime) (faults : List Fault) : Phase → Prop
  | .queued => Untouched s₀ s ∧ faults = []
  | .scanning change previous next => Untouched s₀ s ∧ faults = [] ∧
      request.change cfg = .ok change ∧ previous = s₀.deploymentState ∧
      next = applyChange s₀.deploymentState change
  | .saving w none _ | .readGeneration w =>
      Untouched s₀ s ∧ faults = [] ∧ WorkFor cfg s₀ request w
  | .bootstrapping r | .readLock r => Untouched s₀ s ∧ faults = [] ∧ ReloadFor cfg s₀ request r
  | .writingLock r saved at_ => Untouched s₀ s ∧ LockRead s₀ faults saved ∧
      ReloadFor cfg s₀ request r ∧ LockReady cfg r at_
  | .reloading r saved => s.deploymentState = s₀.deploymentState ∧ s.catalog = s₀.catalog ∧
      LockRead s₀ faults saved ∧ ReloadFor cfg s₀ request r ∧
      s.lockFile = newLock cfg s₀ request
  | .replacing r _ => s.deploymentState = s₀.deploymentState ∧ WorkFor cfg s₀ request r.work
  | .reconciling r _ => s.deploymentState = s₀.deploymentState ∧ s.catalog = r.work.catalog ∧
      WorkFor cfg s₀ request r.work
  | .committing w response => WorkFor cfg s₀ request w ∧ response.ok = true
  | .saving w (some response) _ => WorkFor cfg s₀ request w ∧ w.change ≠ none ∧
      response.ok = false ∧ s.deploymentState = s₀.deploymentState ∧ s.catalog = s₀.catalog ∧
      faults ≠ [] ∧ ∀ fault, faults = [fault] → fault.inReload = true ∧
        s.lockFile = lockAfter cfg s₀ request fault
  | .done response => response.ok = false → Outcome cfg s₀ request s faults
  | .dropped .mutateLock => Untouched s₀ s ∧ s.load cfg = s₀.load cfg
  | .dropped .bootstrap => s.deploymentState = s₀.deploymentState ∧ s.catalog = s₀.catalog ∧
      ∃ w, WorkFor cfg s₀ request w ∧ s.load cfg = settled (s₀.load cfg) w
  | .dropped .reconcile => s.deploymentState = s₀.deploymentState ∧
      ∃ w, WorkFor cfg s₀ request w ∧ s.catalog = w.catalog ∧
        s.load cfg = settled (s₀.load cfg) w

/-- The request is alone and has got to where its phase says. -/
structure Alone (s : Runtime) : Prop where
  inventory : s.inventory = s₀.inventory
  task : ∃ t, s.tasks[s₀.tasks.length]? = some t ∧ t.request = request ∧
    DiskAt cfg (s₀.load cfg) s t.phase ∧ SoloAt cfg s₀ request s t.faults t.phase

end Alone

section Steps

variable {cfg : RuntimeCfg} {s₀ s s' : Runtime} {request : MgmtRequest} {i : Nat} {t u : Task}
variable {e : TaskEvent}

/-- What the request makes of the choices has the version they have. -/
theorem SoloAt.next_version {faults : List Fault} {p : Phase}
    (hversion : s₀.deploymentState.version = deploymentStateVersion)
    (h : SoloAt cfg s₀ request s faults p)
    (x : Option Change × PluginDeploymentState × PluginDeploymentState)
    (hx : p.inWork = some x) : x.2.2.version = deploymentStateVersion := by
  have hwork : ∀ {w : Work}, WorkFor cfg s₀ request w →
      w.next.version = deploymentStateVersion := by
    intro w hw
    rw [hw.next, version_applyChange]
    exact hversion
  cases p with
  | scanning change previous next =>
      cases hx
      obtain ⟨-, -, -, -, hnext⟩ := h
      show next.version = _
      rw [hnext, version_applyChange]
      exact hversion
  | saving w restoring at_ =>
      cases hx
      cases restoring with
      | none => exact hwork h.2.2
      | some => exact hwork h.1
  | readGeneration w =>
      cases hx
      exact hwork h.2.2
  | bootstrapping r | readLock r =>
      cases hx
      exact hwork h.2.2.work
  | writingLock r saved at_ =>
      cases hx
      exact hwork h.2.2.1.work
  | reloading r saved =>
      cases hx
      exact hwork h.2.2.2.1.work
  | replacing r changes =>
      cases hx
      exact hwork h.2
  | reconciling r changes =>
      cases hx
      exact hwork h.2.2
  | committing w response =>
      cases hx
      exact hwork h.1
  | queued | done | dropped => exact nomatch hx

/-- The lock of the reload is the one the request writes. -/
theorem ReloadFor.newLock {r : Reload} {bytes : Content} (h : ReloadFor cfg s₀ request r)
    (hw : cfg.writeLock (r.lock cfg) = .ok bytes) : newLock cfg s₀ request = some bytes := by
  obtain ⟨⟨change, previous, next, catalog⟩, generation⟩ := r
  obtain ⟨⟨hchange, hprevious, hnext, hcatalog⟩, host, hhost, hgeneration⟩ := h
  dsimp only at hchange hprevious hnext hcatalog hgeneration
  subst hprevious hnext hgeneration
  simp only [ServiceDeployment.newLock]
  rw [hchange, hhost]
  show (do
    let catalog ← (cfg.catalog.resolveCatalog s₀.inventory
      (applyChange s₀.deploymentState change)).toOption
    _) = _
  rw [hcatalog]
  show (cfg.writeLock _).toOption = some bytes
  rw [hw]
  rfl

/-- Two states agree on what the request could have changed, but that Core may
    be gone. -/
structure SameView (s s' : Runtime) : Prop where
  memory : s'.deploymentState = s.deploymentState
  catalog : s'.catalog = s.catalog
  lockFile : s'.lockFile = s.lockFile
  stateFile : s'.stateFile = s.stateFile
  host : ∀ h ∈ s'.host, s.host = some h

theorem SameView.load (hsame : SameView s s') : s'.load cfg = s.load cfg :=
  congrArg cfg.catalog.loadDeploymentState hsame.stateFile

theorem Untouched.congr (h : Untouched s₀ s) (hsame : SameView s s') : Untouched s₀ s' :=
  ⟨hsame.memory.trans h.memory, hsame.catalog.trans h.catalog, hsame.lockFile.trans h.lockFile,
    fun host hh => h.host host (hsame.host host hh)⟩

theorem SoloAt.congr {faults : List Fault} {p : Phase} (h : SoloAt cfg s₀ request s faults p)
    (hsame : SameView s s') : SoloAt cfg s₀ request s' faults p := by
  have hload : s'.load cfg = s.load cfg := hsame.load
  cases p with
  | queued | scanning | readGeneration | bootstrapping | readLock | writingLock =>
      exact ⟨h.1.congr hsame, h.2⟩
  | saving w restoring at_ =>
      cases restoring with
      | none => exact ⟨h.1.congr hsame, h.2⟩
      | some response =>
          simp only [SoloAt, hsame.memory, hsame.catalog, hsame.lockFile] at h ⊢
          exact h
  | reloading | replacing | reconciling | done =>
      simp only [SoloAt, Outcome, hsame.memory, hsame.catalog, hsame.lockFile, hload] at h ⊢
      exact h
  | committing => exact h
  | dropped point =>
      cases point with
      | mutateLock => exact ⟨h.1.congr hsame, hload.trans h.2⟩
      | bootstrap | reconcile =>
          simp only [SoloAt, hsame.memory, hsame.catalog, hload] at h ⊢
          exact h

/-- The request ends early: nothing is written, or the rename has failed. -/
theorem SoloAt.failEarly {fault : Fault} {text : String} (h : Untouched s₀ s)
    (hload : s.load cfg = loadAfter cfg s₀ request fault)
    (hlock : lockAfter cfg s₀ request fault = s₀.lockFile) :
    SoloAt cfg s₀ request s [fault] (.done (failed text)) := by
  intro _
  refine ⟨h.memory, h.catalog, nofun, ?_⟩
  rintro _ ⟨⟩
  exact ⟨hload, h.lockFile.trans hlock.symm⟩

/-- `reload_catalog` fails: the request ends, or restores the choices first. -/
theorem SoloAt.failReload {w : Work} {faults : List Fault} {text : String}
    (hw : WorkFor cfg s₀ request w) (hmemory : s.deploymentState = s₀.deploymentState)
    (hcatalog : s.catalog = s₀.catalog) (hload : s.load cfg = settled (s₀.load cfg) w)
    (hne : faults ≠ [])
    (hone : ∀ fault, faults = [fault] → fault.inReload = true ∧
      s.lockFile = lockAfter cfg s₀ request fault) :
    SoloAt cfg s₀ request s faults (afterFailedReload w (failed text)) := by
  refine afterFailedReload_cases (P := SoloAt cfg s₀ request s faults) ?_
    (fun hc => ⟨hw, hc, rfl, hmemory, hcatalog, hne, hone⟩)
  · intro hc _
    refine ⟨hmemory, hcatalog, fun hnil => absurd hnil hne, ?_⟩
    intro fault hfault
    obtain ⟨hin, hlock⟩ := hone fault hfault
    refine ⟨?_, hlock⟩
    -- a reload has not touched the choices
    rw [loadAfter, if_pos hin, hw.change, hload, settled, hc]

theorem append_ne_singleton {faults : List Fault} {fault f : Fault} (h : faults ≠ []) :
    faults ++ [fault] ≠ [f] := by
  cases faults with
  | nil => exact absurd rfl h
  | cons a l =>
      intro heq
      have hlen := congrArg List.length heq
      simp at hlen

/-- One failing step before which at most the reading of the lock file failed. -/
theorem LockRead.one {saved : SavedLock} {faults : List Fault} {fault : Fault}
    {P : Fault → Prop} (h : LockRead s₀ faults saved)
    (hP : saved.bytes = s₀.lockFile → P fault) : ∀ f, faults ++ [fault] = [f] → P f := by
  intro f hf
  rcases h with ⟨rfl, hsaved⟩ | rfl
  · cases hf
    exact hP hsaved
  · exact nomatch hf

theorem SoloAt.begin (hload : s.load cfg = s₀.load cfg) (h : Untouched s₀ s) :
    SoloAt cfg s₀ request s [] (begin cfg s request) := by
  have hrejected : ∀ error : ControlError,
      SoloAt cfg s₀ request s [] (.done (.err error)) := by
    intro error _
    exact ⟨h.memory, h.catalog, fun _ => ⟨hload, h.lockFile⟩, nofun⟩
  refine begin_cases (P := SoloAt cfg s₀ request s []) (fun _ => hrejected _) ?_
  intro change hc
  exact ⟨h, rfl, hc, h.memory, by rw [h.memory]⟩

/-- A step that writes nothing. -/
theorem QuietStep.soloAt {p : Phase} (q : QuietStep cfg s t e p) (hrequest : t.request = request)
    (hinventory : s.inventory = s₀.inventory) (hdisk : DiskAt cfg (s₀.load cfg) s t.phase)
    (h : SoloAt cfg s₀ request s t.faults t.phase) : SoloAt cfg s₀ request s t.faults p := by
  cases q with
  | begin hp =>
      rw [hp] at h hdisk
      rw [h.2, hrequest]
      exact SoloAt.begin hdisk h.1
  | dropQueued hp =>
      rw [hp] at h hdisk
      exact ⟨h.1, hdisk⟩
  | resolved change previous next catalog hp hcatalog =>
      rw [hp] at h
      obtain ⟨hsame, hfaults, hchange, hprevious, hnext⟩ := h
      have hwork : WorkFor cfg s₀ request ⟨change, previous, next, catalog⟩ :=
        ⟨hchange, hprevious, hnext, hinventory ▸ hcatalog⟩
      exact afterScan_cases (P := SoloAt cfg s₀ request s t.faults)
        (fun _ => ⟨hsame, hfaults, hwork⟩) (fun _ => ⟨hsame, hfaults, hwork⟩)
  | saveDir w restoring hp | saveSerialize w restoring bytes hp =>
      rw [hp] at h
      cases restoring with
      | none => exact h
      | some response => exact h
  | generation w host hp hh =>
      rw [hp] at h
      obtain ⟨hsame, hfaults, hwork⟩ := h
      exact ⟨hsame, hfaults, hwork, host, hsame.host host hh, rfl⟩
  | bootstrapped r hp =>
      rw [hp] at h
      exact h
  | dropBootstrap r hp =>
      rw [hp] at h hdisk
      exact ⟨h.1.memory, h.1.catalog, r.work, h.2.2.work, hdisk⟩
  | lockRead r hp =>
      rw [hp] at h
      obtain ⟨hsame, hfaults, hreload⟩ := h
      exact ⟨hsame, .inl ⟨hfaults, hsame.lockFile⟩, hreload, trivial⟩
  | lockDir r saved hp =>
      rw [hp] at h
      exact h
  | lockSerialize r saved bytes hp hw =>
      rw [hp] at h
      exact ⟨h.1, h.2.1, h.2.2.1, hw⟩
  | reconciled r changes errors hp =>
      rw [hp] at h
      exact afterReload_cases (P := SoloAt cfg s₀ request s t.faults) (fun _ => nofun)
        (fun _ => ⟨h.2.2, rfl⟩)
  | dropReconcile r changes hp =>
      rw [hp] at h hdisk
      exact ⟨h.1, r.work, h.2.2, h.2.1, hdisk⟩

/-- A failing step of the save of the new choices. -/
theorem SoloAt.failSave {w : Work} {at_ : SaveStep} (error : ServiceRuntimeError)
    (hdisk : DiskAt cfg (s₀.load cfg) s (.saving w none at_)) (h : Untouched s₀ s) :
    SoloAt cfg s₀ request s [at_.fault] (afterFailedSave error none) := by
  cases at_ with
  | rename => exact SoloAt.failEarly h hdisk.2.load_rename rfl
  | createDir | serialize | writePending | removeOld =>
      exact SoloAt.failEarly h (hdisk.2.load_before (by simp [SaveStep.stops])) rfl

/-- A step that fails and writes nothing. -/
theorem QuietFail.soloAt {fault : Fault} {p : Phase} (q : QuietFail cfg s i t e fault p)
    (hdisk : DiskAt cfg (s₀.load cfg) s t.phase) (h : SoloAt cfg s₀ request s t.faults t.phase) :
    SoloAt cfg s₀ request s (t.faults ++ [fault]) p := by
  cases q with
  | scan change previous next detail hp | resolve change previous next error hp =>
      rw [hp] at h hdisk
      rw [h.2.1]
      exact SoloAt.failEarly h.1 hdisk rfl
  | save _ w restoring at_ error hp =>
      rw [hp] at h hdisk
      cases restoring with
      | none =>
          rw [h.2.1]
          exact SoloAt.failSave error hdisk h.1
      | some response =>
          -- a second failing step
          obtain ⟨-, -, -, hmemory, hcatalog, hne, -⟩ := h
          intro _
          refine ⟨hmemory, hcatalog, fun hnil => ?_, fun fault hfault => ?_⟩
          · exact absurd (List.append_eq_nil_iff.mp hnil).1 hne
          · exact absurd hfault (append_ne_singleton hne)
  | coreGone w hp =>
      rw [hp] at h hdisk
      obtain ⟨hsame, hfaults, hwork⟩ := h
      rw [hfaults]
      refine SoloAt.failReload hwork hsame.memory hsame.catalog hdisk nofun ?_
      rintro _ ⟨⟩
      exact ⟨rfl, hsame.lockFile⟩
  | bootstrap r detail hp =>
      rw [hp] at h hdisk
      obtain ⟨hsame, hfaults, hreload⟩ := h
      rw [hfaults]
      refine SoloAt.failReload hreload.work hsame.memory hsame.catalog hdisk nofun ?_
      rintro _ ⟨⟩
      exact ⟨rfl, hsame.lockFile⟩
  | lockRead r detail hp =>
      rw [hp] at h
      obtain ⟨hsame, hfaults, hreload⟩ := h
      rw [hfaults]
      exact ⟨hsame, .inr rfl, hreload, trivial⟩
  | lock _ r saved at_ fault error hp hfault =>
      rw [hp] at h hdisk
      obtain ⟨hsame, hread, hreload, -⟩ := h
      refine SoloAt.failReload hreload.work hsame.memory hsame.catalog hdisk (by simp) ?_
      refine hread.one fun _ => ?_
      rcases hfault with rfl | rfl
      · exact ⟨rfl, hsame.lockFile⟩
      · exact ⟨rfl, hsame.lockFile⟩
  | coreGoneLate r saved hp =>
      rw [hp] at h hdisk
      obtain ⟨hmemory, hcatalog, hread, hreload, hlock⟩ := h
      refine SoloAt.failReload hreload.work hmemory hcatalog hdisk (by simp) ?_
      exact hread.one fun _ => ⟨rfl, hlock⟩

/-- The disk after the previous choices are saved again. -/
theorem load_restored {w : Work} {response : ControlResponse} {bytes : Content}
    (hversion : s₀.deploymentState.version = deploymentStateVersion)
    (hw : WorkFor cfg s₀ request w)
    (hdisk : DiskAt cfg (s₀.load cfg) s (.saving w (some response) .rename))
    (hb : s.pendingFile = some bytes) :
    cfg.catalog.loadDeploymentState (some bytes) = .ok s₀.deploymentState := by
  have hwrite : cfg.catalog.format.write w.previous = .ok bytes := SavingAt.pending hdisk hb
  rw [hw.previous] at hwrite
  exact CatalogCfg.load_saved hwrite hversion

theorem TaskMove.inventory (m : TaskMove cfg s i t e s') : s'.inventory = s.inventory := by
  cases m with
  | quiet | quietFail | writePending | leavePending | removeOld | rename | writeLock | leaveLock
  | install | reloadFail | restoreFail | replace | commit => rfl

theorem TaskMove.soloAt (m : TaskMove cfg s i t e s') (ht : s.tasks[i]? = some t)
    (hu : s'.tasks[i]? = some u)
    (hversion : s₀.deploymentState.version = deploymentStateVersion)
    (hrequest : t.request = request) (hinventory : s.inventory = s₀.inventory)
    (hdisk : DiskAt cfg (s₀.load cfg) s t.phase) (h : SoloAt cfg s₀ request s t.faults t.phase) :
    SoloAt cfg s₀ request s' u.faults u.phase := by
  cases m with
  | quiet _ p q =>
      rw [getElem?_setPhase ht] at hu
      cases hu
      exact (q.soloAt hrequest hinventory hdisk h).congr ⟨rfl, rfl, rfl, rfl, fun _ hh => hh⟩
  | quietFail _ fault p q =>
      rw [getElem?_setFailed ht] at hu
      cases hu
      exact (q.soloAt hdisk h).congr ⟨rfl, rfl, rfl, rfl, fun _ hh => hh⟩
  | writePending w restoring bytes hp =>
      cases (getElem?_modify_self ht).symm.trans hu
      rw [hp] at h
      have hnext : SoloAt cfg s₀ request s t.faults (.saving w restoring .removeOld) := by
        cases restoring <;> exact h
      exact hnext.congr ⟨rfl, rfl, rfl, rfl, fun _ hh => hh⟩
  | leavePending w restoring bytes detail left error hp =>
      cases (getElem?_modify_self ht).symm.trans hu
      have hfail : QuietFail cfg s i t (.fail detail) (saveFault (.writePending bytes) restoring)
          (afterFailedSave error restoring) := .save _ w restoring _ error hp
      exact (hfail.soloAt hdisk h).congr ⟨rfl, rfl, rfl, rfl, fun _ hh => hh⟩
  | removeOld w restoring hp =>
      cases (getElem?_modify_self ht).symm.trans hu
      rw [hp] at h
      cases restoring with
      | none => exact ⟨⟨h.1.memory, h.1.catalog, h.1.lockFile, h.1.host⟩, h.2⟩
      | some response => exact h
  | rename w restoring bytes hp hb =>
      cases (getElem?_modify_self ht).symm.trans hu
      rw [hp] at h hdisk
      cases restoring with
      | none => exact ⟨⟨h.1.memory, h.1.catalog, h.1.lockFile, h.1.host⟩, h.2⟩
      | some response =>
          obtain ⟨hw, hchange, -, hmemory, hcatalog, hne, hone⟩ := h
          intro _
          refine ⟨hmemory, hcatalog, fun hnil => absurd hnil hne, ?_⟩
          intro fault hfault
          obtain ⟨hin, hlock⟩ := hone fault hfault
          refine ⟨?_, hlock⟩
          rw [loadAfter, if_pos hin, hw.change]
          cases hc : w.change with
          | none => exact absurd hc hchange
          | some c => exact load_restored hversion hw hdisk hb
  | writeLock r saved bytes hp =>
      cases (getElem?_modify_self ht).symm.trans hu
      rw [hp] at h
      obtain ⟨hsame, hread, hreload, hw⟩ := h
      exact ⟨hsame.memory, hsame.catalog, hread, hreload, (hreload.newLock hw).symm⟩
  | leaveLock r saved bytes detail left error hp =>
      cases (getElem?_modify_self ht).symm.trans hu
      rw [hp] at h hdisk
      obtain ⟨hsame, hread, hreload, -⟩ := h
      refine SoloAt.failReload hreload.work hsame.memory hsame.catalog hdisk (by simp) ?_
      exact hread.one fun _ => ⟨rfl, rfl⟩
  | install r saved host changes hp =>
      cases (getElem?_modify_self ht).symm.trans hu
      rw [hp] at h
      exact ⟨h.1, h.2.2.2.1.work⟩
  | reloadFail r saved host detail hp =>
      cases (getElem?_modify_self ht).symm.trans hu
      rw [hp] at h hdisk
      obtain ⟨hmemory, hcatalog, hread, hreload, -⟩ := h
      refine SoloAt.failReload hreload.work hmemory hcatalog hdisk (by simp) ?_
      exact hread.one fun hsaved => ⟨rfl, hsaved⟩
  | restoreFail r saved host detail restoreDetail left hp =>
      cases (getElem?_modify_self ht).symm.trans hu
      rw [hp] at h hdisk
      obtain ⟨hmemory, hcatalog, -, hreload, -⟩ := h
      refine SoloAt.failReload hreload.work hmemory hcatalog hdisk (by simp) ?_
      intro fault hfault
      have hlen := congrArg List.length hfault
      simp at hlen
  | replace r changes hp =>
      cases (getElem?_modify_self ht).symm.trans hu
      rw [hp] at h
      exact ⟨h.1, rfl, h.2⟩
  | commit w response hp =>
      cases (getElem?_modify_self ht).symm.trans hu
      rw [hp] at h
      intro hbad
      rw [h.2] at hbad
      exact nomatch hbad

theorem Alone.preserved {ev : Event} (h : Alone cfg s₀ request s)
    (hversion : s₀.deploymentState.version = deploymentStateVersion)
    (hsolo : Solo s₀.tasks.length s ev) (hs : step cfg s ev = some s') :
    Alone cfg s₀ request s' := by
  obtain ⟨hinventory, t, ht, hrequest, hdisk, hat⟩ := h
  cases step_move hs with
  | request | inventory => exact absurd hsolo id
  | takeCore =>
      refine ⟨hinventory, t, ht, hrequest, hdisk.congr rfl, hat.congr ⟨rfl, rfl, rfl, rfl, nofun⟩⟩
  | task j u te _ hu m =>
      cases (show j = s₀.tasks.length from hsolo)
      cases ht.symm.trans hu
      obtain ⟨v, hv, hsame⟩ := m.moved ht
      refine ⟨?_, v, hv, hsame.trans hrequest,
        m.diskAt ht hv (hat.next_version hversion) hdisk,
        m.soloAt ht hv hversion hrequest hinventory hdisk hat⟩
      rw [m.inventory]
      exact hinventory

theorem Alone.init : Alone cfg s₀ request (s₀.arrive request) :=
  ⟨rfl, ⟨request, .queued, []⟩, getElem?_concat_self, rfl, rfl,
    ⟨rfl, rfl, rfl, fun _ hh => hh⟩, rfl⟩

/-- A request that runs alone has got to where its phase says. -/
theorem Alone.of_reaches (hversion : s₀.deploymentState.version = deploymentStateVersion)
    (h : Reaches (step cfg) (Solo s₀.tasks.length) (s₀.arrive request) s) :
    Alone cfg s₀ request s := by
  refine h.invariant (P := Alone cfg s₀ request) Alone.init ?_
  intro s e s' hinv hsolo hs
  exact hinv.preserved hversion hsolo hs

end Steps

/-! ## Failing steps -/

/-- For a set or a clear, the choices in memory are the ones on the disk. -/
def DiskIsMemory (cfg : RuntimeCfg) (s : Runtime) (request : MgmtRequest) : Prop :=
  ∀ c, request.change cfg = .ok (some c) → s.load cfg = .ok s.deploymentState

/-- When everything is as before although the step has failed.  A failed rename
    has removed the file; a failed reload saves the choices of memory; a failed
    write leaves the lock file as it happens to; and nobody writes the old lock
    back when Core is gone. -/
def RestoredAfter (cfg : RuntimeCfg) (s : Runtime) (request : MgmtRequest) : Fault → Prop
  | .saveRename => s.load cfg = .ok .default
  | .coreGone | .bootstrap | .lockDir | .lockSerialize | .reload => DiskIsMemory cfg s request
  | .lockWrite left => DiskIsMemory cfg s request ∧ left = s.lockFile
  | .coreGoneLate => DiskIsMemory cfg s request ∧ newLock cfg s request = s.lockFile
  | .scan | .resolve | .saveDir | .saveSerialize | .savePending | .saveRemove | .lockRead
  | .lockRestore | .restoreState => True

/-- Choices on the disk and in memory, catalog and lock file are as before. -/
structure Unchanged (cfg : RuntimeCfg) (s s' : Runtime) : Prop where
  disk : s'.load cfg = s.load cfg
  memory : s'.deploymentState = s.deploymentState
  catalog : s'.catalog = s.catalog
  lockFile : s'.lockFile = s.lockFile

theorem loadAfter_inReload {cfg : RuntimeCfg} {s : Runtime} {request : MgmtRequest} {fault : Fault}
    (h : fault.inReload = true) :
    loadAfter cfg s request fault = s.load cfg ↔ DiskIsMemory cfg s request := by
  simp only [loadAfter, DiskIsMemory]
  rw [if_pos h]
  cases hc : request.change cfg with
  | error detail => exact ⟨fun _ _ hbad => (nomatch hbad), fun _ => rfl⟩
  | ok change =>
      cases change with
      | none => exact ⟨fun _ _ hbad => (nomatch hbad), fun _ => rfl⟩
      | some c => exact ⟨fun hload _ _ => hload.symm, fun hload => (hload c rfl).symm⟩

/-- Everything is as before exactly when the failing step is one of those after
    which it is. -/
theorem restoredAfter_iff {cfg : RuntimeCfg} {s : Runtime} {request : MgmtRequest}
    (fault : Fault) : (loadAfter cfg s request fault = s.load cfg ∧
      lockAfter cfg s request fault = s.lockFile) ↔ RestoredAfter cfg s request fault := by
  cases fault with
  | saveRename => exact ⟨fun h => h.1.symm, fun h => ⟨h.symm, rfl⟩⟩
  | coreGone | bootstrap | lockDir | lockSerialize | reload =>
      exact ⟨fun h => (loadAfter_inReload rfl).mp h.1,
        fun h => ⟨(loadAfter_inReload rfl).mpr h, rfl⟩⟩
  | lockWrite | coreGoneLate => exact and_congr_left fun _ => loadAfter_inReload rfl
  | scan | resolve | saveDir | saveSerialize | savePending | saveRemove | lockRead | lockRestore
  | restoreState => exact ⟨fun _ => trivial, fun _ => ⟨rfl, rfl⟩⟩

/-- **FAILURE ATOMICITY**: a request that runs alone from a reachable state, with
    at most one failing step, and ends with an error leaves everything as before
    exactly when the failing step is one after which it is. -/
theorem failed_request_restores {cfg : RuntimeCfg} {s₁ s₀ s : Runtime} (htasks : s₁.tasks = [])
    (hload : s₁.load cfg = .ok s₁.deploymentState) (hreach : Reaches (step cfg) Free s₁ s₀)
    (request : MgmtRequest)
    (h : Reaches (step cfg) (Solo s₀.tasks.length) (s₀.arrive request) s)
    {response : ControlResponse} {faults : List Fault}
    (hend : s.tasks[s₀.tasks.length]? = some ⟨request, .done response, faults⟩)
    (hresponse : response.ok = false) (hsingle : faults.length ≤ 1) :
    Unchanged cfg s₀ s ↔ ∀ fault ∈ faults, RestoredAfter cfg s₀ request fault := by
  have hwork : WorkInv cfg s₀ := by
    refine hreach.invariant (P := WorkInv cfg) (WorkInv.init htasks hload) ?_
    intro s e s' hinv _ hs
    exact hinv.preserved hs
  obtain ⟨-, t, ht, -, -, hat⟩ := Alone.of_reaches hwork.version h
  cases ht.symm.trans hend
  obtain ⟨hmemory, hcatalog, hnone, hone⟩ := hat hresponse
  match faults with
  | [] =>
      obtain ⟨hdisk, hlock⟩ := hnone rfl
      exact ⟨fun _ => nofun, fun _ => ⟨hdisk, hmemory, hcatalog, hlock⟩⟩
  | [fault] =>
      obtain ⟨hdisk, hlock⟩ := hone fault rfl
      rw [List.forall_mem_singleton, ← restoredAfter_iff, ← hdisk, ← hlock]
      exact ⟨fun hsame => ⟨hsame.disk, hsame.lockFile⟩,
        fun hsame => ⟨hsame.1, hmemory, hcatalog, hsame.2⟩⟩
  | _ :: _ :: _ =>
      simp at hsingle

instance (i : Nat) (s : Runtime) (e : Event) : Decidable (Solo i s e) :=
  match e with
  | .task j _ => inferInstanceAs (Decidable (j = i))
  | .takeCore => inferInstanceAs (Decidable True)
  | .request _ | .inventory _ => inferInstanceAs (Decidable False)

/-- The choice of the ABI artifact of `echo`. -/
def setEcho : MgmtRequest := .pluginDeploymentSet (abiParams "echo")

/-- The choice of the ABI artifact of `clock`. -/
def setClock : MgmtRequest := .pluginDeploymentSet (abiParams "clock")

/-- The loading of the ABI plugin fails, and the choices are saved again. -/
def unloadedRuntime : Runtime :=
  (run (step sampleCfg) (Solo 0) (sampleRuntime.arrive setEcho)
    (savedBy 0 ++ [.task 0 (.fail "no such symbol")] ++ oks 0 5)).getD sampleRuntime

theorem failed_request_restores_sample :
    unloadedRuntime.tasks[0]? =
      some ⟨setEcho, .done (failed "no such symbol"), [.bootstrap]⟩ ∧
      Unchanged sampleCfg sampleRuntime unloadedRuntime := by
  have hrun : Reaches (step sampleCfg) (Solo 0) (sampleRuntime.arrive setEcho) unloadedRuntime :=
    reaches_getD (by decide)
  have hend : unloadedRuntime.tasks[0]? =
      some ⟨setEcho, .done (failed "no such symbol"), [.bootstrap]⟩ := by rfl
  refine ⟨hend, (failed_request_restores rfl rfl Reaches.init setEcho hrun hend rfl ?_).mpr ?_⟩
  · exact Nat.le_refl 1
  · intro fault hfault
    rw [List.mem_singleton.mp hfault]
    exact fun _ _ => rfl

/-- The host after its start, with the ABI artifact of `echo` chosen. -/
def echoRuntime : Runtime :=
  startedRuntime (PluginDeploymentState.default.change abiEcho)
    (sampleCatalogCfg.format.write (PluginDeploymentState.default.change abiEcho)).toOption

/-- The rename fails. -/
def unrenamedRuntime : Runtime :=
  (run (step sampleCfg) (Solo 0) (echoRuntime.arrive setClock)
    (oks 0 6 ++ [.task 0 (.fail "denied")])).getD sampleRuntime

/-- **A FAILED RENAME LOSES THE CHOICES**: the request answers with the error of
    the rename, and no choice is left on the disk. -/
theorem failed_rename_loses_choices :
    echoRuntime.load sampleCfg = .ok echoRuntime.deploymentState ∧
      Reaches (step sampleCfg) (Solo 0) (echoRuntime.arrive setClock) unrenamedRuntime ∧
      unrenamedRuntime.tasks[0]? = some ⟨setClock, .done (failed
        (ServiceRuntimeError.pluginDeploymentState sampleCatalogCfg.statePath "denied").message),
        [.saveRename]⟩ ∧
      echoRuntime.load sampleCfg = .ok (PluginDeploymentState.default.change abiEcho) ∧
      unrenamedRuntime.load sampleCfg = .ok .default ∧
      PluginDeploymentState.default ≠ PluginDeploymentState.default.change abiEcho :=
  ⟨rfl, reaches_getD (by decide), rfl, by rfl, by rfl, by decide⟩

/-! ## Dropped futures -/

/-- Memory and disk hold the same choices, and the catalog is the one for them. -/
def InStep (cfg : RuntimeCfg) (s : Runtime) : Prop :=
  s.load cfg = .ok s.deploymentState ∧
    cfg.catalog.resolveCatalog s.inventory s.deploymentState = .ok s.catalog

theorem WorkFor.settled {cfg : RuntimeCfg} {s : Runtime} {request : MgmtRequest} {w : Work}
    (hw : WorkFor cfg s request w) (hchange : request.isChange = true)
    (old : Except ServiceRuntimeError PluginDeploymentState) :
    ∃ c, request.change cfg = .ok (some c) ∧ w.next = s.deploymentState.change c ∧
      settled old w = .ok (s.deploymentState.change c) := by
  cases hc : w.change with
  | none => exact absurd (hc ▸ hw.change) (MgmtRequest.change_ne_none hchange)
  | some c =>
      have hnext : w.next = s.deploymentState.change c := by
        rw [hw.next, hc]
        rfl
      refine ⟨c, hc ▸ hw.change, hnext, ?_⟩
      rw [ServiceDeployment.settled, hc, hnext]

/-- **A DROPPED CHANGE**: when the future of a set or a clear that runs alone is
    dropped, memory, disk and catalog are in step exactly when its handler had
    not begun or it changes nothing. -/
theorem dropped_change_in_step {cfg : RuntimeCfg} {s₀ s : Runtime} (hstart : InStep cfg s₀)
    (request : MgmtRequest) (hchange : request.isChange = true)
    (h : Reaches (step cfg) (Solo s₀.tasks.length) (s₀.arrive request) s)
    {point : AwaitPoint} {faults : List Fault}
    (hend : s.tasks[s₀.tasks.length]? = some ⟨request, .dropped point, faults⟩) :
    InStep cfg s ↔ point = .mutateLock ∨
      ∀ c, request.change cfg = .ok (some c) →
        s₀.deploymentState.change c = s₀.deploymentState := by
  obtain ⟨hinventory, t, ht, -, -, hat⟩ := Alone.of_reaches (CatalogCfg.load_version hstart.1) h
  cases ht.symm.trans hend
  simp only [InStep]
  rw [hinventory]
  cases point with
  | mutateLock =>
      obtain ⟨hsame, hload⟩ := hat
      rw [hload, hsame.memory, hsame.catalog]
      exact ⟨fun _ => .inl rfl, fun _ => hstart⟩
  | bootstrap =>
      obtain ⟨hmemory, hcatalog, w, hw, hload⟩ := hat
      obtain ⟨c, hc, -, hsettled⟩ := hw.settled hchange (s₀.load cfg)
      rw [hload, hsettled, hmemory, hcatalog]
      constructor
      · rintro ⟨hdisk, -⟩
        refine .inr fun d hd => ?_
        cases hc.symm.trans hd
        exact Except.ok.inj hdisk
      · intro hnone
        exact ⟨congrArg Except.ok (hnone.resolve_left nofun c hc), hstart.2⟩
  | reconcile =>
      obtain ⟨hmemory, w, hw, hcatalog, hload⟩ := hat
      obtain ⟨c, hc, hnext, hsettled⟩ := hw.settled hchange (s₀.load cfg)
      rw [hload, hsettled, hmemory, hcatalog]
      constructor
      · rintro ⟨hdisk, -⟩
        refine .inr fun d hd => ?_
        cases hc.symm.trans hd
        exact Except.ok.inj hdisk
      · intro hnone
        have hsame : s₀.deploymentState.change c = s₀.deploymentState :=
          hnone.resolve_left nofun c hc
        refine ⟨congrArg Except.ok hsame, ?_⟩
        rw [← hsame, ← hnext]
        exact hw.catalog

/-- A change to what is chosen already, dropped while the sidecars are
    reconciled. -/
def repeatedRuntime : Runtime :=
  (run (step sampleCfg) (Solo 0) (echoRuntime.arrive setEcho)
    (savedBy 0 ++ swappedBy 0 ++ [.task 0 .ok, .task 0 .drop])).getD sampleRuntime

theorem dropped_change_in_step_sample : InStep sampleCfg echoRuntime ∧
    repeatedRuntime.tasks[0]? = some ⟨setEcho, .dropped .reconcile, []⟩ ∧
    InStep sampleCfg repeatedRuntime := by
  have hstart : InStep sampleCfg echoRuntime := ⟨by rfl, by rfl⟩
  have hrun : Reaches (step sampleCfg) (Solo 0) (echoRuntime.arrive setEcho) repeatedRuntime :=
    reaches_getD (by decide)
  have hend : repeatedRuntime.tasks[0]? = some ⟨setEcho, .dropped .reconcile, []⟩ := by rfl
  refine ⟨hstart, hend, (dropped_change_in_step hstart setEcho rfl hrun hend).mpr (.inr ?_)⟩
  rintro c ⟨⟩
  decide

/-- The change is dropped while its ABI plugin is loading. -/
def droppedRuntime : Runtime :=
  (run (step sampleCfg) (Solo 0) (sampleRuntime.arrive setEcho)
    (savedBy 0 ++ [.task 0 .drop])).getD sampleRuntime

/-- **MEMORY AND DISK SPLIT**: the dropped change is on the disk and not in
    memory. -/
theorem dropped_change_splits :
    InStep sampleCfg sampleRuntime ∧
      Reaches (step sampleCfg) (Solo 0) (sampleRuntime.arrive setEcho) droppedRuntime ∧
      droppedRuntime.tasks[0]? = some ⟨setEcho, .dropped .bootstrap, []⟩ ∧
      droppedRuntime.deploymentState = .default ∧
      droppedRuntime.load sampleCfg = .ok (PluginDeploymentState.default.change abiEcho) ∧
      ¬ InStep sampleCfg droppedRuntime := by
  have hmemory : droppedRuntime.deploymentState = .default := by decide
  have hdisk : droppedRuntime.load sampleCfg =
      .ok (PluginDeploymentState.default.change abiEcho) := by rfl
  refine ⟨⟨by rfl, by rfl⟩, reaches_getD (by decide), by rfl, hmemory, hdisk, ?_⟩
  rintro ⟨hsame, -⟩
  rw [hdisk, hmemory] at hsame
  exact absurd (Except.ok.inj hsame) (by decide)

end ServiceDeployment
