import MutsukiServiceHost.ListUpdateProofs
import MutsukiServiceHost.ServiceCatalogProofs
import MutsukiServiceHost.TransitionProofs

/-! # Plugin management — `plugin_reload`, `plugin_deployment_set` and `_clear`

    The management requests of one `ServiceRuntimeInner` as one machine: what
    they share (Core, the catalog, the deployment choices in memory, the files)
    and where each request stands.  A step is one file operation, one critical
    section of a `std` mutex, or the stretch up to an await.  The environment
    says how each operation ends; a failed write may leave anything behind.

    `HostRuntime::reload` runs under the host mutex and either installs the
    prepared generation or fails and leaves the old one; the restoring of the
    lock file after a failure happens under the same mutex and is part of that
    step.

    `origin`, `catalogOrigin` and `lockOrigin` are histories: the request whose
    reload a value stems from, `none` for the values of the start.  `handed` is
    the generation of every prepared reload with the generation it met, and
    `faults` lists the steps of a request that failed. -/

namespace ServiceDeployment

open ServiceControl ServiceCatalog ListUpdate

/-- The content of a file. -/
abbrev Content := List UInt8

/-- A `RuntimeLock`: what `resolve_load_plan` makes of the manifests and the
    profile, at a generation. -/
structure RuntimeLock where
  manifests : List PluginManifest
  profile : RuntimeProfile
  registryGeneration : Nat

/-- The fixed surroundings of the requests. -/
structure RuntimeCfg where
  catalog : CatalogCfg
  runDir : String
  readSet : Value → Except String (String × PluginDeploymentKind)
  readClear : Value → Except String String
  writeLock : RuntimeLock → Except String Content

/-- The path of the lock file. -/
def RuntimeCfg.lockPath (cfg : RuntimeCfg) : String := cfg.runDir ++ "/runtime.lock.json"

/-- A management request. -/
inductive MgmtRequest where
  | pluginReload
  | pluginDeploymentSet (params : Value)
  | pluginDeploymentClear (params : Value)

/-- What a request asks to change: nothing for a reload, an error for
    parameters that do not decode. -/
def MgmtRequest.change (cfg : RuntimeCfg) : MgmtRequest → Except String (Option Change)
  | .pluginReload => .ok none
  | .pluginDeploymentSet params =>
      (cfg.readSet params).map fun param => some ⟨param.1, some param.2⟩
  | .pluginDeploymentClear params => (cfg.readClear params).map fun id => some ⟨id, none⟩

/-- `PluginReloadChange`. -/
structure PluginReloadChange where
  surfaceId : String
  compatibility : String
  deriving DecidableEq, Repr

/-- `PluginReloadResponse`. -/
structure PluginReloadResponse where
  previousGeneration : Nat
  registryGeneration : Nat
  pluginCount : Nat
  changes : List PluginReloadChange
  runnerErrors : List String
  eventSources : String
  deriving DecidableEq, Repr

/-- `serde_json::to_value` of a `PluginReloadResponse`. -/
def PluginReloadResponse.toValue (r : PluginReloadResponse) : Value :=
  .object [("previous_generation", .number (.posInt r.previousGeneration)),
    ("registry_generation", .number (.posInt r.registryGeneration)),
    ("plugin_count", .number (.posInt r.pluginCount)),
    ("changes", .array (r.changes.map fun change =>
      .object [("surface_id", .string change.surfaceId),
        ("compatibility", .string change.compatibility)])),
    ("runner_errors", .array (r.runnerErrors.map .string)),
    ("event_sources", .string r.eventSources)]

/-- What a request works on: its change, the choices before and after, the
    catalog for the latter. -/
structure Work where
  change : Option Change
  previous : PluginDeploymentState
  next : PluginDeploymentState
  catalog : PluginCatalog

/-- The locals of `reload_catalog` once the generation is read. -/
structure Reload where
  work : Work
  previousGeneration : Nat

/-- `previous_generation.saturating_add(1)`. -/
def Reload.registryGeneration (r : Reload) : Nat := min (r.previousGeneration + 1) (2 ^ 64 - 1)

/-- The lock of the reload. -/
def Reload.lock (cfg : RuntimeCfg) (r : Reload) : RuntimeLock where
  manifests := r.work.catalog.records.map (·.manifest)
  profile := cfg.catalog.runtimeProfile r.work.catalog
  registryGeneration := r.registryGeneration

/-- The lock file as it was read: its bytes with their origin. -/
structure SavedLock where
  bytes : Option Content
  origin : Option Nat

/-- Where `save_deployment_state` stands. -/
inductive SaveStep where
  | createDir
  | serialize
  | writePending (bytes : Content)
  | removeOld
  | rename

/-- Where `write_runtime_lock` stands. -/
inductive LockStep where
  | createDir
  | serialize
  | write (bytes : Content)

/-- The await points of a request. -/
inductive AwaitPoint where
  /-- `mutate_lock`, before the handler is called -/
  | mutateLock
  /-- the loading of an ABI plugin in `runtime_bootstrapper` -/
  | bootstrap
  /-- `reconcile_supervised_sidecars` -/
  | reconcile
  deriving DecidableEq, Repr

/-- Where a request stands. -/
inductive Phase where
  /-- the handler has not begun -/
  | queued
  /-- the choices are cloned -/
  | scanning (change : Option Change) (previous next : PluginDeploymentState)
  /-- inside `save_deployment_state`: of the new choices, or of the previous
      ones after the response to restore for -/
  | saving (w : Work) (restoring : Option ControlResponse) (at_ : SaveStep)
  | readGeneration (w : Work)
  | bootstrapping (r : Reload)
  | readLock (r : Reload)
  | writingLock (r : Reload) (saved : SavedLock) (at_ : LockStep)
  | reloading (r : Reload) (saved : SavedLock)
  /-- Core is swapped, the catalog not replaced yet -/
  | replacing (r : Reload) (changes : List PluginReloadChange)
  | reconciling (r : Reload) (changes : List PluginReloadChange)
  /-- the reload went well, the choices not stored in memory yet -/
  | committing (w : Work) (response : ControlResponse)
  | done (response : ControlResponse)
  | dropped (point : AwaitPoint)

/-- A step that failed. -/
inductive Fault where
  | scan
  | resolve
  | saveDir
  | saveSerialize
  | savePending
  | saveRemove
  | saveRename
  /-- Core was gone when the generation was to be read -/
  | coreGone
  | bootstrap
  | lockRead
  | lockDir
  | lockSerialize
  | lockWrite (left : Option Content)
  /-- Core was gone when the prepared generation was to be installed -/
  | coreGoneLate
  | reload
  | lockRestore
  /-- a step of saving the previous choices -/
  | restoreState
  deriving DecidableEq, Repr

/-- A management request. -/
structure Task where
  request : MgmtRequest
  phase : Phase
  faults : List Fault

/-- The active generation of Core. -/
structure HostRuntime where
  profile : RuntimeProfile
  generation : Nat
  origin : Option Nat

/-- The state the management requests share. -/
structure Runtime where
  host : Option HostRuntime
  catalog : PluginCatalog
  catalogOrigin : Option Nat
  deploymentState : PluginDeploymentState
  stateFile : Option Content
  pendingFile : Option Content
  lockFile : Option Content
  lockOrigin : Option Nat
  inventory : PluginInventory
  tasks : List Task
  handed : List (Nat × Nat)

/-- How the restoring of the lock file ends. -/
inductive Restore where
  | ok
  | failed (detail : String) (left : Option Content)

/-- How the next operation of a request ends. -/
inductive TaskEvent where
  | ok
  | fail (detail : String)
  /-- a write fails and leaves something behind -/
  | failLeaving (detail : String) (left : Option Content)
  | reloaded (changes : List PluginReloadChange)
  | reloadFailed (detail : String) (restore : Restore)
  | reconciled (errors : List String)
  /-- the future is dropped -/
  | drop

/-- The steps of the machine. -/
inductive Event where
  | request (request : MgmtRequest)
  | task (i : Nat) (e : TaskEvent)
  /-- `shutdown` takes Core away -/
  | takeCore
  /-- the plugin directories change -/
  | inventory (inventory : PluginInventory)

/-- A failed operation. -/
def failed (text : String) : ControlResponse := .err (.failed text)

namespace Runtime

/-- Move request `i` to another phase. -/
def setPhase (s : Runtime) (i : Nat) (phase : Phase) : Runtime :=
  { s with tasks := s.tasks.modify i fun t => { t with phase := phase } }

/-- Move request `i` to another phase after steps that failed. -/
def setFailed (s : Runtime) (i : Nat) (faults : List Fault) (phase : Phase) : Runtime :=
  { s with
    tasks := s.tasks.modify i fun t => { t with phase := phase, faults := t.faults ++ faults } }

/-- The lock file holds what request `i` left there. -/
def leaveLock (s : Runtime) (i : Nat) (left : Option Content) : Runtime :=
  { s with
    lockFile := left
    lockOrigin := if left = s.lockFile then s.lockOrigin else some i }

/-- `load_deployment_state`. -/
def load (s : Runtime) (cfg : RuntimeCfg) : Except ServiceRuntimeError PluginDeploymentState :=
  cfg.catalog.loadDeploymentState s.stateFile

end Runtime

/-- What follows when `reload_catalog` answers with an error. -/
def afterFailedReload (w : Work) (response : ControlResponse) : Phase :=
  match w.change with
  | none => .done response
  | some _ => .saving w (some response) .createDir

/-- What follows when `reload_catalog` answers with success. -/
def afterReload (w : Work) (response : ControlResponse) : Phase :=
  match w.change with
  | none => .done response
  | some _ => .committing w response

/-- The choices that `save_deployment_state` is to save. -/
def saveTarget (w : Work) : Option ControlResponse → PluginDeploymentState
  | none => w.next
  | some _ => w.previous

/-- What follows when saving fails. -/
def afterFailedSave (error : ServiceRuntimeError) : Option ControlResponse → Phase
  | none => .done (failed error.message)
  | some _ => .done (failed
      ("deployment reload failed and restoring management state failed: " ++ error.message))

/-- The fault of a step of `save_deployment_state`. -/
def SaveStep.fault : SaveStep → Fault
  | .createDir => .saveDir
  | .serialize => .saveSerialize
  | .writePending _ => .savePending
  | .removeOld => .saveRemove
  | .rename => .saveRename

/-- The fault of saving the new choices or of restoring the previous ones. -/
def saveFault (at_ : SaveStep) : Option ControlResponse → Fault
  | none => at_.fault
  | some _ => .restoreState

/-- What follows when saving succeeds. -/
def afterSave (w : Work) : Option ControlResponse → Phase
  | none => .readGeneration w
  | some response => .done response

/-- The first step of a request: its parameters, the check against the
    configuration, and the clone of the choices. -/
def begin (cfg : RuntimeCfg) (s : Runtime) (request : MgmtRequest) : Phase :=
  match request.change cfg with
  | .error detail => .done (.err (.badRequest detail))
  | .ok none => .scanning none s.deploymentState s.deploymentState
  | .ok (some change) =>
      -- the choices are cloned here, and written back by the commit
      if cfg.catalog.isEnabled change.pluginId then
        .scanning (some change) s.deploymentState (s.deploymentState.change change)
      else .done (.err (.badRequest
        ("plugin " ++ change.pluginId ++ " is not enabled by plugins.configured")))

/-- The catalog is there: a change is saved, a reload goes on. -/
def afterScan (w : Work) : Phase :=
  match w.change with
  | none => .readGeneration w
  | some _ => .saving w none .createDir

/-- One step of `save_deployment_state`. -/
def saveStep (cfg : RuntimeCfg) (s : Runtime) (i : Nat) (w : Work)
    (restoring : Option ControlResponse) : SaveStep → TaskEvent → Option Runtime
  | .createDir, .ok => some (s.setPhase i (.saving w restoring .serialize))
  | .createDir, .fail detail =>
      some (s.setFailed i [saveFault .createDir restoring]
        (afterFailedSave (.pluginDeploymentState cfg.catalog.statePath detail) restoring))
  | .serialize, .ok =>
      match cfg.catalog.format.write (saveTarget w restoring) with
      | .ok bytes => some (s.setPhase i (.saving w restoring (.writePending bytes)))
      | .error detail =>
          some (s.setFailed i [saveFault .serialize restoring]
            (afterFailedSave (.pluginDeploymentState cfg.catalog.statePath detail) restoring))
  | .writePending bytes, .ok =>
      some { s.setPhase i (.saving w restoring .removeOld) with pendingFile := some bytes }
  | .writePending bytes, .failLeaving detail left =>
      some { s.setFailed i [saveFault (.writePending bytes) restoring]
          (afterFailedSave (.pluginDeploymentState cfg.catalog.pendingPath detail) restoring) with
        pendingFile := left }
  -- until the rename there is no state file
  | .removeOld, .ok => some { s.setPhase i (.saving w restoring .rename) with stateFile := none }
  | .removeOld, .fail detail =>
      some (s.setFailed i [saveFault .removeOld restoring]
        (afterFailedSave (.pluginDeploymentState cfg.catalog.statePath detail) restoring))
  | .rename, .ok =>
      match s.pendingFile with
      | none => none
      | some bytes =>
          some { s.setPhase i (afterSave w restoring) with
            stateFile := some bytes
            pendingFile := none }
  | .rename, .fail detail =>
      some (s.setFailed i [saveFault .rename restoring]
        (afterFailedSave (.pluginDeploymentState cfg.catalog.statePath detail) restoring))
  | _, _ => none

/-- One step of `write_runtime_lock`. -/
def lockStep (cfg : RuntimeCfg) (s : Runtime) (i : Nat) (r : Reload) (saved : SavedLock) :
    LockStep → TaskEvent → Option Runtime
  | .createDir, .ok => some (s.setPhase i (.writingLock r saved .serialize))
  | .createDir, .fail detail =>
      some (s.setFailed i [.lockDir] (afterFailedReload r.work
        (failed (ServiceRuntimeError.pluginDeploymentState cfg.lockPath detail).message)))
  | .serialize, .ok =>
      match cfg.writeLock (r.lock cfg) with
      | .ok bytes => some (s.setPhase i (.writingLock r saved (.write bytes)))
      | .error detail =>
          some (s.setFailed i [.lockSerialize] (afterFailedReload r.work
            (failed (ServiceRuntimeError.pluginDeploymentState cfg.lockPath detail).message)))
  | .write bytes, .ok =>
      some { s.setPhase i (.reloading r saved) with
        lockFile := some bytes
        lockOrigin := some i }
  | .write _, .failLeaving detail left =>
      some ((s.leaveLock i left).setFailed i [.lockWrite left] (afterFailedReload r.work
        (failed (ServiceRuntimeError.pluginDeploymentState cfg.lockPath detail).message)))
  | _, _ => none

/-- The critical section of `HostRuntime::reload` on a Core that is there. -/
def reloadStep (cfg : RuntimeCfg) (s : Runtime) (i : Nat) (r : Reload) (saved : SavedLock)
    (h : HostRuntime) : TaskEvent → Option Runtime
  | .reloaded changes =>
      some { s.setPhase i (.replacing r changes) with
        host := some ⟨cfg.catalog.runtimeProfile r.work.catalog, r.registryGeneration, some i⟩
        handed := s.handed ++ [(r.registryGeneration, h.generation)] }
  -- the old generation goes on and the lock file is put back
  | .reloadFailed detail .ok =>
      some { s.setFailed i [.reload] (afterFailedReload r.work (failed detail)) with
        lockFile := saved.bytes
        lockOrigin := saved.origin
        handed := s.handed ++ [(r.registryGeneration, h.generation)] }
  | .reloadFailed detail (.failed restoreDetail left) =>
      some { (s.leaveLock i left).setFailed i [.reload, .lockRestore]
          (afterFailedReload r.work
            (failed (detail ++ "; restoring runtime lock failed: " ++ restoreDetail))) with
        handed := s.handed ++ [(r.registryGeneration, h.generation)] }
  | _ => none

/-- The response of a successful reload. -/
def Reload.response (r : Reload) (changes : List PluginReloadChange) (errors : List String) :
    ControlResponse :=
  .okValue (PluginReloadResponse.toValue
    { previousGeneration := r.previousGeneration
      registryGeneration := r.registryGeneration
      pluginCount := r.work.catalog.records.length
      changes := changes
      runnerErrors := errors
      eventSources := "kept" })

/-- One step of request `i`, which is `t`. -/
def taskStep (cfg : RuntimeCfg) (s : Runtime) (i : Nat) (t : Task) (e : TaskEvent) :
    Option Runtime :=
  match t.phase, e with
  | .queued, .ok => some (s.setPhase i (begin cfg s t.request))
  | .queued, .drop => some (s.setPhase i (.dropped .mutateLock))
  | .scanning change previous next, .ok =>
      match cfg.catalog.resolveCatalog s.inventory next with
      | .error error => some (s.setFailed i [.resolve] (.done (failed error.message)))
      | .ok catalog => some (s.setPhase i (afterScan ⟨change, previous, next, catalog⟩))
  | .scanning _ _ _, .fail detail => some (s.setFailed i [.scan] (.done (failed detail)))
  | .saving w restoring at_, e => saveStep cfg s i w restoring at_ e
  | .readGeneration w, .ok =>
      match s.host with
      | none =>
          some (s.setFailed i [.coreGone] (afterFailedReload w (failed "core is not running")))
      | some h => some (s.setPhase i (.bootstrapping ⟨w, h.generation⟩))
  | .bootstrapping r, .ok => some (s.setPhase i (.readLock r))
  | .bootstrapping r, .fail detail =>
      some (s.setFailed i [.bootstrap] (afterFailedReload r.work (failed detail)))
  | .bootstrapping r, .drop =>
      -- the only await of `runtime_bootstrapper` is the loading of a library
      if r.work.catalog.awaitsAbi then some (s.setPhase i (.dropped .bootstrap))
      else none
  | .readLock r, .ok =>
      some (s.setPhase i (.writingLock r ⟨s.lockFile, s.lockOrigin⟩ .createDir))
  -- `fs::read(..).ok()`: as if there had been no lock file
  | .readLock r, .fail _ =>
      some (s.setFailed i [.lockRead] (.writingLock r ⟨none, some i⟩ .createDir))
  | .writingLock r saved at_, e => lockStep cfg s i r saved at_ e
  -- `shutdown` may have taken Core since the generation was read
  | .reloading r saved, e =>
      match s.host, e with
      | none, .ok =>
          some (s.setFailed i [.coreGoneLate]
            (afterFailedReload r.work (failed "core is not running")))
      | none, _ => none
      | some h, e => reloadStep cfg s i r saved h e
  | .replacing r changes, .ok =>
      some { s.setPhase i (.reconciling r changes) with
        catalog := r.work.catalog
        catalogOrigin := some i }
  | .reconciling r changes, .reconciled errors =>
      some (s.setPhase i (afterReload r.work (r.response changes errors)))
  | .reconciling _ _, .drop => some (s.setPhase i (.dropped .reconcile))
  | .committing w response, .ok =>
      some { s.setPhase i (.done response) with deploymentState := w.next }
  | _, _ => none

/-- One step of the machine. -/
def step (cfg : RuntimeCfg) (s : Runtime) : Event → Option Runtime
  | .request request => some { s with tasks := s.tasks ++ [⟨request, .queued, []⟩] }
  | .task i e =>
      match s.tasks[i]? with
      | none => none
      | some t => taskStep cfg s i t e
  | .takeCore => some { s with host := none }
  | .inventory inventory => some { s with inventory := inventory }

/-! ## What a step can do -/

/-- The steps of a request that write nothing. -/
inductive QuietStep (cfg : RuntimeCfg) (s : Runtime) (t : Task) : TaskEvent → Phase → Prop where
  | begin : t.phase = .queued → QuietStep cfg s t .ok (begin cfg s t.request)
  | dropQueued : t.phase = .queued → QuietStep cfg s t .drop (.dropped .mutateLock)
  | resolved (change : Option Change) (previous next : PluginDeploymentState)
      (catalog : PluginCatalog) : t.phase = .scanning change previous next →
      cfg.catalog.resolveCatalog s.inventory next = .ok catalog →
      QuietStep cfg s t .ok (afterScan ⟨change, previous, next, catalog⟩)
  | saveDir (w : Work) (restoring : Option ControlResponse) :
      t.phase = .saving w restoring .createDir →
      QuietStep cfg s t .ok (.saving w restoring .serialize)
  | saveSerialize (w : Work) (restoring : Option ControlResponse) (bytes : Content) :
      t.phase = .saving w restoring .serialize →
      cfg.catalog.format.write (saveTarget w restoring) = .ok bytes →
      QuietStep cfg s t .ok (.saving w restoring (.writePending bytes))
  | generation (w : Work) (h : HostRuntime) : t.phase = .readGeneration w → s.host = some h →
      QuietStep cfg s t .ok (.bootstrapping ⟨w, h.generation⟩)
  | bootstrapped (r : Reload) : t.phase = .bootstrapping r → QuietStep cfg s t .ok (.readLock r)
  | dropBootstrap (r : Reload) : t.phase = .bootstrapping r →
      r.work.catalog.awaitsAbi = true → QuietStep cfg s t .drop (.dropped .bootstrap)
  | lockRead (r : Reload) : t.phase = .readLock r →
      QuietStep cfg s t .ok (.writingLock r ⟨s.lockFile, s.lockOrigin⟩ .createDir)
  | lockDir (r : Reload) (saved : SavedLock) : t.phase = .writingLock r saved .createDir →
      QuietStep cfg s t .ok (.writingLock r saved .serialize)
  | lockSerialize (r : Reload) (saved : SavedLock) (bytes : Content) :
      t.phase = .writingLock r saved .serialize → cfg.writeLock (r.lock cfg) = .ok bytes →
      QuietStep cfg s t .ok (.writingLock r saved (.write bytes))
  | reconciled (r : Reload) (changes : List PluginReloadChange) (errors : List String) :
      t.phase = .reconciling r changes →
      QuietStep cfg s t (.reconciled errors) (afterReload r.work (r.response changes errors))
  | dropReconcile (r : Reload) (changes : List PluginReloadChange) :
      t.phase = .reconciling r changes → QuietStep cfg s t .drop (.dropped .reconcile)

/-- The steps of request `i` that fail and write nothing. -/
inductive QuietFail (cfg : RuntimeCfg) (s : Runtime) (i : Nat) (t : Task) :
    TaskEvent → Fault → Phase → Prop where
  | scan (change : Option Change) (previous next : PluginDeploymentState) (detail : String) :
      t.phase = .scanning change previous next →
      QuietFail cfg s i t (.fail detail) .scan (.done (failed detail))
  | resolve (change : Option Change) (previous next : PluginDeploymentState)
      (error : ServiceRuntimeError) : t.phase = .scanning change previous next →
      QuietFail cfg s i t .ok .resolve (.done (failed error.message))
  | save (e : TaskEvent) (w : Work) (restoring : Option ControlResponse) (at_ : SaveStep)
      (error : ServiceRuntimeError) : t.phase = .saving w restoring at_ →
      QuietFail cfg s i t e (saveFault at_ restoring) (afterFailedSave error restoring)
  | coreGone (w : Work) : t.phase = .readGeneration w → s.host = none →
      QuietFail cfg s i t .ok .coreGone (afterFailedReload w (failed "core is not running"))
  | bootstrap (r : Reload) (detail : String) : t.phase = .bootstrapping r →
      QuietFail cfg s i t (.fail detail) .bootstrap (afterFailedReload r.work (failed detail))
  | lockRead (r : Reload) (detail : String) : t.phase = .readLock r →
      QuietFail cfg s i t (.fail detail) .lockRead (.writingLock r ⟨none, some i⟩ .createDir)
  | lock (e : TaskEvent) (r : Reload) (saved : SavedLock) (at_ : LockStep) (fault : Fault)
      (error : ServiceRuntimeError) : t.phase = .writingLock r saved at_ →
      (fault = .lockDir ∨ fault = .lockSerialize) →
      QuietFail cfg s i t e fault (afterFailedReload r.work (failed error.message))
  | coreGoneLate (r : Reload) (saved : SavedLock) : t.phase = .reloading r saved →
      s.host = none →
      QuietFail cfg s i t .ok .coreGoneLate
        (afterFailedReload r.work (failed "core is not running"))

/-- The transitions of request `i`. -/
inductive TaskMove (cfg : RuntimeCfg) (s : Runtime) (i : Nat) (t : Task) :
    TaskEvent → Runtime → Prop where
  | quiet (e : TaskEvent) (p : Phase) :
      QuietStep cfg s t e p → TaskMove cfg s i t e (s.setPhase i p)
  | quietFail (e : TaskEvent) (fault : Fault) (p : Phase) : QuietFail cfg s i t e fault p →
      TaskMove cfg s i t e (s.setFailed i [fault] p)
  | writePending (w : Work) (restoring : Option ControlResponse) (bytes : Content) :
      t.phase = .saving w restoring (.writePending bytes) →
      TaskMove cfg s i t .ok
        { s.setPhase i (.saving w restoring .removeOld) with pendingFile := some bytes }
  | leavePending (w : Work) (restoring : Option ControlResponse) (bytes : Content)
      (detail : String) (left : Option Content) (error : ServiceRuntimeError) :
      t.phase = .saving w restoring (.writePending bytes) →
      TaskMove cfg s i t (.failLeaving detail left)
        { s.setFailed i [saveFault (.writePending bytes) restoring]
            (afterFailedSave error restoring) with
          pendingFile := left }
  | removeOld (w : Work) (restoring : Option ControlResponse) :
      t.phase = .saving w restoring .removeOld →
      TaskMove cfg s i t .ok { s.setPhase i (.saving w restoring .rename) with stateFile := none }
  | rename (w : Work) (restoring : Option ControlResponse) (bytes : Content) :
      t.phase = .saving w restoring .rename → s.pendingFile = some bytes →
      TaskMove cfg s i t .ok
        { s.setPhase i (afterSave w restoring) with
          stateFile := some bytes
          pendingFile := none }
  | writeLock (r : Reload) (saved : SavedLock) (bytes : Content) :
      t.phase = .writingLock r saved (.write bytes) →
      TaskMove cfg s i t .ok
        { s.setPhase i (.reloading r saved) with
          lockFile := some bytes
          lockOrigin := some i }
  | leaveLock (r : Reload) (saved : SavedLock) (bytes : Content) (detail : String)
      (left : Option Content) (error : ServiceRuntimeError) :
      t.phase = .writingLock r saved (.write bytes) →
      TaskMove cfg s i t (.failLeaving detail left)
        ((s.leaveLock i left).setFailed i [.lockWrite left]
          (afterFailedReload r.work (failed error.message)))
  | install (r : Reload) (saved : SavedLock) (h : HostRuntime)
      (changes : List PluginReloadChange) : t.phase = .reloading r saved → s.host = some h →
      TaskMove cfg s i t (.reloaded changes)
        { s.setPhase i (.replacing r changes) with
          host := some ⟨cfg.catalog.runtimeProfile r.work.catalog, r.registryGeneration, some i⟩
          handed := s.handed ++ [(r.registryGeneration, h.generation)] }
  | reloadFail (r : Reload) (saved : SavedLock) (h : HostRuntime) (detail : String) :
      t.phase = .reloading r saved → s.host = some h →
      TaskMove cfg s i t (.reloadFailed detail .ok)
        { s.setFailed i [.reload] (afterFailedReload r.work (failed detail)) with
          lockFile := saved.bytes
          lockOrigin := saved.origin
          handed := s.handed ++ [(r.registryGeneration, h.generation)] }
  | restoreFail (r : Reload) (saved : SavedLock) (h : HostRuntime) (detail restoreDetail : String)
      (left : Option Content) : t.phase = .reloading r saved → s.host = some h →
      TaskMove cfg s i t (.reloadFailed detail (.failed restoreDetail left))
        { (s.leaveLock i left).setFailed i [.reload, .lockRestore]
            (afterFailedReload r.work
              (failed (detail ++ "; restoring runtime lock failed: " ++ restoreDetail))) with
          handed := s.handed ++ [(r.registryGeneration, h.generation)] }
  | replace (r : Reload) (changes : List PluginReloadChange) : t.phase = .replacing r changes →
      TaskMove cfg s i t .ok
        { s.setPhase i (.reconciling r changes) with
          catalog := r.work.catalog
          catalogOrigin := some i }
  | commit (w : Work) (response : ControlResponse) : t.phase = .committing w response →
      TaskMove cfg s i t .ok { s.setPhase i (.done response) with deploymentState := w.next }

theorem saveStep_move {cfg : RuntimeCfg} {s s' : Runtime} {i : Nat} {t : Task} {w : Work}
    {restoring : Option ControlResponse} {at_ : SaveStep} {e : TaskEvent}
    (hp : t.phase = .saving w restoring at_) (h : saveStep cfg s i w restoring at_ e = some s') :
    TaskMove cfg s i t e s' := by
  simp only [saveStep] at h
  split at h
  · cases h
    exact .quiet _ _ (.saveDir w restoring hp)
  · cases h
    exact .quietFail _ _ _ (.save _ w restoring _ _ hp)
  · split at h
    · rename_i bytes hw
      cases h
      exact .quiet _ _ (.saveSerialize w restoring bytes hp hw)
    · cases h
      exact .quietFail _ _ _ (.save _ w restoring _ _ hp)
  · cases h
    exact .writePending w restoring _ hp
  · cases h
    exact .leavePending w restoring _ _ _ _ hp
  · cases h
    exact .removeOld w restoring hp
  · cases h
    exact .quietFail _ _ _ (.save _ w restoring _ _ hp)
  · split at h
    · exact nomatch h
    · rename_i bytes hb
      cases h
      exact .rename w restoring bytes hp hb
  · cases h
    exact .quietFail _ _ _ (.save _ w restoring _ _ hp)
  · exact nomatch h

theorem lockStep_move {cfg : RuntimeCfg} {s s' : Runtime} {i : Nat} {t : Task} {r : Reload}
    {saved : SavedLock} {at_ : LockStep} {e : TaskEvent}
    (hp : t.phase = .writingLock r saved at_) (h : lockStep cfg s i r saved at_ e = some s') :
    TaskMove cfg s i t e s' := by
  simp only [lockStep] at h
  split at h
  · cases h
    exact .quiet _ _ (.lockDir r saved hp)
  · cases h
    exact .quietFail _ _ _ (.lock _ r saved _ .lockDir _ hp (.inl rfl))
  · split at h
    · rename_i bytes hw
      cases h
      exact .quiet _ _ (.lockSerialize r saved bytes hp hw)
    · cases h
      exact .quietFail _ _ _ (.lock _ r saved _ .lockSerialize _ hp (.inr rfl))
  · cases h
    exact .writeLock r saved _ hp
  · cases h
    exact .leaveLock r saved _ _ _ _ hp
  · exact nomatch h

theorem reloadStep_move {cfg : RuntimeCfg} {s s' : Runtime} {i : Nat} {t : Task} {r : Reload}
    {saved : SavedLock} {host : HostRuntime} {e : TaskEvent} (hp : t.phase = .reloading r saved)
    (hh : s.host = some host) (h : reloadStep cfg s i r saved host e = some s') :
    TaskMove cfg s i t e s' := by
  simp only [reloadStep] at h
  split at h
  · cases h
    exact .install r saved host _ hp hh
  · cases h
    exact .reloadFail r saved host _ hp hh
  · cases h
    exact .restoreFail r saved host _ _ _ hp hh
  · exact nomatch h

theorem taskStep_move {cfg : RuntimeCfg} {s s' : Runtime} {i : Nat} {t : Task} {e : TaskEvent}
    (h : taskStep cfg s i t e = some s') : TaskMove cfg s i t e s' := by
  simp only [taskStep] at h
  split at h
  · rename_i hp
    cases h
    exact .quiet _ _ (.begin hp)
  · rename_i hp
    cases h
    exact .quiet _ _ (.dropQueued hp)
  · rename_i change previous next hp
    split at h
    · cases h
      exact .quietFail _ _ _ (.resolve change previous next _ hp)
    · rename_i catalog hc
      cases h
      exact .quiet _ _ (.resolved change previous next catalog hp hc)
  · rename_i hp
    cases h
    exact .quietFail _ _ _ (.scan _ _ _ _ hp)
  · rename_i hp
    exact saveStep_move hp h
  · rename_i w hp
    split at h
    · rename_i hh
      cases h
      exact .quietFail _ _ _ (.coreGone w hp hh)
    · rename_i host hh
      cases h
      exact .quiet _ _ (.generation w host hp hh)
  · rename_i r hp
    cases h
    exact .quiet _ _ (.bootstrapped r hp)
  · rename_i r detail hp
    cases h
    exact .quietFail _ _ _ (.bootstrap r detail hp)
  · rename_i r hp
    split at h
    · rename_i ha
      cases h
      exact .quiet _ _ (.dropBootstrap r hp ha)
    · exact nomatch h
  · rename_i r hp
    cases h
    exact .quiet _ _ (.lockRead r hp)
  · rename_i r detail hp
    cases h
    exact .quietFail _ _ _ (.lockRead r detail hp)
  · rename_i hp
    exact lockStep_move hp h
  · rename_i r saved hp
    split at h
    · rename_i hh
      cases h
      exact .quietFail _ _ _ (.coreGoneLate r saved hp hh)
    · exact nomatch h
    · rename_i host hh
      exact reloadStep_move hp hh h
  · rename_i r changes hp
    cases h
    exact .replace r changes hp
  · rename_i r changes errors hp
    cases h
    exact .quiet _ _ (.reconciled r changes errors hp)
  · rename_i r changes hp
    cases h
    exact .quiet _ _ (.dropReconcile r changes hp)
  · rename_i w response hp
    cases h
    exact .commit w response hp
  · exact nomatch h

/-- **EVERY STEP IS A LISTED MOVE**: a new request, a move of one request, the
    end of Core or a change of the plugin directories. -/
inductive Move (cfg : RuntimeCfg) (s : Runtime) : Event → Runtime → Prop where
  | request (request : MgmtRequest) :
      Move cfg s (.request request) { s with tasks := s.tasks ++ [⟨request, .queued, []⟩] }
  | task (i : Nat) (t : Task) (e : TaskEvent) (s' : Runtime) : s.tasks[i]? = some t →
      TaskMove cfg s i t e s' → Move cfg s (.task i e) s'
  | takeCore : Move cfg s .takeCore { s with host := none }
  | inventory (inventory : PluginInventory) :
      Move cfg s (.inventory inventory) { s with inventory := inventory }

theorem step_move {cfg : RuntimeCfg} {s s' : Runtime} {e : Event} (h : step cfg s e = some s') :
    Move cfg s e s' := by
  cases e with
  | request request =>
      cases h
      exact .request request
  | task i e =>
      simp only [step] at h
      split at h
      · exact nomatch h
      · rename_i t ht
        exact .task i t e s' ht (taskStep_move h)
  | takeCore =>
      cases h
      exact .takeCore
  | inventory inventory =>
      cases h
      exact .inventory inventory

/-! ## The tasks after a step -/

/-- The request has ended. -/
def Phase.isOver : Phase → Bool
  | .done _ | .dropped _ => true
  | _ => false

/-- No request is in progress. -/
def Runtime.Quiet (s : Runtime) : Prop := ∀ t ∈ s.tasks, t.phase.isOver = true

theorem getElem?_setPhase {s : Runtime} {i : Nat} {t : Task} (ht : s.tasks[i]? = some t)
    (p : Phase) : (s.setPhase i p).tasks[i]? = some { t with phase := p } :=
  getElem?_modify_self ht

theorem getElem?_setFailed {s : Runtime} {i : Nat} {t : Task} (ht : s.tasks[i]? = some t)
    (faults : List Fault) (p : Phase) :
    (s.setFailed i faults p).tasks[i]? = some { t with phase := p, faults := t.faults ++ faults } :=
  getElem?_modify_self ht

/-- A move changes one task, and not what it was asked. -/
theorem TaskMove.tasks {cfg : RuntimeCfg} {s s' : Runtime} {i : Nat} {t : Task} {e : TaskEvent}
    (m : TaskMove cfg s i t e s') :
    ∃ f : Task → Task, s'.tasks = s.tasks.modify i f ∧ ∀ u, (f u).request = u.request := by
  cases m with
  | quiet | quietFail | writePending | leavePending | removeOld | rename | writeLock | leaveLock
  | install | reloadFail | restoreFail | replace | commit => exact ⟨_, rfl, fun _ => rfl⟩

theorem TaskMove.other {cfg : RuntimeCfg} {s s' : Runtime} {i j : Nat} {t : Task} {e : TaskEvent}
    (m : TaskMove cfg s i t e s') (hij : i ≠ j) : s'.tasks[j]? = s.tasks[j]? := by
  obtain ⟨f, hf, -⟩ := m.tasks
  rw [hf]
  exact getElem?_modify_ne hij

/-- The change a request is making, with the choices before and after. -/
def Phase.inWork : Phase → Option (Option Change × PluginDeploymentState × PluginDeploymentState)
  | .scanning change previous next => some (change, previous, next)
  | .saving w _ _ | .readGeneration w | .committing w _ => some (w.change, w.previous, w.next)
  | .bootstrapping r | .readLock r | .writingLock r _ _ | .reloading r _ | .replacing r _
  | .reconciling r _ => some (r.work.change, r.work.previous, r.work.next)
  | .queued | .done _ | .dropped _ => none

/-- The choices after a change. -/
def applyChange (s : PluginDeploymentState) : Option Change → PluginDeploymentState
  | none => s
  | some c => s.change c

theorem version_applyChange (s : PluginDeploymentState) (c : Option Change) :
    (applyChange s c).version = s.version := by
  cases c with
  | none => rfl
  | some c => exact version_change s c

/-! ## Where a request goes next

    One rule for each function that gives the next phase: what holds of all its
    outcomes holds of its value. -/

section Next

variable {P : Phase → Prop}

theorem begin_cases {cfg : RuntimeCfg} {s : Runtime} {request : MgmtRequest}
    (hdone : ∀ detail, P (.done (.err (.badRequest detail))))
    (hscan : ∀ change, request.change cfg = .ok change →
      P (.scanning change s.deploymentState (applyChange s.deploymentState change))) :
    P (begin cfg s request) := by
  simp only [begin]
  split
  · exact hdone _
  · rename_i hc
    exact hscan none hc
  · rename_i change hc
    split
    · exact hscan (some change) hc
    · exact hdone _

theorem afterScan_cases {w : Work} (hread : w.change = none → P (.readGeneration w))
    (hsave : w.change ≠ none → P (.saving w none .createDir)) : P (afterScan w) := by
  simp only [afterScan]
  split
  · rename_i hc
    exact hread hc
  · rename_i hc
    exact hsave (fun hnone => nomatch hc.symm.trans hnone)

theorem afterFailedReload_cases {w : Work} {response : ControlResponse}
    (hdone : w.change = none → P (.done response))
    (hsave : w.change ≠ none → P (.saving w (some response) .createDir)) :
    P (afterFailedReload w response) := by
  simp only [afterFailedReload]
  split
  · rename_i hc
    exact hdone hc
  · rename_i hc
    exact hsave (fun hnone => nomatch hc.symm.trans hnone)

theorem afterReload_cases {w : Work} {response : ControlResponse}
    (hdone : w.change = none → P (.done response))
    (hcommit : w.change ≠ none → P (.committing w response)) : P (afterReload w response) := by
  simp only [afterReload]
  split
  · rename_i hc
    exact hdone hc
  · rename_i hc
    exact hcommit (fun hnone => nomatch hc.symm.trans hnone)

theorem afterFailedSave_cases {error : ServiceRuntimeError} {restoring : Option ControlResponse}
    (hdone : ∀ text, P (.done (failed text))) : P (afterFailedSave error restoring) := by
  cases restoring with
  | none => exact hdone _
  | some response => exact hdone _

end Next

/-- What a request that has begun works on. -/
theorem inWork_begin {cfg : RuntimeCfg} {s : Runtime} {request : MgmtRequest}
    {x : Option Change × PluginDeploymentState × PluginDeploymentState} :
    (begin cfg s request).inWork = some x → request.change cfg = .ok x.1 ∧
      x.2.1 = s.deploymentState ∧ x.2.2 = applyChange s.deploymentState x.1 := by
  refine begin_cases (P := fun p => p.inWork = some x → request.change cfg = .ok x.1 ∧
    x.2.1 = s.deploymentState ∧ x.2.2 = applyChange s.deploymentState x.1) (fun _ => nofun) ?_
  rintro change hc ⟨⟩
  exact ⟨hc, rfl, rfl⟩

theorem inWork_afterScan (w : Work) :
    (afterScan w).inWork = some (w.change, w.previous, w.next) :=
  afterScan_cases (P := fun p => p.inWork = some (w.change, w.previous, w.next))
    (fun _ => rfl) (fun _ => rfl)

theorem inWork_afterFailedReload {w : Work} {response : ControlResponse}
    {x : Option Change × PluginDeploymentState × PluginDeploymentState} :
    (afterFailedReload w response).inWork = some x → x = (w.change, w.previous, w.next) :=
  afterFailedReload_cases (P := fun p => p.inWork = some x → x = (w.change, w.previous, w.next))
    (fun _ => nofun) (fun _ h => (Option.some.inj h).symm)

theorem inWork_afterReload {w : Work} {response : ControlResponse}
    {x : Option Change × PluginDeploymentState × PluginDeploymentState} :
    (afterReload w response).inWork = some x → x = (w.change, w.previous, w.next) :=
  afterReload_cases (P := fun p => p.inWork = some x → x = (w.change, w.previous, w.next))
    (fun _ => nofun) (fun _ h => (Option.some.inj h).symm)

theorem inWork_afterFailedSave (error : ServiceRuntimeError) (restoring : Option ControlResponse) :
    (afterFailedSave error restoring).inWork = none :=
  afterFailedSave_cases (P := fun p => p.inWork = none) (fun _ => rfl)

theorem inWork_afterSave {w : Work} {restoring : Option ControlResponse}
    {x : Option Change × PluginDeploymentState × PluginDeploymentState}
    (h : (afterSave w restoring).inWork = some x) : x = (w.change, w.previous, w.next) := by
  cases restoring with
  | none => exact (Option.some.inj h).symm
  | some => exact nomatch h

/-- **A REQUEST WORKS ON WHAT IT CLONED**: its change and the choices before and
    after it are those of its first step. -/
theorem TaskMove.inWork {cfg : RuntimeCfg} {s s' : Runtime} {i : Nat} {t u : Task} {e : TaskEvent}
    (m : TaskMove cfg s i t e s') (ht : s.tasks[i]? = some t) (hu : s'.tasks[i]? = some u)
    {x : Option Change × PluginDeploymentState × PluginDeploymentState}
    (h : u.phase.inWork = some x) :
    t.phase.inWork = some x ∨
      (t.phase = .queued ∧ e = .ok ∧ u.phase = begin cfg s t.request) := by
  cases m with
  | quiet _ p q =>
      rw [getElem?_setPhase ht] at hu
      cases hu
      cases q with
      | begin hp => exact .inr ⟨hp, rfl, rfl⟩
      | dropQueued | dropBootstrap | dropReconcile => exact nomatch h
      | resolved change previous next catalog hp =>
          rw [inWork_afterScan] at h
          rw [hp]
          exact .inl h
      | saveDir _ _ hp | saveSerialize _ _ _ hp | generation _ _ hp | bootstrapped _ hp
      | lockRead _ hp | lockDir _ _ hp | lockSerialize _ _ _ hp =>
          rw [hp]
          exact .inl h
      | reconciled r changes errors hp =>
          rw [hp, inWork_afterReload h]
          exact .inl rfl
  | quietFail _ fault p q =>
      rw [getElem?_setFailed ht] at hu
      cases hu
      cases q with
      | scan | resolve => exact nomatch h
      | save _ w restoring at_ error =>
          rw [inWork_afterFailedSave] at h
          exact nomatch h
      | coreGone w hp | bootstrap r detail hp | lock _ r saved at_ fault error hp
      | coreGoneLate r saved hp =>
          rw [hp, inWork_afterFailedReload h]
          exact .inl rfl
      | lockRead r detail hp =>
          rw [hp]
          exact .inl h
  | writePending _ _ _ hp | removeOld _ _ hp | writeLock _ _ _ hp | install _ _ _ _ hp
  | replace _ _ hp =>
      cases (getElem?_modify_self ht).symm.trans hu
      rw [hp]
      exact .inl h
  | leavePending w restoring bytes detail left error =>
      cases (getElem?_modify_self ht).symm.trans hu
      have h' : (afterFailedSave error restoring).inWork = some x := h
      rw [inWork_afterFailedSave] at h'
      exact nomatch h'
  | rename w restoring bytes hp =>
      cases (getElem?_modify_self ht).symm.trans hu
      rw [hp, inWork_afterSave h]
      exact .inl rfl
  | leaveLock r _ _ _ _ _ hp | reloadFail r _ _ _ hp | restoreFail r _ _ _ _ _ hp =>
      cases (getElem?_modify_self ht).symm.trans hu
      rw [hp, inWork_afterFailedReload h]
      exact .inl rfl
  | commit =>
      cases (getElem?_modify_self ht).symm.trans hu
      exact nomatch h

/-! ## A host for sample runs -/

/-- The parameters of a choice of the ABI artifact. -/
def abiParams (pluginId : String) : Value :=
  .object [("plugin_id", .string pluginId), ("deployment", .string "abi")]

def sampleCfg : RuntimeCfg where
  catalog := sampleCatalogCfg
  runDir := "run"
  readSet
    | .object [("plugin_id", .string pluginId), ("deployment", .string "abi")] =>
        .ok (pluginId, .abi)
    | _ => .error "invalid parameters"
  readClear
    | .object [("plugin_id", .string pluginId)] => .ok pluginId
    | _ => .error "invalid parameters"
  writeLock lock := .ok (asciiBytes "\x7b\"registry_generation\": " ++
    (Nat.toDigits 10 lock.registryGeneration).map (fun c => UInt8.ofNat c.toNat) ++ [0x7d])

/-- The host after its start, with stored choices. -/
def startedRuntime (state : PluginDeploymentState) (stateFile : Option Content) : Runtime :=
  let catalog :=
    (sampleCatalogCfg.resolveCatalog sampleInventory state).toOption.getD ⟨[], [], []⟩
  { host := some ⟨sampleCatalogCfg.runtimeProfile catalog, 1, none⟩
    catalog := catalog
    catalogOrigin := none
    deploymentState := state
    stateFile := stateFile
    pendingFile := none
    lockFile := some (asciiBytes "\x7b\"registry_generation\": 1\x7d")
    lockOrigin := none
    inventory := sampleInventory
    tasks := []
    handed := [] }

/-- The host after its start, without choices. -/
def sampleRuntime : Runtime := startedRuntime .default none

/-- The next `n` operations of request `i` go well. -/
def oks (i n : Nat) : List Event := List.replicate n (.task i .ok)

/-- A change up to its read of the generation: it begins, scans, saves and
    reads. -/
def savedBy (i : Nat) : List Event := oks i 8

/-- From the read of the generation to the swap of Core. -/
def swappedBy (i : Nat) : List Event := oks i 5 ++ [.task i (.reloaded [])]

end ServiceDeployment
