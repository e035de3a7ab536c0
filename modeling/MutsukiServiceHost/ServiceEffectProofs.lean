import MutsukiServiceHost.ExceptStepProofs
import MutsukiServiceHost.ServiceRollbackProofs

/-! # Successful changes of a deployment

    `change_plugin_deployment` admits a plugin by its trimmed id, and
    `resolve_catalog` and `plugin_list` look choices up by trimmed ids, but the
    choice is stored under the id as it was sent.  A request that ends well
    changes what is chosen, listed and loaded again exactly when the two are the
    same, or the choice was there already. -/

namespace ServiceCatalog

/-! ## What `resolve_catalog` selects -/

namespace CatalogCfg

variable {cfg : CatalogCfg} {inventory : PluginInventory} {preferences : PluginDeploymentState}

theorem chooseDefault_mem {pluginId : String} {candidates : List PluginRecord}
    {record : PluginRecord} (h : cfg.chooseDefault pluginId candidates = .ok record) :
    record ∈ candidates := by
  unfold chooseDefault at h
  split at h
  · rw [← Except.ok.inj h]
    exact List.mem_singleton.mpr rfl
  · split at h
    · split at h
      · rename_i builtin hbuiltin
        rw [← Except.ok.inj h]
        exact List.mem_of_find?_eq_some hbuiltin
      · exact nomatch h
    · exact nomatch h

/-- What the check of the business surfaces lets through. -/
theorem of_surface_check {ε : Type} {record chosen : PluginRecord} {builtin : Option PluginRecord}
    {error : ε}
    (h : (if cfg.deploymentFor chosen = .builtin then .ok chosen
      else match builtin with
        | some builtin =>
            if builtin.manifest.businessSurface ≠ chosen.manifest.businessSurface then .error error
            else .ok chosen
        | none => .ok chosen : Except ε PluginRecord) = .ok record) :
    chosen = record ∧ (cfg.deploymentFor record = .builtin ∨ ∀ found, builtin = some found →
      found.manifest.businessSurface = record.manifest.businessSurface) := by
  split at h
  · rename_i hbuiltin
    obtain rfl := Except.ok.inj h
    exact ⟨rfl, Or.inl hbuiltin⟩
  · split at h
    · split at h
      · exact nomatch h
      · rename_i found hsurface
        obtain rfl := Except.ok.inj h
        refine ⟨rfl, Or.inr fun other hother => ?_⟩
        rw [← Option.some.inj hother]
        exact not_not.mp hsurface
    · obtain rfl := Except.ok.inj h
      exact ⟨rfl, Or.inr nofun⟩

/-- What the selection for one plugin has gone through: the stored deployment or
    the default, and the check against the builtin. -/
theorem choose_inv {selection : PluginSelection} {record : PluginRecord}
    (h : cfg.choose inventory preferences selection = .ok record) :
    let candidates := inventory.records.filter fun record =>
      record.manifest.pluginId = trim selection.id
    (match preferences.plugins.lookup (trim selection.id) with
      | some preferred =>
          candidates.find? (fun record => cfg.deploymentFor record = preferred) = some record
      | none => cfg.chooseDefault (trim selection.id) candidates = .ok record) ∧
    (cfg.deploymentFor record = .builtin ∨ ∀ found,
      candidates.find? (fun record => cfg.deploymentFor record = .builtin) = some found →
        found.manifest.businessSurface = record.manifest.businessSurface) := by
  simp only [choose, bind, Except.bind, pure, Except.pure, throw, throwThe,
    MonadExceptOf.throw] at h
  split at h
  · exact nomatch h
  · cases hpreferred : preferences.plugins.lookup (trim selection.id) with
    | some preferred =>
        rw [hpreferred] at h
        dsimp only at h
        split at h
        · rename_i chosen hchosen
          obtain ⟨rfl, hsurface⟩ := of_surface_check h
          exact ⟨hchosen, hsurface⟩
        · exact nomatch h
    | none =>
        rw [hpreferred] at h
        dsimp only at h
        split at h
        · exact nomatch h
        · rename_i chosen hchosen
          obtain ⟨rfl, hsurface⟩ := of_surface_check h
          exact ⟨hchosen, hsurface⟩

/-- What is chosen is of the plugin, and of the stored deployment if there is one. -/
theorem choose_ok {selection : PluginSelection} {record : PluginRecord}
    (h : cfg.choose inventory preferences selection = .ok record) :
    record.manifest.pluginId = trim selection.id ∧
      ∀ preferred, preferences.plugins.lookup (trim selection.id) = some preferred →
        cfg.deploymentFor record = preferred := by
  have hid : ∀ found ∈ inventory.records.filter fun record =>
      record.manifest.pluginId = trim selection.id,
        found.manifest.pluginId = trim selection.id := by
    intro found hfound
    exact of_decide_eq_true (List.mem_filter.mp hfound).2
  obtain ⟨hchosen, -⟩ := choose_inv h
  split at hchosen
  · rename_i preferred hpreferred
    refine ⟨hid _ (List.mem_of_find?_eq_some hchosen), fun other hother => ?_⟩
    obtain rfl := Option.some.inj (hpreferred.symm.trans hother)
    simpa using List.find?_some hchosen
  · rename_i hnone
    exact ⟨hid _ (chooseDefault_mem hchosen), fun other hother => nomatch hnone.symm.trans hother⟩

/-- The enabled plugins, each with the record that is selected for it. -/
theorem resolveCatalog_ok {catalog : PluginCatalog}
    (h : cfg.resolveCatalog inventory preferences = .ok catalog) :
    List.Forall₂ (fun selection record => cfg.choose inventory preferences selection = .ok record)
      (cfg.configured.filter (·.enabled)) catalog.records := by
  simp only [resolveCatalog, bind, Except.bind, pure, Except.pure] at h
  split at h
  · exact nomatch h
  · rename_i selected hselected
    rw [← Except.ok.inj h]
    exact ExceptStep.mapM_eq_ok_iff.mp hselected

/-- A selected record is of an enabled plugin. -/
theorem resolved_deployment {catalog : PluginCatalog} {pluginId : String}
    {preferred : PluginDeploymentKind} (h : cfg.resolveCatalog inventory preferences = .ok catalog)
    (hstored : preferences.plugins.lookup pluginId = some preferred) {record : PluginRecord}
    (hmem : record ∈ catalog.records) (hid : record.manifest.pluginId = pluginId) :
    cfg.deploymentFor record = preferred := by
  obtain ⟨selection, -, hchoose⟩ := ListUpdate.exists_partner (resolveCatalog_ok h).flip hmem
  obtain ⟨htrim, hdeployment⟩ := choose_ok hchoose
  exact hdeployment preferred (by rw [← htrim, hid, hstored])

/-- An enabled plugin has a record in the catalog. -/
theorem exists_resolved {catalog : PluginCatalog} {pluginId : String}
    (h : cfg.resolveCatalog inventory preferences = .ok catalog)
    (henabled : cfg.isEnabled pluginId = true) :
    ∃ record ∈ catalog.records, record.manifest.pluginId = trim pluginId := by
  obtain ⟨selection, hselection, hboth⟩ := List.any_eq_true.mp henabled
  rw [Bool.and_eq_true, decide_eq_true_iff] at hboth
  obtain ⟨record, hmem, hchoose⟩ := ListUpdate.exists_partner (resolveCatalog_ok h)
    (List.mem_filter.mpr ⟨hselection, hboth.1⟩)
  exact ⟨record, hmem, (choose_ok hchoose).1.trans hboth.2⟩

end CatalogCfg

/-! ## `plugin_list` -/

/-- `deployment_name`. -/
def deploymentName (deployment : PluginDeploymentKind) : String :=
  String.ofList (deployment.debugName.toList.map Char.toLower)

/-- The fields of a `PluginCandidateStatus` that are in a record here. -/
structure PluginCandidateStatus where
  deployment : String
  path : String
  available : Bool
  runnerLink : Option String
  deriving DecidableEq, Repr

/-- `PluginStatus`. -/
structure PluginStatus where
  pluginId : String
  configured : Bool
  activeDeployment : Option String
  preferredDeployment : Option String
  candidates : List PluginCandidateStatus
  deriving DecidableEq, Repr

/-- The status of one plugin in `plugin_list`. -/
def pluginStatus (cfg : CatalogCfg) (catalog : PluginCatalog) (state : PluginDeploymentState)
    (pluginId : String) : PluginStatus where
  pluginId := pluginId
  configured := cfg.configured.any fun selection =>
    selection.enabled && trim selection.id = pluginId
  activeDeployment :=
    (catalog.records.find? fun record => record.manifest.pluginId = pluginId).map fun record =>
      deploymentName (cfg.deploymentFor record)
  preferredDeployment := (state.plugins.lookup pluginId).map deploymentName
  candidates :=
    (catalog.candidates.filter fun record => record.manifest.pluginId = pluginId).map fun record =>
      ⟨deploymentName (cfg.deploymentFor record), record.manifestPath, true,
        record.runtime.map (·.runnerLink)⟩

/-- The plugins of `plugin_list`, in the order of their ids. -/
def pluginIds (cfg : CatalogCfg) (catalog : PluginCatalog) : List String :=
  ((cfg.configured.map fun selection => trim selection.id) ++
    catalog.candidates.map fun record => record.manifest.pluginId).dedup.mergeSort

/-- `PluginInventoryDiagnostic`. -/
structure PluginInventoryDiagnostic where
  manifestPath : String
  pluginId : Option String
  deployment : Option String
  detail : String
  deriving DecidableEq, Repr

/-- `PluginListResponse`. -/
structure PluginListResponse where
  plugins : List PluginStatus
  diagnostics : List PluginInventoryDiagnostic
  deriving DecidableEq, Repr

/-- `plugin_list`. -/
def pluginList (cfg : CatalogCfg) (catalog : PluginCatalog) (state : PluginDeploymentState) :
    PluginListResponse where
  plugins := (pluginIds cfg catalog).map (pluginStatus cfg catalog state)
  diagnostics := catalog.diagnostics.map fun item =>
    ⟨item.manifestPath, item.pluginId, item.deployment.map deploymentName, item.detail⟩

/-- An enabled plugin is listed, under its trimmed id. -/
theorem mem_pluginList {cfg : CatalogCfg} {catalog : PluginCatalog} {state : PluginDeploymentState}
    {pluginId : String} (henabled : cfg.isEnabled pluginId = true) :
    pluginStatus cfg catalog state (trim pluginId) ∈ (pluginList cfg catalog state).plugins := by
  obtain ⟨selection, hselection, hboth⟩ := List.any_eq_true.mp henabled
  rw [Bool.and_eq_true, decide_eq_true_iff] at hboth
  refine List.mem_map.mpr ⟨trim pluginId, ?_, rfl⟩
  rw [pluginIds, List.mem_mergeSort, List.mem_dedup, ← hboth.2]
  exact List.mem_append_left _ (List.mem_map_of_mem hselection)

/-- One status for each id. -/
theorem eq_pluginStatus {cfg : CatalogCfg} {catalog : PluginCatalog}
    {state : PluginDeploymentState} {status : PluginStatus}
    (h : status ∈ (pluginList cfg catalog state).plugins) :
    status = pluginStatus cfg catalog state status.pluginId := by
  obtain ⟨pluginId, -, rfl⟩ := List.mem_map.mp h
  rfl

end ServiceCatalog

namespace ServiceDeployment

open ServiceControl ServiceCatalog ListUpdate Transition

/-! ## A request that ends well -/

section Effects

variable {cfg : RuntimeCfg} {s₀ s s' : Runtime} {request : MgmtRequest} {i : Nat} {t u : Task}
variable {e : TaskEvent}

/-- The plugin of a change is enabled. -/
def Admitted (cfg : RuntimeCfg) (request : MgmtRequest) : Prop :=
  ∀ c, request.change cfg = .ok (some c) → cfg.catalog.isEnabled c.pluginId = true

/-- What a change that ends well has made of memory, disk and catalog. -/
structure Effect (cfg : RuntimeCfg) (s₀ : Runtime) (c : Change) (s : Runtime) : Prop where
  enabled : cfg.catalog.isEnabled c.pluginId = true
  memory : s.deploymentState = s₀.deploymentState.change c
  disk : s.load cfg = .ok (s₀.deploymentState.change c)
  catalog : cfg.catalog.resolveCatalog s₀.inventory (s₀.deploymentState.change c) = .ok s.catalog

/-- How far the change has got, on the way on which it can end well. -/
def EffectAt (cfg : RuntimeCfg) (s₀ : Runtime) (request : MgmtRequest) (s : Runtime) :
    Phase → Prop
  | .queued | .dropped _ | .saving _ (some _) _ => True
  | .committing w _ => Admitted cfg request ∧ s.catalog = w.catalog
  | .done response => response.ok = true →
      ∀ c, request.change cfg = .ok (some c) → Effect cfg s₀ c s
  | _ => Admitted cfg request

theorem EffectAt.failed {text : String} :
    EffectAt cfg s₀ request s (.done (ServiceDeployment.failed text)) := fun h => nomatch h

theorem EffectAt.afterFailedReload {w : Work} {text : String} :
    EffectAt cfg s₀ request s (afterFailedReload w (ServiceDeployment.failed text)) :=
  afterFailedReload_cases (P := EffectAt cfg s₀ request s) (fun _ => .failed) (fun _ => trivial)

theorem EffectAt.afterFailedSave {error : ServiceRuntimeError}
    {restoring : Option ControlResponse} :
    EffectAt cfg s₀ request s (afterFailedSave error restoring) :=
  afterFailedSave_cases (P := EffectAt cfg s₀ request s) fun _ => .failed

theorem EffectAt.saving {w : Work} {restoring : Option ControlResponse} {at_ : SaveStep}
    (h : restoring = none → Admitted cfg request) :
    EffectAt cfg s₀ request s (.saving w restoring at_) := by
  cases restoring with
  | none => exact h rfl
  | some response => trivial

theorem EffectAt.admitted {w : Work} {restoring : Option ControlResponse} {at_ : SaveStep}
    (h : EffectAt cfg s₀ request s (.saving w restoring at_)) (hnone : restoring = none) :
    Admitted cfg request := by
  subst hnone
  exact h

theorem EffectAt.congr {p : Phase} (h : EffectAt cfg s₀ request s p) (hsame : SameView s s') :
    EffectAt cfg s₀ request s' p := by
  cases p with
  | committing w response => exact ⟨h.1, hsame.catalog.trans h.2⟩
  | done response =>
      intro hok c hc
      obtain ⟨henabled, hmemory, hdisk, hcatalog⟩ := h hok c hc
      exact ⟨henabled, hsame.memory.trans hmemory, hsame.load.trans hdisk,
        hcatalog.trans (congrArg Except.ok hsame.catalog.symm)⟩
  | saving w restoring at_ => exact .saving h.admitted
  | queued | dropped => trivial
  | scanning | readGeneration | bootstrapping | readLock | writingLock | reloading | replacing
  | reconciling => exact h

theorem EffectAt.begin : EffectAt cfg s₀ request s (begin cfg s request) := by
  simp only [ServiceDeployment.begin]
  split
  · intro h
    cases h
  · rename_i hnone
    intro c hc
    cases hnone.symm.trans hc
  · rename_i change hchange
    split
    · rename_i henabled
      intro c hc
      obtain rfl := Option.some.inj (Except.ok.inj (hchange.symm.trans hc))
      exact henabled
    · intro h
      cases h

/-- A step that writes nothing. -/
theorem QuietStep.effectAt {p : Phase} (q : QuietStep cfg s t e p) (hrequest : t.request = request)
    (hsolo : SoloAt cfg s₀ request s t.faults t.phase) (h : EffectAt cfg s₀ request s t.phase) :
    EffectAt cfg s₀ request s p := by
  cases q with
  | begin hp =>
      rw [hrequest]
      exact .begin
  | dropQueued | dropBootstrap | dropReconcile => trivial
  | resolved change previous next catalog hp hcatalog =>
      rw [hp] at h
      exact afterScan_cases (P := EffectAt cfg s₀ request s) (fun _ => h) (fun _ => h)
  | saveDir w restoring hp | saveSerialize w restoring bytes hp =>
      rw [hp] at h
      exact .saving h.admitted
  | generation _ _ hp | bootstrapped _ hp | lockRead _ hp | lockDir _ _ hp
  | lockSerialize _ _ _ hp =>
      rw [hp] at h
      exact h
  | reconciled r changes errors hp =>
      rw [hp] at h hsolo
      obtain ⟨-, hcatalog, hwork⟩ := hsolo
      refine afterReload_cases (P := EffectAt cfg s₀ request s) (fun hnone _ c hc => ?_)
        (fun _ => ⟨h, hcatalog⟩)
      have := hwork.change
      rw [hnone, hc] at this
      exact nomatch this

/-- A step that fails and writes nothing. -/
theorem QuietFail.effectAt {fault : Fault} {p : Phase} (q : QuietFail cfg s i t e fault p)
    (h : EffectAt cfg s₀ request s t.phase) : EffectAt cfg s₀ request s p := by
  cases q with
  | scan | resolve => exact .failed
  | save => exact .afterFailedSave
  | coreGone | bootstrap | lock | coreGoneLate => exact .afterFailedReload
  | lockRead r detail hp =>
      rw [hp] at h
      exact h

theorem TaskMove.effectAt (m : TaskMove cfg s i t e s') (ht : s.tasks[i]? = some t)
    (hu : s'.tasks[i]? = some u) (hrequest : t.request = request)
    (hdisk : DiskAt cfg (s₀.load cfg) s t.phase)
    (hsolo : SoloAt cfg s₀ request s t.faults t.phase) (h : EffectAt cfg s₀ request s t.phase) :
    EffectAt cfg s₀ request s' u.phase := by
  cases m with
  | quiet _ p q =>
      rw [getElem?_setPhase ht] at hu
      cases hu
      exact (q.effectAt hrequest hsolo h).congr ⟨rfl, rfl, rfl, rfl, fun _ hh => hh⟩
  | quietFail _ fault p q =>
      rw [getElem?_setFailed ht] at hu
      cases hu
      exact (q.effectAt h).congr ⟨rfl, rfl, rfl, rfl, fun _ hh => hh⟩
  | writePending w restoring bytes hp | removeOld w restoring hp =>
      cases (getElem?_modify_self ht).symm.trans hu
      rw [hp] at h
      exact .saving h.admitted
  | leavePending =>
      cases (getElem?_modify_self ht).symm.trans hu
      exact .afterFailedSave
  | rename w restoring bytes hp hb =>
      cases (getElem?_modify_self ht).symm.trans hu
      rw [hp] at h hsolo
      cases restoring with
      | none => exact h
      | some response =>
          intro hok
          rw [hsolo.2.2.1] at hok
          exact nomatch hok
  | writeLock _ _ _ hp | install _ _ _ _ hp | replace _ _ hp =>
      cases (getElem?_modify_self ht).symm.trans hu
      rw [hp] at h
      exact h
  | leaveLock | reloadFail | restoreFail =>
      cases (getElem?_modify_self ht).symm.trans hu
      exact .afterFailedReload
  | commit w response hp =>
      cases (getElem?_modify_self ht).symm.trans hu
      rw [hp] at h hsolo hdisk
      obtain ⟨hadmitted, hcatalog⟩ := h
      obtain ⟨hwork, -⟩ := hsolo
      intro _ c hc
      have hchange : w.change = some c := Except.ok.inj (hwork.change.symm.trans hc)
      have hnext : w.next = s₀.deploymentState.change c := by
        rw [hwork.next, hchange]
        rfl
      refine ⟨hadmitted c hc, hnext, ?_, ?_⟩
      · have hload : s.load cfg = settled (s₀.load cfg) w := hdisk
        rw [settled, hchange, hnext] at hload
        exact hload
      · rw [← hnext]
        exact hwork.catalog.trans (congrArg Except.ok hcatalog.symm)

/-- A change that runs alone and ends well has been made. -/
theorem effect_of_reaches (hversion : s₀.deploymentState.version = deploymentStateVersion)
    (h : Reaches (step cfg) (Solo s₀.tasks.length) (s₀.arrive request) s) :
    ∃ t, s.tasks[s₀.tasks.length]? = some t ∧ EffectAt cfg s₀ request s t.phase := by
  have hboth : Alone cfg s₀ request s ∧
      ∃ t, s.tasks[s₀.tasks.length]? = some t ∧ EffectAt cfg s₀ request s t.phase := by
    refine h.invariant (P := fun s => Alone cfg s₀ request s ∧
      ∃ t, s.tasks[s₀.tasks.length]? = some t ∧ EffectAt cfg s₀ request s t.phase)
      ⟨Alone.init, ⟨request, .queued, []⟩, getElem?_concat_self, trivial⟩ ?_
    rintro s ev s' ⟨halone, t, ht, hat⟩ hsolo hs
    refine ⟨halone.preserved hversion hsolo hs, ?_⟩
    obtain ⟨-, t', ht', hrequest, hdisk, hsoloAt⟩ := halone
    cases ht.symm.trans ht'
    cases step_move hs with
    | request | inventory => exact absurd hsolo id
    | takeCore => exact ⟨t, ht, hat.congr ⟨rfl, rfl, rfl, rfl, nofun⟩⟩
    | task j u te _ hu m =>
        cases (show j = s₀.tasks.length from hsolo)
        cases ht.symm.trans hu
        obtain ⟨v, hv, -⟩ := m.moved ht
        exact ⟨v, hv, m.effectAt ht hv hrequest hdisk hsoloAt hat⟩
  exact hboth.2

end Effects

/-! ## Whether it counts -/

/-- The record of a plugin in a catalog. -/
def activeRecord (catalog : PluginCatalog) (pluginId : String) : Option PluginRecord :=
  catalog.records.find? fun record => record.manifest.pluginId = pluginId

/-- The plugin runs with the deployment `d`, is listed with it, and gets it
    again after a restart. -/
structure TakesEffect (cfg : RuntimeCfg) (s : Runtime) (pluginId : String)
    (d : PluginDeploymentKind) : Prop where
  active : ∃ record, activeRecord s.catalog (trim pluginId) = some record ∧
    cfg.catalog.deploymentFor record = d
  listed : ∃ status ∈ (pluginList cfg.catalog s.catalog s.deploymentState).plugins,
    status.pluginId = trim pluginId ∧ status.preferredDeployment = some (deploymentName d)
  restarted : ∃ state catalog record, s.load cfg = .ok state ∧
    cfg.catalog.resolveCatalog s.inventory state = .ok catalog ∧
      activeRecord catalog (trim pluginId) = some record ∧ cfg.catalog.deploymentFor record = d

/-- No choice is stored under an id, in memory or on the disk. -/
def NoChoice (cfg : RuntimeCfg) (s : Runtime) (id : String) : Prop :=
  s.deploymentState.plugins.lookup id = none ∧
    ∃ state, s.load cfg = .ok state ∧ state.plugins.lookup id = none

section Counts

variable {cfg : RuntimeCfg} {s₀ s : Runtime} {c : Change}

theorem activeRecord_id {catalog : PluginCatalog} {pluginId : String} {record : PluginRecord}
    (h : activeRecord catalog pluginId = some record) :
    record ∈ catalog.records ∧ record.manifest.pluginId = pluginId :=
  ⟨List.mem_of_find?_eq_some h, by simpa using List.find?_some h⟩

/-- The stored choice decides which record is active. -/
theorem activeRecord_of_stored {inventory : PluginInventory} {state : PluginDeploymentState}
    {catalog : PluginCatalog} {pluginId : String} {d : PluginDeploymentKind}
    (hresolve : cfg.catalog.resolveCatalog inventory state = .ok catalog)
    (henabled : cfg.catalog.isEnabled pluginId = true)
    (hstored : state.plugins.lookup (trim pluginId) = some d) :
    ∃ record, activeRecord catalog (trim pluginId) = some record ∧
      cfg.catalog.deploymentFor record = d := by
  obtain ⟨record, hmem, hid⟩ := CatalogCfg.exists_resolved hresolve henabled
  have hfound : (activeRecord catalog (trim pluginId)).isSome := by
    rw [activeRecord, List.find?_isSome]
    exact ⟨record, hmem, by simpa using hid⟩
  obtain ⟨active, hactive⟩ := Option.isSome_iff_exists.mp hfound
  obtain ⟨hmem', hid'⟩ := activeRecord_id hactive
  exact ⟨active, hactive, CatalogCfg.resolved_deployment hresolve hstored hmem' hid'⟩

/-- A change that has been made takes effect when the choice is stored under the
    trimmed id. -/
theorem Effect.takesEffect_iff (h : Effect cfg s₀ c s) (hinventory : s.inventory = s₀.inventory)
    {d : PluginDeploymentKind} : TakesEffect cfg s c.pluginId d ↔
      (s₀.deploymentState.change c).plugins.lookup (trim c.pluginId) = some d := by
  obtain ⟨henabled, hmemory, hdisk, hcatalog⟩ := h
  constructor
  · rintro ⟨⟨record, hrecord, hd⟩, ⟨status, hstatus, hid, hpreferred⟩, -⟩
    -- some choice is listed, and the active record is of that choice
    rw [eq_pluginStatus hstatus, hid, hmemory] at hpreferred
    obtain ⟨stored, hstored, -⟩ := Option.map_eq_some_iff.mp hpreferred
    obtain ⟨hmem, hrecordId⟩ := activeRecord_id hrecord
    rw [hstored, ← CatalogCfg.resolved_deployment hcatalog hstored hmem hrecordId, hd]
  · intro hstored
    refine ⟨activeRecord_of_stored hcatalog henabled hstored,
      ⟨_, mem_pluginList henabled, rfl, ?_⟩, ?_⟩
    · rw [pluginStatus, hmemory, hstored]
      rfl
    · obtain ⟨record, hrecord, hd⟩ := activeRecord_of_stored hcatalog henabled hstored
      exact ⟨_, s.catalog, record, hdisk, hinventory ▸ hcatalog, hrecord, hd⟩

/-- No choice is left where the changed choices have none. -/
theorem Effect.noChoice_iff (h : Effect cfg s₀ c s) (id : String) :
    NoChoice cfg s id ↔ (s₀.deploymentState.change c).plugins.lookup id = none := by
  rw [NoChoice, h.memory]
  constructor
  · exact fun hnone => hnone.1
  · exact fun hnone => ⟨hnone, _, h.disk, hnone⟩

end Counts

/-- **A CHANGE TAKES EFFECT** exactly when its plugin id is trimmed or the choice
    under the trimmed id is the wanted one already: the choice is stored under
    the id as sent and looked up under the trimmed one.  A clear leaves no choice
    under any spelling of the id exactly when none was stored under another. -/
theorem change_takes_effect_iff {cfg : RuntimeCfg} {s₁ s₀ s : Runtime} (htasks : s₁.tasks = [])
    (hload : s₁.load cfg = .ok s₁.deploymentState) (hreach : Reaches (step cfg) Free s₁ s₀)
    (request : MgmtRequest) {c : Change} (hchange : request.change cfg = .ok (some c))
    (h : Reaches (step cfg) (Solo s₀.tasks.length) (s₀.arrive request) s)
    {response : ControlResponse} {faults : List Fault}
    (hend : s.tasks[s₀.tasks.length]? = some ⟨request, .done response, faults⟩)
    (hresponse : response.ok = true) :
    (∀ d, c.deployment = some d → (TakesEffect cfg s c.pluginId d ↔
      trim c.pluginId = c.pluginId ∨
        s₀.deploymentState.plugins.lookup (trim c.pluginId) = some d)) ∧
    (c.deployment = none →
      (NoChoice cfg s (trim c.pluginId) ↔ trim c.pluginId = c.pluginId ∨
        s₀.deploymentState.plugins.lookup (trim c.pluginId) = none) ∧
      ((∀ id, trim id = trim c.pluginId → NoChoice cfg s id) ↔
        ∀ id, trim id = trim c.pluginId → id ≠ c.pluginId →
          s₀.deploymentState.plugins.lookup id = none)) := by
  have hwork : WorkInv cfg s₀ := by
    refine hreach.invariant (P := WorkInv cfg) (WorkInv.init htasks hload) ?_
    intro s e s' hinv _ hs
    exact hinv.preserved hs
  have hinventory : s.inventory = s₀.inventory := (Alone.of_reaches hwork.version h).inventory
  obtain ⟨t, ht, hat⟩ := effect_of_reaches hwork.version h
  cases ht.symm.trans hend
  have heffect : Effect cfg s₀ c s := hat hresponse c hchange
  constructor
  · intro d hd
    rw [heffect.takesEffect_iff hinventory, lookup_change, hd]
    by_cases hid : trim c.pluginId = c.pluginId
    · simp [hid]
    · simp [hid]
  · intro hnone
    constructor
    · rw [heffect.noChoice_iff, lookup_change, hnone]
      by_cases hid : trim c.pluginId = c.pluginId
      · simp [hid]
      · simp [hid]
    · simp only [heffect.noChoice_iff, lookup_change, hnone]
      constructor
      · intro hall id hid hne
        simpa [hne] using hall id hid
      · intro hall id hid
        by_cases hne : id = c.pluginId
        · rw [if_pos hne]
        · rw [if_neg hne]
          exact hall id hid hne

/-- The last steps of a change that ends well. -/
def endedBy (i : Nat) : List Event :=
  savedBy i ++ swappedBy i ++ [.task i .ok, .task i (.reconciled []), .task i .ok]

/-- `echo` set to its ABI artifact. -/
def setRuntime : Runtime :=
  (run (step sampleCfg) (Solo 0) (sampleRuntime.arrive setEcho) (endedBy 0)).getD sampleRuntime

theorem change_takes_effect_sample : TakesEffect sampleCfg setRuntime "echo" .abi := by
  have hrun : Reaches (step sampleCfg) (Solo 0) (sampleRuntime.arrive setEcho) setRuntime :=
    reaches_getD (by decide)
  obtain ⟨response, hend, hok⟩ : ∃ response : ControlResponse,
      setRuntime.tasks[0]? = some ⟨setEcho, .done response, []⟩ ∧ response.ok = true :=
    ⟨_, by rfl, by rfl⟩
  have hchange : setEcho.change sampleCfg = .ok (some abiEcho) := rfl
  have hinit : Reaches (step sampleCfg) Free sampleRuntime sampleRuntime := Reaches.init
  exact ((change_takes_effect_iff rfl rfl hinit setEcho hchange hrun hend hok).1
    .abi rfl).mpr (.inl (by decide))

/-- A choice under an id with a space in front. -/
def spacedEcho : Change := ⟨" echo", some .abi⟩

/-- The texts of no choice and of that one. -/
def spacedTable : List (PluginDeploymentState × List UInt8) :=
  [(.default, asciiBytes "\x7b\n  \"version\": 1,\n  \"plugins\": \x7b\x7d\n\x7d"),
    (PluginDeploymentState.default.change spacedEcho, asciiBytes
      "\x7b\n  \"version\": 1,\n  \"plugins\": \x7b\n    \" echo\": \"abi\"\n  \x7d\n\x7d")]

set_option maxRecDepth 4000 in
theorem spacedTable_texts : (spacedTable.map Prod.snd).Nodup := by decide

def spacedCfg : RuntimeCfg :=
  { sampleCfg with
    catalog := { sampleCatalogCfg with format := tableFormat spacedTable spacedTable_texts } }

/-- The choice of the ABI artifact of `echo`, with a space in front. -/
def setSpacedEcho : MgmtRequest := .pluginDeploymentSet (abiParams " echo")

def spacedRuntime : Runtime :=
  (run (step spacedCfg) (Solo 0) (sampleRuntime.arrive setSpacedEcho) (endedBy 0)).getD
    sampleRuntime

/-- **A SPACE IN THE ID**: the change is admitted and answered with success; the
    builtin `echo` runs on, and no choice is listed for it. -/
theorem spaced_id_takes_no_effect :
    sampleRuntime.load spacedCfg = .ok sampleRuntime.deploymentState ∧
      Reaches (step spacedCfg) (Solo 0) (sampleRuntime.arrive setSpacedEcho) spacedRuntime ∧
      (∃ response : ControlResponse, spacedRuntime.tasks[0]? =
        some ⟨setSpacedEcho, .done response, []⟩ ∧ response.ok = true) ∧
      trim " echo" = "echo" ∧
      activeRecord spacedRuntime.catalog "echo" = some (sampleRecord "echo" .native) ∧
      ¬ TakesEffect spacedCfg spacedRuntime " echo" .abi := by
  have hactive : activeRecord spacedRuntime.catalog (trim " echo") =
      some (sampleRecord "echo" .native) := by decide
  refine ⟨rfl, reaches_getD (by decide), ⟨_, by rfl, by rfl⟩, by decide, by decide, ?_⟩
  rintro ⟨⟨record, hrecord, hd⟩, -, -⟩
  obtain rfl := Option.some.inj (hactive.symm.trans hrecord)
  exact absurd hd (by decide)

end ServiceDeployment
