import MutsukiServiceHost.ServiceEffectProofs
import MutsukiServiceHost.ServiceStagingProofs
import MutsukiServiceHost.ServiceSupervisorProofs

/-! # Booting a catalog — who runs a plugin

    `runtime_bootstrapper` registers the plugins of a catalog with Core, and
    `sidecar_specs` gives the external processes that the supervisor runs.  Three
    conditions written apart decide which record goes where:
    `is_bootable_record`, the branch for ABI artifacts and for factories of
    loaded plugins, and `external_records` with `sidecar_specs`.  The file says
    for which catalogs every record is run, and by one of them only. -/

namespace ServiceBoot

open ServiceCatalog (PluginDeploymentKind ArtifactType trim)
open ServiceLoader ServiceSupervisor
open ServiceLoad (PathBuf)

/-! ## What a boot starts -/

/-- An environment, a `BTreeMap`. -/
abbrev Environment := Std.ExtTreeMap String String compare

/-- `ProcessRunnerSpec`. -/
structure ProcessRunnerSpec where
  command : String
  args : List String
  cwd : Option PathBuf
  env : Environment

/-- The parts of a `LoadedPlugin` that the boot reads; the business surface is
    that of its manifest. -/
structure LoadedPlugin where
  manifest : PluginManifest
  runners : List RunnerDescriptor
  deriving DecidableEq, Repr

/-- A runner that Core reaches over the standard streams of its process. -/
structure ExternalRunner where
  deployment : PluginDeploymentKind
  descriptor : RunnerDescriptor
  spec : ProcessRunnerSpec

/-- What is registered with a `RuntimeBootstrapper`. -/
structure Bootstrapper where
  loadedPlugins : List LoadedPlugin
  manifests : List PluginManifest
  externalRunners : List ExternalRunner
  builtinRunners : List RunnerDescriptor
  /-- the plugin ids of the handlers -/
  asyncHandlers : List String

/-- The parts of a `RuntimeProfile` that depend on the boot. -/
structure RuntimeProfile where
  profileId : String
  enabledPlugins : List String
  pluginDeployments : Std.ExtTreeMap String PluginDeploymentKind compare

/-- The errors of `runtime_bootstrapper`. -/
inductive BootError where
  | abiPlugin (pluginId detail : String)
  | nativeRunnerFactory (detail : String)
  | businessSurfaceMismatch (pluginId : String)
  | unsupportedRunnerLink (pluginId link : String)
  | externalRunnerSpawn (runnerId detail : String)
  deriving DecidableEq, Repr

/-- The parts of the configuration that the boot reads. -/
structure BootCfg where
  loader : LoaderCfg
  homeDir : PathBuf
  profile : String
  envAllowlist : List String
  controlToken : String

/-- The process environment, the loading of ABI plugins and the spawning of
    processes, and the factories of the product. -/
structure BootHost where
  var : String → Option String
  openAbi : PluginRecord → Except String Unit
  spawn : RunnerDescriptor → ProcessRunnerSpec → Except String Unit
  nativeRunners : List (Except String RunnerDescriptor)
  asyncHandlers : List (Except String String)
  loadedPlugins : String → Option (Except String LoadedPlugin)

/-- `filtered_environment`. -/
def filteredEnvironment (var : String → Option String) (allowlist : List String)
    (extra : Environment) : Environment :=
  let envs := allowlist.foldl (fun (envs : Environment) key =>
    match var key with
    | some value => envs.insert key value
    | none => envs) ∅
  extra.toList.foldl (fun envs entry => envs.insert entry.1 entry.2) envs

/-! ## `runtime_bootstrapper` -/

/-- `is_bootable_record`. -/
def isBootableRecord (record : PluginRecord) : Bool :=
  record.runtime.isNone ||
    (record.runtime.map fun runtime => decide (runtime.runnerLink = "jsonl-stdio")).getD false

/-- `load_abi_plugin`: the runners are those that the manifest declares. -/
def loadAbiPlugin (host : BootHost) (record : PluginRecord) : Except BootError LoadedPlugin :=
  let pluginId := record.manifest.pluginId
  match record.resolvedArtifact with
  | none => .error (.abiPlugin pluginId "validated artifact path is missing")
  | some _ =>
      match host.openAbi record with
      | .error detail => .error (.abiPlugin pluginId detail)
      | .ok () => .ok ⟨record.manifest, record.manifest.runners⟩

/-- The process of a runner. -/
def processRunnerSpec (cfg : BootCfg) (host : BootHost) (runtime : ExternalRuntimeSpec)
    (descriptor : RunnerDescriptor) : ProcessRunnerSpec where
  command := runtime.command
  args := runtime.args
  cwd := runtime.cwd
  env :=
    let extra : Environment := Std.ExtTreeMap.ofList runtime.env compare
    filteredEnvironment host.var cfg.envAllowlist
      (((extra.insert "MUTSUKI_HOME" (display cfg.homeDir)).insert "MUTSUKI_RUNNER_ID"
        descriptor.runnerId).insert "MUTSUKI_PLUGIN_ID" descriptor.pluginId)

/-- The loop of `register_stdio_runners`. -/
def spawnRunners (cfg : BootCfg) (host : BootHost) (runtime : ExternalRuntimeSpec)
    (deployment : PluginDeploymentKind) :
    List RunnerDescriptor → Except BootError (List ExternalRunner)
  | [] => .ok []
  | descriptor :: descriptors =>
      let spec := processRunnerSpec cfg host runtime descriptor
      match host.spawn descriptor spec with
      | .error detail => .error (.externalRunnerSpawn descriptor.runnerId detail)
      | .ok () =>
          match spawnRunners cfg host runtime deployment descriptors with
          | .error e => .error e
          | .ok runners => .ok (⟨deployment, descriptor, spec⟩ :: runners)

/-- `register_stdio_runners`. -/
def registerStdioRunners (cfg : BootCfg) (host : BootHost) (record : PluginRecord)
    (runtime : ExternalRuntimeSpec) (deployment : PluginDeploymentKind) :
    Except BootError (List ExternalRunner) :=
  if runtime.runnerLink ≠ "jsonl-stdio" then
    .error (.unsupportedRunnerLink record.manifest.pluginId runtime.runnerLink)
  else spawnRunners cfg host runtime deployment record.manifest.runners

/-- The plugin of a bootable record: loaded, or none for a manifest that is
    registered alone. -/
def loadPlugin (host : BootHost) (record : PluginRecord) :
    Except BootError (Option LoadedPlugin) :=
  if record.manifest.artifactType = .abi then
    match loadAbiPlugin host record with
    | .error e => .error e
    | .ok plugin => .ok (some plugin)
  else match host.loadedPlugins record.manifest.pluginId with
    | none => .ok none
    | some (.error detail) => .error (.nativeRunnerFactory detail)
    | some (.ok plugin) =>
        if plugin.manifest.businessSurface ≠ record.manifest.businessSurface then
          .error (.businessSurfaceMismatch record.manifest.pluginId)
        else .ok (some plugin)

/-- The external runners of a bootable record. -/
def externalRunners (cfg : BootCfg) (host : BootHost) (record : PluginRecord) :
    Except BootError (List ExternalRunner) :=
  match record.runtime with
  | none => .ok []
  | some runtime =>
      registerStdioRunners cfg host record runtime (cfg.loader.deployment record.manifest)

/-- `register_loaded_plugin` or `register_manifest`. -/
def Bootstrapper.registerPlugin (b : Bootstrapper) (manifest : PluginManifest) :
    Option LoadedPlugin → Bootstrapper
  | some plugin => { b with loadedPlugins := b.loadedPlugins ++ [plugin] }
  | none => { b with manifests := b.manifests ++ [manifest] }

/-- `register_external_runner`, for several runners. -/
def Bootstrapper.registerExternal (b : Bootstrapper) (runners : List ExternalRunner) :
    Bootstrapper :=
  { b with externalRunners := b.externalRunners ++ runners }

/-- A profile with one plugin more. -/
def RuntimeProfile.enable (cfg : BootCfg) (profile : RuntimeProfile) (record : PluginRecord) :
    RuntimeProfile :=
  { profile with
    enabledPlugins := profile.enabledPlugins ++ [record.manifest.pluginId]
    pluginDeployments := profile.pluginDeployments.insert record.manifest.pluginId
      (cfg.loader.deployment record.manifest) }

/-- The loop over the records of the catalog. -/
def bootLoop (cfg : BootCfg) (host : BootHost) :
    Bootstrapper × RuntimeProfile → List PluginRecord →
      Except BootError (Bootstrapper × RuntimeProfile)
  | boot, [] => .ok boot
  | (b, profile), record :: records =>
      if !isBootableRecord record then bootLoop cfg host (b, profile) records
      else match loadPlugin host record with
        | .error e => .error e
        | .ok plugin =>
            match externalRunners cfg host record with
            | .error e => .error e
            | .ok runners =>
                bootLoop cfg host
                  ((b.registerPlugin record.manifest plugin).registerExternal runners,
                    profile.enable cfg record) records

/-- A loop over factories: what is made for a builtin plugin is registered. -/
def factoryLoop {α : Type} (pluginId : α → String) (register : Bootstrapper → α → Bootstrapper)
    (profile : RuntimeProfile) :
    Bootstrapper → List (Except String α) → Except BootError Bootstrapper
  | b, [] => .ok b
  | _, .error detail :: _ => .error (.nativeRunnerFactory detail)
  | b, .ok made :: factories =>
      if profile.pluginDeployments[pluginId made]? = some .builtin then
        factoryLoop pluginId register profile (register b made) factories
      else factoryLoop pluginId register profile b factories

/-- `register_builtin_runner`. -/
def Bootstrapper.registerBuiltinRunner (b : Bootstrapper) (descriptor : RunnerDescriptor) :
    Bootstrapper :=
  { b with builtinRunners := b.builtinRunners ++ [descriptor] }

/-- `register_async_handler`. -/
def Bootstrapper.registerAsyncHandler (b : Bootstrapper) (pluginId : String) : Bootstrapper :=
  { b with asyncHandlers := b.asyncHandlers ++ [pluginId] }

/-- The loop over the native runner factories. -/
def nativeLoop (profile : RuntimeProfile) :
    Bootstrapper → List (Except String RunnerDescriptor) → Except BootError Bootstrapper :=
  factoryLoop (·.pluginId) Bootstrapper.registerBuiltinRunner profile

/-- The loop over the factories of asynchronous handlers. -/
def asyncLoop (profile : RuntimeProfile) :
    Bootstrapper → List (Except String String) → Except BootError Bootstrapper :=
  factoryLoop id Bootstrapper.registerAsyncHandler profile

/-- `runtime_bootstrapper` on the records of a catalog. -/
def runtimeBootstrapper (cfg : BootCfg) (host : BootHost) (records : List PluginRecord) :
    Except BootError (Bootstrapper × RuntimeProfile) :=
  match bootLoop cfg host (⟨[], [], [], [], []⟩, ⟨cfg.profile, [], ∅⟩) records with
  | .error e => .error e
  | .ok (b, profile) =>
      match nativeLoop profile b host.nativeRunners with
      | .error e => .error e
      | .ok b =>
          match asyncLoop profile b host.asyncHandlers with
          | .error e => .error e
          | .ok b => .ok (b, profile)

/-! ## Sidecars -/

/-- The records of `PluginCatalog::external_records`. -/
def isExternal (record : PluginRecord) : Bool :=
  record.manifest.artifactType = .process || record.manifest.artifactType = .python

/-- The sidecar of an external record, if it has one. -/
def sidecarSpec (cfg : BootCfg) (record : PluginRecord) : Option ManagedRunnerSpec :=
  match record.runtime with
  | none => none
  | some runtime =>
      if runtime.runnerLink = "jsonl-stdio" ∧ record.manifest.runners ≠ [] then none
      else some
        { runnerId := ((record.manifest.runners.head?).map (·.runnerId)).getD
            ("sidecar:" ++ record.manifest.pluginId)
          pluginId := record.manifest.pluginId
          runtime := runtime
          envAllowlist := cfg.envAllowlist
          serviceHome := cfg.homeDir
          sessionToken := cfg.controlToken }

/-- `sidecar_specs`. -/
def sidecarSpecs (cfg : BootCfg) (records : List PluginRecord) : List ManagedRunnerSpec :=
  (records.filter isExternal).filterMap (sidecarSpec cfg)

/-! ## Catalogs -/

/-- An inventory as the deployment resolver sees it. -/
def inventoryView (inventory : PluginInventory) : ServiceCatalog.PluginInventory where
  records := inventory.records.map (·.view)
  diagnostics := inventory.diagnostics.map fun item =>
    ⟨display item.manifestPath, item.pluginId, item.deployment, item.detail⟩

/-- The records that `resolve_catalog` selects from an inventory. -/
structure Resolved (catalogCfg : ServiceCatalog.CatalogCfg) (inventory : PluginInventory)
    (preferences : ServiceCatalog.PluginDeploymentState) (records : List PluginRecord) : Prop where
  found : ∀ record ∈ records, record ∈ inventory.records
  selected : ∃ catalog, catalogCfg.resolveCatalog (inventoryView inventory) preferences =
    .ok catalog ∧ catalog.records = records.map (·.view)

theorem isBootableRecord_view (record : PluginRecord) :
    isBootableRecord record = record.view.isBootable := by
  obtain ⟨path, manifest, runtime, artifact⟩ := record
  cases runtime <;> rfl

/-- The records of one plugin are alike. -/
theorem Resolved.view_eq {catalogCfg : ServiceCatalog.CatalogCfg} {inventory : PluginInventory}
    {preferences : ServiceCatalog.PluginDeploymentState} {records : List PluginRecord}
    (h : Resolved catalogCfg inventory preferences records) {a b : PluginRecord}
    (ha : a ∈ records) (hb : b ∈ records) (hid : a.manifest.pluginId = b.manifest.pluginId) :
    a.view = b.view := by
  obtain ⟨catalog, hresolve, hrecords⟩ := h.selected
  have hchosen : ∀ record ∈ records, ∃ selection : ServiceCatalog.PluginSelection,
      catalogCfg.choose (inventoryView inventory) preferences selection = .ok record.view ∧
        record.manifest.pluginId = trim selection.id := by
    intro record hrecord
    have hmem : record.view ∈ catalog.records := by
      rw [hrecords]
      exact List.mem_map_of_mem hrecord
    obtain ⟨selection, -, hchoose⟩ := ListUpdate.exists_partner
      (ServiceCatalog.CatalogCfg.resolveCatalog_ok hresolve).flip hmem
    exact ⟨selection, hchoose, (ServiceCatalog.CatalogCfg.choose_ok hchoose).1⟩
  obtain ⟨x, hx, hxid⟩ := hchosen a ha
  obtain ⟨y, hy, hyid⟩ := hchosen b hb
  have htrim : trim x.id = trim y.id := by rw [← hxid, ← hyid, hid]
  have hsame : catalogCfg.choose (inventoryView inventory) preferences x =
      catalogCfg.choose (inventoryView inventory) preferences y := by
    unfold ServiceCatalog.CatalogCfg.choose
    rw [htrim]
  exact Except.ok.inj (hx.symm.trans (hsame.trans hy))

/-! ## What the boot registers -/

section Boot

variable {cfg : BootCfg} {host : BootHost}

/-- Core has a runner for the descriptor from a loaded plugin. -/
def Bootstrapper.HasLoaded (b : Bootstrapper) (d : RunnerDescriptor) : Prop :=
  ∃ plugin ∈ b.loadedPlugins, d ∈ plugin.runners

/-- Core has an external runner for the descriptor. -/
def Bootstrapper.HasExternal (b : Bootstrapper) (d : RunnerDescriptor) : Prop :=
  ∃ runner ∈ b.externalRunners, runner.descriptor = d

/-- The descriptor comes with the plugin that is loaded for a record: an ABI
    plugin has the runners of its manifest, another one those of its factory. -/
def LoadedWith (host : BootHost) (record : PluginRecord) (d : RunnerDescriptor) : Prop :=
  if record.manifest.artifactType = .abi then d ∈ record.manifest.runners
  else ∃ plugin, host.loadedPlugins record.manifest.pluginId = some (.ok plugin) ∧
    d ∈ plugin.runners

/-- The descriptor is one of a record that has an external runtime. -/
def SpawnedWith (record : PluginRecord) (d : RunnerDescriptor) : Prop :=
  record.runtime.isSome = true ∧ d ∈ record.manifest.runners

theorem loadPlugin_ok {record : PluginRecord} {plugin : Option LoadedPlugin}
    (h : loadPlugin host record = .ok plugin) (d : RunnerDescriptor) :
    (∃ p ∈ plugin, d ∈ p.runners) ↔ LoadedWith host record d := by
  rw [loadPlugin] at h
  rw [LoadedWith]
  split at h
  · rename_i habi
    rw [if_pos habi]
    split at h
    · exact nomatch h
    · rename_i loaded hloaded
      rw [← Except.ok.inj h]
      rw [loadAbiPlugin] at hloaded
      split at hloaded
      · exact nomatch hloaded
      · split at hloaded
        · exact nomatch hloaded
        · rw [← Except.ok.inj hloaded]
          simp
  · rename_i habi
    rw [if_neg habi]
    split at h
    · rename_i hnone
      rw [← Except.ok.inj h, hnone]
      simp
    · exact nomatch h
    · rename_i loaded hloaded
      obtain ⟨-, h⟩ := of_check_ok h
      rw [← Except.ok.inj h, hloaded]
      simp

theorem spawnRunners_ok {runtime : ExternalRuntimeSpec} {deployment : PluginDeploymentKind}
    {descriptors : List RunnerDescriptor} {runners : List ExternalRunner}
    (h : spawnRunners cfg host runtime deployment descriptors = .ok runners) :
    runners.map (·.descriptor) = descriptors := by
  induction descriptors generalizing runners with
  | nil => rw [← Except.ok.inj h, List.map_nil]
  | cons descriptor descriptors ih =>
      rw [spawnRunners] at h
      split at h
      · exact nomatch h
      · split at h
        · exact nomatch h
        · rename_i rest hrest
          rw [← Except.ok.inj h, List.map_cons, ih hrest]

theorem externalRunners_ok {record : PluginRecord} {runners : List ExternalRunner}
    (h : externalRunners cfg host record = .ok runners) (d : RunnerDescriptor) :
    (∃ runner ∈ runners, runner.descriptor = d) ↔ SpawnedWith record d := by
  rw [SpawnedWith]
  rw [externalRunners] at h
  split at h
  · rename_i hnone
    rw [← Except.ok.inj h, hnone]
    simp
  · rename_i runtime hruntime
    obtain ⟨-, h⟩ := of_check_ok h
    rw [hruntime, ← spawnRunners_ok h, List.mem_map]
    simp

theorem hasLoaded_registerPlugin {b : Bootstrapper} {manifest : PluginManifest}
    {plugin : Option LoadedPlugin} {d : RunnerDescriptor} :
    (b.registerPlugin manifest plugin).HasLoaded d ↔
      b.HasLoaded d ∨ ∃ p ∈ plugin, d ∈ p.runners := by
  cases plugin with
  | none => simp [Bootstrapper.registerPlugin, Bootstrapper.HasLoaded]
  | some plugin =>
      simp [Bootstrapper.registerPlugin, Bootstrapper.HasLoaded, or_and_right, exists_or]

theorem hasExternal_registerPlugin {b : Bootstrapper} {manifest : PluginManifest}
    {plugin : Option LoadedPlugin} {d : RunnerDescriptor} :
    (b.registerPlugin manifest plugin).HasExternal d ↔ b.HasExternal d := by
  cases plugin <;> rfl

theorem hasExternal_registerExternal {b : Bootstrapper} {runners : List ExternalRunner}
    {d : RunnerDescriptor} : (b.registerExternal runners).HasExternal d ↔
      b.HasExternal d ∨ ∃ runner ∈ runners, runner.descriptor = d := by
  simp [Bootstrapper.registerExternal, Bootstrapper.HasExternal, or_and_right, exists_or]

/-- **THE LOOP OF THE BOOT**: what it enables and registers. -/
theorem bootLoop_ok {records : List PluginRecord} {b b' : Bootstrapper}
    {profile profile' : RuntimeProfile}
    (h : bootLoop cfg host (b, profile) records = .ok (b', profile')) :
    (∀ id, id ∈ profile'.enabledPlugins ↔ id ∈ profile.enabledPlugins ∨
      ∃ record ∈ records, isBootableRecord record = true ∧ record.manifest.pluginId = id) ∧
    (∀ d, b'.HasLoaded d ↔ b.HasLoaded d ∨
      ∃ record ∈ records, isBootableRecord record = true ∧ LoadedWith host record d) ∧
    (∀ d, b'.HasExternal d ↔ b.HasExternal d ∨
      ∃ record ∈ records, isBootableRecord record = true ∧ SpawnedWith record d) := by
  induction records generalizing b profile with
  | nil =>
      obtain ⟨rfl, rfl⟩ := Prod.mk.inj (Except.ok.inj h)
      simp
  | cons record records ih =>
      rw [bootLoop] at h
      split at h
      · rename_i hnot
        have hnot : ¬ isBootableRecord record = true := by simpa using hnot
        simpa [hnot] using ih h
      · rename_i hboots
        have hboots : isBootableRecord record = true := by simpa using hboots
        split at h
        · exact nomatch h
        · rename_i plugin hplugin
          split at h
          · exact nomatch h
          · rename_i runners hrunners
            obtain ⟨henabled, hloaded, hexternal⟩ := ih h
            refine ⟨fun id => ?_, fun d => ?_, fun d => ?_⟩
            · rw [henabled, RuntimeProfile.enable, List.mem_append, List.mem_singleton, or_assoc,
                eq_comm (a := id), List.exists_mem_cons_iff]
              simp only [hboots, true_and]
            · have hregister : ((b.registerPlugin record.manifest plugin).registerExternal
                  runners).HasLoaded d ↔ b.HasLoaded d ∨ LoadedWith host record d := by
                rw [← loadPlugin_ok hplugin d]
                exact hasLoaded_registerPlugin
              rw [hloaded, hregister]
              simp [hboots, or_assoc]
            · rw [hexternal, hasExternal_registerExternal, hasExternal_registerPlugin,
                externalRunners_ok hrunners d]
              simp [hboots, or_assoc]

/-- A loop over factories keeps what its registrations keep. -/
theorem factoryLoop_ok {α : Type} {pluginId : α → String}
    {register : Bootstrapper → α → Bootstrapper} {profile : RuntimeProfile} {b b' : Bootstrapper}
    {factories : List (Except String α)}
    (h : factoryLoop pluginId register profile b factories = .ok b')
    (hregister : ∀ b made, (register b made).loadedPlugins = b.loadedPlugins ∧
      (register b made).externalRunners = b.externalRunners) :
    b'.loadedPlugins = b.loadedPlugins ∧ b'.externalRunners = b.externalRunners := by
  induction factories generalizing b with
  | nil =>
      rw [← Except.ok.inj h]
      exact ⟨rfl, rfl⟩
  | cons factory factories ih =>
      cases factory with
      | error detail => exact nomatch h
      | ok made =>
          rw [factoryLoop] at h
          split at h
          · obtain ⟨hloaded, hexternal⟩ := ih h
            obtain ⟨hloaded', hexternal'⟩ := hregister b made
            exact ⟨hloaded.trans hloaded', hexternal.trans hexternal'⟩
          · exact ih h

/-- What a boot enables and registers. -/
theorem runtimeBootstrapper_ok {records : List PluginRecord} {b : Bootstrapper}
    {profile : RuntimeProfile} (h : runtimeBootstrapper cfg host records = .ok (b, profile)) :
    (∀ id, id ∈ profile.enabledPlugins ↔
      ∃ record ∈ records, isBootableRecord record = true ∧ record.manifest.pluginId = id) ∧
    (∀ d, b.HasLoaded d ↔
      ∃ record ∈ records, isBootableRecord record = true ∧ LoadedWith host record d) ∧
    (∀ d, b.HasExternal d ↔
      ∃ record ∈ records, isBootableRecord record = true ∧ SpawnedWith record d) := by
  rw [runtimeBootstrapper] at h
  split at h
  · exact nomatch h
  · rename_i b₁ profile₁ hloop
    split at h
    · exact nomatch h
    · rename_i b₂ hnative
      split at h
      · exact nomatch h
      · rename_i b₃ hasync
        obtain ⟨rfl, rfl⟩ := Prod.mk.inj (Except.ok.inj h)
        obtain ⟨hloaded₂, hexternal₂⟩ := factoryLoop_ok hnative fun _ _ => ⟨rfl, rfl⟩
        obtain ⟨hloaded₃, hexternal₃⟩ := factoryLoop_ok hasync fun _ _ => ⟨rfl, rfl⟩
        obtain ⟨henabled, hloaded, hexternal⟩ := bootLoop_ok hloop
        simp only [Bootstrapper.HasLoaded, Bootstrapper.HasExternal, hloaded₃, hloaded₂, hexternal₃,
          hexternal₂] at hloaded hexternal ⊢
        simp only [List.not_mem_nil, false_and, exists_false, false_or] at henabled hloaded hexternal
        exact ⟨henabled, hloaded, hexternal⟩

/-! ## One mechanism for each plugin -/

/-- Each record of a catalog that is booted is run, and by one mechanism only. -/
structure RunOnce (cfg : BootCfg) (host : BootHost) (records : List PluginRecord)
    (b : Bootstrapper) (profile : RuntimeProfile) : Prop where
  /-- a record is enabled or has a sidecar -/
  run : ∀ record ∈ records, record.manifest.pluginId ∈ profile.enabledPlugins ∨
    ∃ spec ∈ sidecarSpecs cfg records, isExternal record = true ∧ sidecarSpec cfg record = some spec
  /-- its command is launched for Core or by the supervisor -/
  command : ∀ record ∈ records, ∀ runners, isBootableRecord record = true →
    externalRunners cfg host record = .ok runners → runners ≠ [] → sidecarSpecs cfg [record] = []
  /-- a descriptor is loaded or external -/
  descriptors : ∀ record ∈ records, ∀ d ∈ record.manifest.runners,
    ¬ (b.HasLoaded d ∧ b.HasExternal d)

/-- The catalogs for which that holds: a runtime with another link than
    `jsonl-stdio` is that of a process or of Python, and what a `jsonl-stdio`
    runtime runs does not come with a loaded plugin. -/
structure Linked (host : BootHost) (records : List PluginRecord) : Prop where
  external : ∀ record ∈ records, ∀ runtime ∈ record.runtime, runtime.runnerLink ≠ "jsonl-stdio" →
    isExternal record = true
  unloaded : ∀ record ∈ records, ∀ runtime ∈ record.runtime, runtime.runnerLink = "jsonl-stdio" →
    ∀ d ∈ record.manifest.runners, ∀ other ∈ records, isBootableRecord other = true →
      ¬ LoadedWith host other d

theorem isBootableRecord_of_runtime {record : PluginRecord} {runtime : ExternalRuntimeSpec}
    (h : record.runtime = some runtime) :
    isBootableRecord record = true ↔ runtime.runnerLink = "jsonl-stdio" := by
  rw [isBootableRecord, h]
  simp

/-- A record that the boot passes over has a runtime with another link. -/
theorem exists_runtime_of_not_bootable {record : PluginRecord}
    (h : ¬ isBootableRecord record = true) :
    ∃ runtime, record.runtime = some runtime ∧ runtime.runnerLink ≠ "jsonl-stdio" := by
  cases hruntime : record.runtime with
  | none =>
      rw [isBootableRecord, hruntime] at h
      exact absurd rfl h
  | some runtime =>
      exact ⟨runtime, rfl, fun hlink => h ((isBootableRecord_of_runtime hruntime).mpr hlink)⟩

theorem sidecarSpec_isSome (cfg : BootCfg) {record : PluginRecord} {runtime : ExternalRuntimeSpec}
    (h : record.runtime = some runtime) (hlink : runtime.runnerLink ≠ "jsonl-stdio") :
    ∃ spec, sidecarSpec cfg record = some spec := by
  rw [sidecarSpec, h]
  exact ⟨_, if_neg fun hboth => hlink hboth.1⟩

theorem mem_sidecarSpecs {records : List PluginRecord} {record : PluginRecord}
    {spec : ManagedRunnerSpec} (hmem : record ∈ records) (hexternal : isExternal record = true)
    (h : sidecarSpec cfg record = some spec) : spec ∈ sidecarSpecs cfg records :=
  List.mem_filterMap.mpr ⟨record, List.mem_filter.mpr ⟨hmem, hexternal⟩, h⟩

/-- A runtime that is run for Core has no sidecar. -/
theorem sidecarSpecs_eq_nil {record : PluginRecord} {runners : List ExternalRunner}
    (h : externalRunners cfg host record = .ok runners) (hne : runners ≠ [])
    (hboot : isBootableRecord record = true) : sidecarSpecs cfg [record] = [] := by
  obtain ⟨runner, hrunner⟩ := List.exists_mem_of_ne_nil _ hne
  obtain ⟨hsome, hmem⟩ := (externalRunners_ok h runner.descriptor).mp ⟨runner, hrunner, rfl⟩
  obtain ⟨runtime, hruntime⟩ := Option.isSome_iff_exists.mp hsome
  have hspec : sidecarSpec cfg record = none := by
    rw [sidecarSpec, hruntime]
    exact if_pos ⟨(isBootableRecord_of_runtime hruntime).mp hboot, List.ne_nil_of_mem hmem⟩
  refine List.eq_nil_iff_forall_not_mem.mpr fun spec hmem => ?_
  obtain ⟨other, hother, hfound⟩ := List.mem_filterMap.mp hmem
  obtain rfl := List.mem_singleton.mp (List.mem_filter.mp hother).1
  exact nomatch hspec.symm.trans hfound

/-- **WHO RUNS A PLUGIN**: in a catalog that is booted every record is run, and by
    one mechanism only, exactly if its runtimes are linked as they should be. -/
theorem run_once_iff {catalogCfg : ServiceCatalog.CatalogCfg} {inventory : PluginInventory}
    {preferences : ServiceCatalog.PluginDeploymentState} {records : List PluginRecord}
    {b : Bootstrapper} {profile : RuntimeProfile}
    (hresolved : Resolved catalogCfg inventory preferences records)
    (hboot : runtimeBootstrapper cfg host records = .ok (b, profile)) :
    RunOnce cfg host records b profile ↔ Linked host records := by
  obtain ⟨henabled, hloaded, hexternal⟩ := runtimeBootstrapper_ok hboot
  constructor
  · rintro ⟨hrun, -, hdescriptors⟩
    constructor
    · intro record hrecord runtime hruntime hlink
      obtain hin | ⟨spec, -, hexternal, -⟩ := hrun record hrecord
      · obtain ⟨other, hother, hbootable, hid⟩ := (henabled _).mp hin
        -- the record that is enabled under the id is like this one
        have hsame := hresolved.view_eq hother hrecord hid
        rw [isBootableRecord_view, hsame, ← isBootableRecord_view] at hbootable
        exact absurd ((isBootableRecord_of_runtime hruntime).mp hbootable) hlink
      · exact hexternal
    · intro record hrecord runtime hruntime hlink d hd other hother hbootable hwith
      refine hdescriptors record hrecord d hd
        ⟨(hloaded d).mpr ⟨other, hother, hbootable, hwith⟩, ?_⟩
      refine (hexternal d).mpr ⟨record, hrecord,
        (isBootableRecord_of_runtime hruntime).mpr hlink, ?_, hd⟩
      exact Option.isSome_of_mem hruntime
  · rintro ⟨hlinks, hunloaded⟩
    constructor
    · intro record hrecord
      by_cases hbootable : isBootableRecord record = true
      · exact .inl ((henabled _).mpr ⟨record, hrecord, hbootable, rfl⟩)
      · obtain ⟨runtime, hruntime, hlink⟩ := exists_runtime_of_not_bootable hbootable
        have hexternal := hlinks record hrecord runtime hruntime hlink
        obtain ⟨spec, hspec⟩ := sidecarSpec_isSome cfg hruntime hlink
        exact .inr ⟨spec, mem_sidecarSpecs hrecord hexternal hspec, hexternal, hspec⟩
    · intro record _ runners hbootable hrunners hne
      exact sidecarSpecs_eq_nil hrunners hne hbootable
    · rintro record hrecord d hd ⟨hin, hout⟩
      obtain ⟨other, hother, hbootable, hwith⟩ := (hloaded d).mp hin
      obtain ⟨source, hsource, hspawned, hsome, hmem⟩ := (hexternal d).mp hout
      obtain ⟨runtime, hruntime⟩ := Option.isSome_iff_exists.mp hsome
      exact hunloaded source hsource runtime hruntime
        ((isBootableRecord_of_runtime hruntime).mp hspawned) d hmem other hother hbootable hwith

end Boot

/-! ### A plugin that nothing runs -/

/-- `/plugins/demo` with one plugin. -/
def demoFiles (toml : PluginToml) : LoaderFs := { abiHost with parse := fun _ => .ok toml }

/-- The record of that plugin. -/
def demoRecord (toml : PluginToml) (artifact : Option PathBuf) : PluginRecord where
  manifestPath := ⟨true, ["plugins", "demo", "plugin.toml"]⟩
  manifest := toml.manifest
  runtime := toml.runtime
  resolvedArtifact := artifact

/-- A configuration that enables one plugin. -/
def demoCatalogCfg (pluginId : String) : ServiceCatalog.CatalogCfg :=
  { ServiceCatalog.sampleCatalogCfg with configured := [⟨pluginId, true⟩] }

/-- The configuration of the boot. -/
def demoBootCfg : BootCfg where
  loader := hostCfg
  homeDir := ⟨true, ["home"]⟩
  profile := "default"
  envAllowlist := []
  controlToken := "token"

/-- A host on which every plugin is loaded and every process starts. -/
def demoBootHost : BootHost where
  var _ := none
  openAbi _ := .ok ()
  spawn _ _ := .ok ()
  nativeRunners := []
  asyncHandlers := []
  loadedPlugins _ := none

theorem scan_demo {toml : PluginToml} {artifact : Option PathBuf}
    (h : validRecord hostCfg (demoFiles toml) [] ⟨true, ["plugins", "demo", "plugin.toml"]⟩ =
      some (demoRecord toml artifact))
    (hdiagnostic : ownDiagnostic hostCfg (demoFiles toml) []
      ⟨true, ["plugins", "demo", "plugin.toml"]⟩ = none) :
    scan hostCfg (demoFiles toml) [⟨true, ["plugins"]⟩] ⟨true, ["disabled"]⟩ [] =
      .ok ⟨[demoRecord toml artifact], []⟩ := by
  have hreads : ReadsSucceed (demoFiles toml) [⟨true, ["plugins"]⟩] := by
    intro dir hmem _
    obtain rfl := List.mem_singleton.mp hmem
    exact ⟨[⟨true, ["plugins", "demo"]⟩], rfl⟩
  have hfound : found (demoFiles toml) [⟨true, ["plugins"]⟩] =
      [⟨true, ["plugins", "demo", "plugin.toml"]⟩] := rfl
  have hdisabled : disabledPlugins (demoFiles toml) ⟨true, ["disabled"]⟩ = [] := rfl
  have hscan := scan_ok hostCfg hreads ⟨true, ["disabled"]⟩ []
  simp only [hfound, hdisabled, List.nil_append, List.filterMap_cons, h, hdiagnostic,
    List.filterMap_nil, LoaderCfg.sorted, List.mergeSort_singleton] at hscan
  exact hscan

theorem resolved_demo (toml : PluginToml) (artifact : Option PathBuf)
    (h : (demoCatalogCfg toml.manifest.pluginId).resolveCatalog
      (inventoryView ⟨[demoRecord toml artifact], []⟩) .default =
        .ok ⟨[(demoRecord toml artifact).view], [(demoRecord toml artifact).view], []⟩) :
    Resolved (demoCatalogCfg toml.manifest.pluginId) ⟨[demoRecord toml artifact], []⟩ .default
      [demoRecord toml artifact] :=
  ⟨fun _ hmem => hmem, _, h, rfl⟩

/-- An ABI plugin whose manifest also has a `[runtime]` section. -/
def abiSidecar : PluginToml :=
  ⟨abiRecord.manifest, some ⟨"helper", [], [], none, "sidecar"⟩⟩

/-- It is accepted and selected, and neither Core nor the supervisor runs it. -/
theorem abi_sidecar_is_dropped :
    let record := demoRecord abiSidecar (some ⟨true, ["plugins", "demo", "lib.so"]⟩)
    let b : Bootstrapper := ⟨[], [], [], [], []⟩
    let profile : RuntimeProfile := ⟨"default", [], ∅⟩
    scan hostCfg (demoFiles abiSidecar) [⟨true, ["plugins"]⟩] ⟨true, ["disabled"]⟩ [] =
        .ok ⟨[record], []⟩ ∧
      Resolved (demoCatalogCfg "demo.abi") ⟨[record], []⟩ .default [record] ∧
      runtimeBootstrapper demoBootCfg demoBootHost [record] = .ok (b, profile) ∧
      ¬ RunOnce demoBootCfg demoBootHost [record] b profile := by
  refine ⟨scan_demo (by decide +kernel) (by decide +kernel),
    resolved_demo abiSidecar _ (by decide +kernel), rfl, fun h => ?_⟩
  obtain hin | ⟨spec, -, hexternal, -⟩ := h.run _ (List.mem_singleton_self _)
  · exact nomatch hin
  · exact nomatch hexternal

/-- A process that Core reaches over its standard streams. -/
def stdioProcess : PluginToml :=
  ⟨{ plainManifest "demo.stdio" .process with runners := [⟨"runner", "demo.stdio"⟩] },
    some ⟨"helper", [], [], none, "jsonl-stdio"⟩⟩

/-- The process is run once. -/
theorem stdio_process_runs_once : ∃ b profile,
    runtimeBootstrapper demoBootCfg demoBootHost [demoRecord stdioProcess none] = .ok (b, profile) ∧
      RunOnce demoBootCfg demoBootHost [demoRecord stdioProcess none] b profile := by
  have hresolved : Resolved (demoCatalogCfg "demo.stdio") ⟨[demoRecord stdioProcess none], []⟩
      .default [demoRecord stdioProcess none] :=
    resolved_demo stdioProcess none (by decide +kernel)
  refine ⟨_, _, rfl, (run_once_iff hresolved rfl).mpr ⟨?_, ?_⟩⟩
  · simp [demoRecord, stdioProcess]
  · simp [demoRecord, stdioProcess, plainManifest, LoadedWith, demoBootHost]

end ServiceBoot
