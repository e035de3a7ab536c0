import Mathlib.Data.Finmap
import MutsukiServiceHost.ServiceControlProofs

/-! # Plugin catalogs and deployment choices

    `resolve_catalog` picks one artifact for every enabled plugin of the
    configuration, by the stored choice of deployment if there is one.  The
    choices live in `plugin-deployments.json`; `load_deployment_state` reads
    them back and falls back to no choices when there is no such file.

    A manifest's business surface is only ever compared, so it stands as a
    number.  Deployment kinds and artifact types that this code never names are
    `other`. -/

namespace ServiceCatalog

open ServiceControl

/-- `PluginDeploymentKind`. -/
inductive PluginDeploymentKind where
  | builtin
  | abi
  | process
  | python
  | wasm
  | other (name : String)
  deriving DecidableEq, Repr

/-- The `Debug` text of a kind. -/
def PluginDeploymentKind.debugName : PluginDeploymentKind → String
  | .builtin => "Builtin"
  | .abi => "Abi"
  | .process => "Process"
  | .python => "Python"
  | .wasm => "Wasm"
  | .other name => name

/-- `ArtifactType`. -/
inductive ArtifactType where
  | native
  | abi
  | process
  | python
  | other (name : String)
  deriving DecidableEq, Repr

/-- The parts of a `PluginManifest` that the host reads. -/
structure PluginManifest where
  pluginId : String
  artifactType : ArtifactType
  businessSurface : Nat
  deriving DecidableEq, Repr

/-- The part of an `ExternalRuntimeSpec` that decides how a plugin boots. -/
structure ExternalRuntimeSpec where
  runnerLink : String
  deriving DecidableEq, Repr

/-- `PluginRecord`. -/
structure PluginRecord where
  manifestPath : String
  manifest : PluginManifest
  runtime : Option ExternalRuntimeSpec
  resolvedArtifact : Option String
  deriving DecidableEq, Repr

/-- `PluginDiagnostic`. -/
structure PluginDiagnostic where
  manifestPath : String
  pluginId : Option String
  deployment : Option PluginDeploymentKind
  detail : String
  deriving DecidableEq, Repr

/-- `PluginInventory`. -/
structure PluginInventory where
  records : List PluginRecord
  diagnostics : List PluginDiagnostic
  deriving DecidableEq, Repr

/-- `PluginCatalog`. -/
structure PluginCatalog where
  records : List PluginRecord
  candidates : List PluginRecord
  diagnostics : List PluginDiagnostic
  deriving DecidableEq, Repr

/-- `PluginCatalog::resolved`. -/
def PluginCatalog.resolved (inventory : PluginInventory) (records : List PluginRecord) :
    PluginCatalog :=
  ⟨records, inventory.records, inventory.diagnostics⟩

/-- An entry of `plugins.configured`. -/
structure PluginSelection where
  id : String
  enabled : Bool
  deriving DecidableEq, Repr

/-- The errors of the runtime that a deployment request can meet; those of the
    loader, the bootstrapper and Core stand as their texts. -/
inductive ServiceRuntimeError where
  | plugin (text : String)
  | core (text : String)
  | pluginUnavailable (pluginId detail : String)
  | pluginDeploymentAmbiguous (pluginId : String)
  | pluginDeploymentUnavailable (pluginId : String) (deployment : PluginDeploymentKind)
      (detail : String)
  | pluginBusinessSurfaceMismatch (pluginId : String)
  | pluginDeploymentState (path detail : String)
  deriving DecidableEq, Repr

/-- The `Display` text of a `ServiceRuntimeError`. -/
def ServiceRuntimeError.message : ServiceRuntimeError → String
  | .plugin text => text
  | .core text => text
  | .pluginUnavailable pluginId detail =>
      "configured plugin " ++ pluginId ++ " has no available artifact: " ++ detail
  | .pluginDeploymentAmbiguous pluginId =>
      "configured plugin " ++ pluginId ++
        " has multiple deployments and requires a Host selection"
  | .pluginDeploymentUnavailable pluginId deployment detail =>
      "configured plugin " ++ pluginId ++ " deployment " ++ deployment.debugName ++
        " is unavailable: " ++ detail
  | .pluginBusinessSurfaceMismatch pluginId =>
      "plugin " ++ pluginId ++
        " builtin and selected deployment expose different business surfaces"
  | .pluginDeploymentState path detail =>
      "failed to read or write plugin deployment state " ++ path ++ ": " ++ detail

/-! ## `str::trim` -/

/-- `char::is_whitespace`. -/
def isWhitespace (c : Char) : Bool :=
  let n := c.toNat
  (9 ≤ n && n ≤ 13) || n == 0x20 || n == 0x85 || n == 0xA0 || n == 0x1680 ||
    (0x2000 ≤ n && n ≤ 0x200A) || n == 0x2028 || n == 0x2029 || n == 0x202F || n == 0x205F ||
    n == 0x3000

/-- `str::trim`. -/
def trim (s : String) : String :=
  String.ofList (((s.toList.dropWhile isWhitespace).reverse.dropWhile isWhitespace).reverse)

/-! ## What boots of a catalog -/

/-- `is_bootable_record`. -/
def PluginRecord.isBootable (record : PluginRecord) : Bool :=
  match record.runtime with
  | none => true
  | some runtime => runtime.runnerLink = "jsonl-stdio"

/-- The parts of a `RuntimeProfile` that depend on the catalog. -/
structure RuntimeProfile where
  enabledPlugins : List String
  pluginDeployments : Finmap (fun _ : String => PluginDeploymentKind)
  deriving DecidableEq

/-- `runtime_bootstrapper` awaits the loading of an ABI plugin. -/
def PluginCatalog.awaitsAbi (catalog : PluginCatalog) : Bool :=
  (catalog.records.filter (·.isBootable)).any (·.manifest.artifactType = .abi)

/-! ## Deployment choices -/

/-- `PluginDeploymentState`. -/
structure PluginDeploymentState where
  version : UInt32
  plugins : Finmap (fun _ : String => PluginDeploymentKind)
  deriving DecidableEq

/-- `deployment_state_version`. -/
def deploymentStateVersion : UInt32 := 1

/-- No choices. -/
def PluginDeploymentState.default : PluginDeploymentState := ⟨deploymentStateVersion, ∅⟩

/-- A change of one choice: a deployment to store, or none to clear it. -/
structure Change where
  pluginId : String
  deployment : Option PluginDeploymentKind
  deriving DecidableEq, Repr

/-- The state with the change made. -/
def PluginDeploymentState.change (s : PluginDeploymentState) (c : Change) :
    PluginDeploymentState :=
  match c.deployment with
  | some deployment => { s with plugins := s.plugins.insert c.pluginId deployment }
  | none => { s with plugins := s.plugins.erase c.pluginId }

/-- The changed choice is the one asked for, and the others stay. -/
theorem lookup_change (s : PluginDeploymentState) (c : Change) (id : String) :
    (s.change c).plugins.lookup id =
      if id = c.pluginId then c.deployment else s.plugins.lookup id := by
  simp only [PluginDeploymentState.change]
  cases hd : c.deployment with
  | some deployment =>
      by_cases hid : id = c.pluginId
      · rw [if_pos hid, hid]
        exact Finmap.lookup_insert _
      · rw [if_neg hid]
        exact Finmap.lookup_insert_of_ne _ hid
  | none =>
      by_cases hid : id = c.pluginId
      · rw [if_pos hid, hid]
        exact Finmap.lookup_erase _ _
      · rw [if_neg hid]
        exact Finmap.lookup_erase_ne hid

theorem version_change (s : PluginDeploymentState) (c : Change) :
    (s.change c).version = s.version := by
  simp only [PluginDeploymentState.change]
  split <;> rfl

/-- How `serde_json` writes and reads a `PluginDeploymentState`. -/
structure StateFormat where
  write : PluginDeploymentState → Except String (List UInt8)
  read : List UInt8 → Except String PluginDeploymentState
  read_write : ∀ (state : PluginDeploymentState) (bytes : List UInt8),
    write state = .ok bytes → read bytes = .ok state

/-- The parts of the configuration that catalogs and choices depend on, and
    `PluginDeploymentKind::default_for_artifact`. -/
structure CatalogCfg where
  configured : List PluginSelection
  dataDir : String
  defaultForArtifact : ArtifactType → PluginDeploymentKind
  format : StateFormat

namespace CatalogCfg

/-- `deployment_state_path`. -/
def statePath (cfg : CatalogCfg) : String := cfg.dataDir ++ "/plugin-deployments.json"

/-- The path with the extension `json.pending`. -/
def pendingPath (cfg : CatalogCfg) : String := cfg.dataDir ++ "/plugin-deployments.json.pending"

/-- `load_deployment_state` on the content of its file. -/
def loadDeploymentState (cfg : CatalogCfg) (file : Option (List UInt8)) :
    Except ServiceRuntimeError PluginDeploymentState :=
  match file with
  | none => .ok .default
  | some bytes =>
      match cfg.format.read bytes with
      | .error detail => .error (.pluginDeploymentState cfg.statePath detail)
      | .ok state =>
          if state.version = deploymentStateVersion then .ok state
          else .error (.pluginDeploymentState cfg.statePath
            ("unsupported state version " ++ toString state.version))

/-- What was saved is what is loaded. -/
theorem load_saved {cfg : CatalogCfg} {state : PluginDeploymentState} {bytes : List UInt8}
    (hw : cfg.format.write state = .ok bytes) (hv : state.version = deploymentStateVersion) :
    cfg.loadDeploymentState (some bytes) = .ok state := by
  unfold loadDeploymentState
  dsimp only
  rw [cfg.format.read_write state bytes hw]
  dsimp only
  rw [if_pos hv]

/-- What is loaded has the current version. -/
theorem load_version {cfg : CatalogCfg} {file : Option (List UInt8)}
    {state : PluginDeploymentState} (h : cfg.loadDeploymentState file = .ok state) :
    state.version = deploymentStateVersion := by
  simp only [loadDeploymentState] at h
  split at h
  · cases h
    rfl
  · split at h
    · exact nomatch h
    · split at h
      · rename_i hv
        cases h
        exact hv
      · exact nomatch h

/-! ## `resolve_catalog` -/

/-- `deployment_for`. -/
def deploymentFor (cfg : CatalogCfg) (record : PluginRecord) : PluginDeploymentKind :=
  cfg.defaultForArtifact record.manifest.artifactType

/-- What the inventory says about a plugin that cannot be used. -/
def diagnostic (inventory : PluginInventory) (pluginId : String) : String :=
  let details := "; ".intercalate
    ((inventory.diagnostics.filter fun item => item.pluginId = some pluginId).map (·.detail))
  if details = "" then "plugin is not linked or installed" else details

/-- The artifact of a plugin without a stored choice. -/
def chooseDefault (cfg : CatalogCfg) (pluginId : String) :
    List PluginRecord → Except ServiceRuntimeError PluginRecord
  | [record] => .ok record
  | candidates =>
      if candidates.all fun record =>
          cfg.deploymentFor record = .builtin || cfg.deploymentFor record = .abi then
        match candidates.find? fun record => cfg.deploymentFor record = .builtin with
        | some builtin => .ok builtin
        | none => .error (.pluginDeploymentAmbiguous pluginId)
      else .error (.pluginDeploymentAmbiguous pluginId)

/-- The artifact `resolve_catalog` selects for one plugin. -/
def choose (cfg : CatalogCfg) (inventory : PluginInventory) (preferences : PluginDeploymentState)
    (selection : PluginSelection) : Except ServiceRuntimeError PluginRecord := do
  let pluginId := trim selection.id
  let candidates := inventory.records.filter fun record => record.manifest.pluginId = pluginId
  if candidates.isEmpty then
    throw (.pluginUnavailable pluginId (diagnostic inventory pluginId))
  let chosen ← match preferences.plugins.lookup pluginId with
    | some preferred =>
        match candidates.find? fun record => cfg.deploymentFor record = preferred with
        | some record => .ok record
        | none =>
            .error (.pluginDeploymentUnavailable pluginId preferred
              (diagnostic inventory pluginId))
    | none => cfg.chooseDefault pluginId candidates
  if cfg.deploymentFor chosen = .builtin then return chosen
  match candidates.find? fun record => cfg.deploymentFor record = .builtin with
  | some builtin =>
      if builtin.manifest.businessSurface ≠ chosen.manifest.businessSurface then
        throw (.pluginBusinessSurfaceMismatch pluginId)
      else return chosen
  | none => return chosen

/-- `resolve_catalog`. -/
def resolveCatalog (cfg : CatalogCfg) (inventory : PluginInventory)
    (preferences : PluginDeploymentState) : Except ServiceRuntimeError PluginCatalog := do
  let selected ← (cfg.configured.filter (·.enabled)).mapM (cfg.choose inventory preferences)
  return .resolved inventory selected

/-- The profile `runtime_bootstrapper` makes of a catalog. -/
def runtimeProfile (cfg : CatalogCfg) (catalog : PluginCatalog) : RuntimeProfile :=
  (catalog.records.filter (·.isBootable)).foldl
    (fun profile record =>
      { enabledPlugins := profile.enabledPlugins ++ [record.manifest.pluginId]
        pluginDeployments :=
          profile.pluginDeployments.insert record.manifest.pluginId (cfg.deploymentFor record) })
    ⟨[], ∅⟩

/-- The plugin is enabled by `plugins.configured`. -/
def isEnabled (cfg : CatalogCfg) (pluginId : String) : Bool :=
  cfg.configured.any fun selection => selection.enabled && trim selection.id = trim pluginId

end CatalogCfg

/-! ## A catalog for sample runs

    Two plugins, `clock` and `echo`, each linked in and installed as an ABI
    artifact, and the texts of the choices that the sample runs make. -/

/-- A format given by the texts of finitely many states. -/
def tableFormat (table : List (PluginDeploymentState × List UInt8))
    (htexts : (table.map Prod.snd).Nodup) : StateFormat where
  write state :=
    match table.find? fun entry => entry.1 = state with
    | some entry => .ok entry.2
    | none => .error "state is not in the table"
  read bytes :=
    match table.find? fun entry => entry.2 = bytes with
    | some entry => .ok entry.1
    | none => .error "text is not in the table"
  read_write := by
    intro state bytes h
    induction table with
    | nil => exact nomatch h
    | cons entry table ih =>
        obtain ⟨hhead, htail⟩ := List.nodup_cons.mp htexts
        rw [List.find?_cons] at h ⊢
        by_cases hs : entry.1 = state
        · rw [decide_eq_true hs] at h
          cases h
          rw [decide_eq_true rfl]
          exact congrArg Except.ok hs
        · rw [decide_eq_false hs] at h
          have hmem : bytes ∈ table.map Prod.snd := by
            split at h
            · rename_i found hfound
              cases h
              exact List.mem_map_of_mem (List.mem_of_find?_eq_some hfound)
            · exact nomatch h
          -- the text of another entry is another text
          have hne : entry.2 ≠ bytes := fun heq => hhead (heq ▸ hmem)
          rw [decide_eq_false hne]
          exact ih htail h

/-- The bytes of an ASCII text. -/
def asciiBytes (s : String) : List UInt8 := s.toList.map fun c => UInt8.ofNat c.toNat

/-- `echo` as an ABI plugin. -/
def abiEcho : Change := ⟨"echo", some .abi⟩

/-- `clock` as an ABI plugin. -/
def abiClock : Change := ⟨"clock", some .abi⟩

/-- The choices of the sample runs and the texts they are saved as. -/
def sampleTable : List (PluginDeploymentState × List UInt8) :=
  [(.default, asciiBytes "\x7b\n  \"version\": 1,\n  \"plugins\": \x7b\x7d\n\x7d"),
    (PluginDeploymentState.default.change abiEcho, asciiBytes
      "\x7b\n  \"version\": 1,\n  \"plugins\": \x7b\n    \"echo\": \"abi\"\n  \x7d\n\x7d"),
    (PluginDeploymentState.default.change abiClock, asciiBytes
      "\x7b\n  \"version\": 1,\n  \"plugins\": \x7b\n    \"clock\": \"abi\"\n  \x7d\n\x7d"),
    ((PluginDeploymentState.default.change abiEcho).change abiClock, asciiBytes
      "\x7b\n  \"version\": 1,\n  \"plugins\": \x7b\n    \"clock\": \"abi\",\n    \"echo\": \"abi\"\n  \x7d\n\x7d")]

set_option maxRecDepth 4000 in
theorem sampleTable_texts : (sampleTable.map Prod.snd).Nodup := by decide

def sampleCatalogCfg : CatalogCfg where
  configured := [⟨"clock", true⟩, ⟨"echo", true⟩]
  dataDir := "data"
  defaultForArtifact
    | .native => .builtin
    | .abi => .abi
    | .process => .process
    | .python => .python
    | .other name => .other name
  format := tableFormat sampleTable sampleTable_texts

/-- An artifact of a plugin. -/
def sampleRecord (pluginId : String) (artifactType : ArtifactType) : PluginRecord :=
  ⟨"plugin.toml", ⟨pluginId, artifactType, 0⟩, none, none⟩

def sampleInventory : PluginInventory :=
  ⟨[sampleRecord "clock" .native, sampleRecord "clock" .abi, sampleRecord "echo" .native,
    sampleRecord "echo" .abi], []⟩

example : (sampleCatalogCfg.resolveCatalog sampleInventory
    (PluginDeploymentState.default.change abiEcho)).map (·.records) =
    .ok [sampleRecord "clock" .native, sampleRecord "echo" .abi] := by decide

end ServiceCatalog
