import MutsukiServiceHost.ServiceCatalogProofs
import MutsukiServiceHost.ServiceConfigProofs

/-! # The plugin loader — manifests, ABI artifacts and the inventory scan

    `PluginInventory::scan` reads every `plugin.toml` below the dynamic
    directories, checks it, and adds what passes to the builtin plugins.  Records
    that share a plugin id and a deployment kind are left out as a conflict.

    `LoaderFs` is what the scan asks the file system and the crates it uses;
    `LoaderCfg` holds the functions of `mutsuki_runtime_contracts`.  The records
    here have all the fields that the host reads; `PluginRecord.view` is such a
    record as the deployment resolver sees it. -/

namespace ServiceLoader

open ServiceCatalog
open ServiceLoad (PathBuf)

/-! ## Paths as text -/

/-- `Path::display`. -/
def display (p : PathBuf) : String :=
  (if p.root then "/" else "") ++ "/".intercalate p.parts

/-- `Path::file_name`. -/
def fileName (p : PathBuf) : Option String :=
  match p.parts.getLast? with
  | none => none
  | some name => if name = ".." ∨ name = "." then none else some name

/-- `Path::extension`. -/
def extension (p : PathBuf) : Option String :=
  match fileName p with
  | none => none
  | some name =>
      let chars := name.toList
      let tail := chars.reverse.takeWhile (· ≠ '.')
      -- no dot, or only the one in front
      if chars.length ≤ tail.length + 1 then none else some (String.ofList tail.reverse)

/-- The order of `Path::cmp` on components: the root, `.`, `..`, names. -/
def componentRank (name : String) : Nat :=
  if name = "." then 1 else if name = ".." then 2 else 3

/-- A path as the list that `Path::cmp` compares. -/
def componentKeys (p : PathBuf) : List (Nat × String) :=
  (if p.root then [(0, "")] else []) ++ p.parts.map fun name => (componentRank name, name)

/-! ## Manifests -/

/-- The fields of a `PluginBackendDescriptor` that the loader reads. -/
structure PluginBackend where
  deploymentKind : PluginDeploymentKind
  codecId : Option String
  bridgeId : Option String
  deriving DecidableEq, Repr

/-- The fields of a `RunnerDescriptor` that the host reads. -/
structure RunnerDescriptor where
  runnerId : String
  pluginId : String
  deriving DecidableEq, Repr

/-- The fields of a `PluginManifest` that the host reads. -/
structure PluginManifest where
  pluginId : String
  apiVersion : String
  artifactType : ArtifactType
  artifactPath : String
  sha256 : String
  pluginBackends : List PluginBackend
  runners : List RunnerDescriptor
  businessSurface : Nat
  deriving DecidableEq, Repr

/-- `ExternalRuntimeSpec`; the environment is in the order of its `BTreeMap`. -/
structure ExternalRuntimeSpec where
  command : String
  args : List String
  env : List (String × String)
  cwd : Option PathBuf
  runnerLink : String
  deriving DecidableEq, Repr

/-- `PluginToml`. -/
structure PluginToml where
  manifest : PluginManifest
  runtime : Option ExternalRuntimeSpec

/-- `PluginRecord`. -/
structure PluginRecord where
  manifestPath : PathBuf
  manifest : PluginManifest
  runtime : Option ExternalRuntimeSpec
  resolvedArtifact : Option PathBuf
  deriving DecidableEq, Repr

/-- A record as `resolve_catalog` reads it. -/
def PluginRecord.view (record : PluginRecord) : ServiceCatalog.PluginRecord where
  manifestPath := display record.manifestPath
  manifest := ⟨record.manifest.pluginId, record.manifest.artifactType,
    record.manifest.businessSurface⟩
  runtime := record.runtime.map fun runtime => ⟨runtime.runnerLink⟩
  resolvedArtifact := record.resolvedArtifact.map display

/-- `PluginDiagnostic`. -/
structure PluginDiagnostic where
  manifestPath : PathBuf
  pluginId : Option String
  deployment : Option PluginDeploymentKind
  detail : String
  deriving DecidableEq, Repr

/-- `PluginInventory`. -/
structure PluginInventory where
  records : List PluginRecord
  diagnostics : List PluginDiagnostic
  deriving DecidableEq, Repr

/-! ## The surroundings -/

/-- `mutsuki_runtime_contracts` and the platform: `default_for_artifact`,
    `is_compatible_with_artifact`, the extension of shared libraries, and the
    `Debug` texts of an artifact type and of a string. -/
structure LoaderCfg where
  defaultForArtifact : ArtifactType → PluginDeploymentKind
  isCompatibleWithArtifact : PluginDeploymentKind → ArtifactType → Bool
  libraryExtension : String
  artifactName : ArtifactType → String
  debugText : String → String

/-- The file system as the loader sees it, `toml::from_str` and SHA-256 in lower
    case hexadecimal digits. -/
structure LoaderFs where
  present : PathBuf → Bool
  isDir : PathBuf → Bool
  isFile : PathBuf → Bool
  readDir : PathBuf → Except String (List (Except String PathBuf))
  readText : PathBuf → Except String String
  readBytes : PathBuf → Except String (List UInt8)
  canonicalize : PathBuf → Except String PathBuf
  parse : String → Except String PluginToml
  sha256 : List UInt8 → String

/-- `PluginLoaderError`, the variants the loader returns. -/
inductive PluginLoaderError where
  | readDir (path : PathBuf) (detail : String)
  | readManifest (path : PathBuf) (detail : String)
  | parseManifest (path : PathBuf) (detail : String)
  | unsupportedApiVersion (pluginId apiVersion : String)
  | deploymentMismatch (pluginId : String) (deployment : PluginDeploymentKind)
      (artifact : ArtifactType)
  | secretInManifest (pluginId key : String)
  | dynamicNative (pluginId : String)
  | invalidArtifactPath (pluginId detail : String)
  | missingArtifact (pluginId : String) (path : PathBuf)
  | invalidArtifactExtension (pluginId : String) (path : PathBuf)
  | invalidArtifactHash (pluginId : String)
  | artifactHashMismatch (pluginId expected actual : String)
  | abiContractInvalid (pluginId detail : String)
  | readArtifact (path : PathBuf) (detail : String)
  deriving DecidableEq, Repr

/-- The `Display` text of a `PluginLoaderError`. -/
def PluginLoaderError.message (cfg : LoaderCfg) : PluginLoaderError → String
  | .readDir path detail =>
      "failed to read plugin directory " ++ display path ++ ": " ++ detail
  | .readManifest path detail =>
      "failed to read plugin manifest " ++ display path ++ ": " ++ detail
  | .parseManifest path detail =>
      "failed to parse plugin manifest " ++ display path ++ ": " ++ detail
  | .unsupportedApiVersion pluginId apiVersion =>
      "plugin " ++ pluginId ++ " uses unsupported api version " ++ apiVersion
  | .deploymentMismatch pluginId deployment artifact =>
      "plugin " ++ pluginId ++ " deployment " ++ deployment.debugName
        ++ " does not match artifact " ++ cfg.artifactName artifact
  | .secretInManifest pluginId key =>
      "plugin " ++ pluginId ++ " runtime env contains secret-like key " ++ key
        ++ "; pass secrets by host backend or environment references"
  | .dynamicNative pluginId =>
      "dynamic plugin " ++ pluginId
        ++ " declares a native artifact that is not linked into this build"
  | .invalidArtifactPath pluginId detail =>
      "ABI artifact path for plugin " ++ pluginId ++ " is invalid: " ++ detail
  | .missingArtifact pluginId path =>
      "ABI artifact for plugin " ++ pluginId ++ " is missing: " ++ display path
  | .invalidArtifactExtension pluginId path =>
      "ABI artifact for plugin " ++ pluginId ++ " has an invalid platform extension: "
        ++ display path
  | .invalidArtifactHash pluginId =>
      "ABI artifact hash for plugin " ++ pluginId ++ " must be sha256:<64 lowercase hex>"
  | .artifactHashMismatch pluginId expected actual =>
      "ABI artifact hash mismatch for plugin " ++ pluginId ++ ": expected " ++ expected
        ++ ", got " ++ actual
  | .abiContractInvalid pluginId detail =>
      "plugin " ++ pluginId ++ " ABI contract invalid: " ++ detail
  | .readArtifact path detail => "failed to read ABI artifact " ++ display path ++ ": " ++ detail

/-! ## Checks of a manifest -/

/-- `str::contains`. -/
def containsText (text pattern : String) : Bool := pattern.toList <:+: text.toList

/-- A name that `validate_manifest` takes for a secret. -/
def isSecretLike (key : String) : Bool :=
  let upper := String.ofList (key.toList.map Char.toUpper)
  containsText upper "TOKEN" || containsText upper "SECRET" || containsText upper "PASSWORD"

/-- `validate_manifest`. -/
def validateManifest (cfg : LoaderCfg) (manifest : PluginManifest)
    (runtime : Option ExternalRuntimeSpec) : Except PluginLoaderError Unit :=
  let deployment := cfg.defaultForArtifact manifest.artifactType
  if manifest.apiVersion ≠ "mutsuki-plugin-v1" then
    .error (.unsupportedApiVersion manifest.pluginId manifest.apiVersion)
  else if cfg.isCompatibleWithArtifact deployment manifest.artifactType = false then
    .error (.deploymentMismatch manifest.pluginId deployment manifest.artifactType)
  else match runtime with
    | none => .ok ()
    | some runtime =>
        match runtime.env.find? fun entry => isSecretLike entry.1 with
        | some entry => .error (.secretInManifest manifest.pluginId entry.1)
        | none => .ok ()

/-- `AbiContract`. -/
structure AbiContract where
  codecId : String
  bridgeId : String
  entrySymbol : String
  transportVersion : Nat
  deriving DecidableEq, Repr

/-- `HOST_ABI_INVENTORY`. -/
def hostAbiInventory : List AbiContract :=
  [⟨"mutsuki.codec.typed-jsonl.v1", "mutsuki.bridge.abi.jsonl.v1", "mutsuki_plugin_abi_v1", 1⟩,
    ⟨"mutsuki.codec.typed-msgpack.v1", "mutsuki.bridge.abi.binary.v2", "mutsuki_plugin_abi_v2", 2⟩]

/-- The `Debug` text of an optional string. -/
def debugOption (cfg : LoaderCfg) : Option String → String
  | none => "None"
  | some text => "Some(" ++ cfg.debugText text ++ ")"

/-- `resolve_abi_contract`. -/
def resolveAbiContract (cfg : LoaderCfg) (manifest : PluginManifest) :
    Except PluginLoaderError AbiContract :=
  if manifest.artifactType ≠ .abi then
    .error (.abiContractInvalid manifest.pluginId "ABI contract applies only to abi artifacts")
  else match manifest.pluginBackends.filter fun backend => backend.deploymentKind = .abi with
    | [backend] =>
        match hostAbiInventory.find? fun contract =>
            some contract.codecId = backend.codecId ∧ some contract.bridgeId = backend.bridgeId with
        | some contract => .ok contract
        | none =>
            .error (.abiContractInvalid manifest.pluginId
              ("unsupported ABI codec/bridge pair (" ++ debugOption cfg backend.codecId ++ ", "
                ++ debugOption cfg backend.bridgeId ++ "); host inventory expects one of "
                ++ " | ".intercalate (hostAbiInventory.map fun contract =>
                  "(" ++ contract.codecId ++ ", " ++ contract.bridgeId ++ ")")))
    | _ =>
        .error (.abiContractInvalid manifest.pluginId
          "manifest must declare exactly one ABI plugin backend")

/-- A lower case hexadecimal digit. -/
def isHexDigit (c : Char) : Bool := ('0' ≤ c && c ≤ '9') || ('a' ≤ c && c ≤ 'f')

/-- `str::strip_prefix("sha256:")`. -/
def stripSha256 (text : String) : Option String :=
  let pre := "sha256:".toList
  if pre <+: text.toList then some (String.ofList (text.toList.drop pre.length)) else none

/-- `validate_abi_artifact`. -/
def validateAbiArtifact (cfg : LoaderCfg) (fs : LoaderFs) (manifestPath : PathBuf)
    (manifest : PluginManifest) : Except PluginLoaderError PathBuf := do
  let _ ← resolveAbiContract cfg manifest
  let declared := PathBuf.ofString manifest.artifactPath
  if declared.root ∨ trim manifest.artifactPath = "" then
    throw (.invalidArtifactPath manifest.pluginId
      "path must be non-empty and relative to plugin.toml")
  let pluginDir ← match fs.canonicalize (manifestPath.parent.getD manifestPath) with
    | .ok dir => pure dir
    | .error detail => throw (.readArtifact manifestPath detail)
  let candidate := pluginDir.join declared
  if fs.isFile candidate = false then
    throw (.missingArtifact manifest.pluginId candidate)
  let resolved ← match fs.canonicalize candidate with
    | .ok resolved => pure resolved
    | .error detail => throw (.readArtifact candidate detail)
  if ¬ resolved.startsWith pluginDir then
    throw (.invalidArtifactPath manifest.pluginId "resolved path escapes the plugin directory")
  if extension resolved ≠ some cfg.libraryExtension then
    throw (.invalidArtifactExtension manifest.pluginId resolved)
  match stripSha256 manifest.sha256 with
  | none => throw (.invalidArtifactHash manifest.pluginId)
  | some hex =>
      if hex.toList.length ≠ 64 ∨ hex.toList.all isHexDigit = false then
        throw (.invalidArtifactHash manifest.pluginId)
  let bytes ← match fs.readBytes resolved with
    | .ok bytes => pure bytes
    | .error detail => throw (.readArtifact resolved detail)
  let actual := "sha256:" ++ fs.sha256 bytes
  if actual ≠ manifest.sha256 then
    throw (.artifactHashMismatch manifest.pluginId manifest.sha256 actual)
  return resolved

/-- `read_plugin_manifest`. -/
def readPluginManifest (fs : LoaderFs) (path : PathBuf) : Except PluginLoaderError PluginToml :=
  match fs.readText path with
  | .error detail => .error (.readManifest path detail)
  | .ok content =>
      match fs.parse content with
      | .error detail => .error (.parseManifest path detail)
      | .ok toml => .ok toml

/-- `str::trim_end_matches` of a pattern, at most `fuel` times. -/
def trimEndMatches (pattern : List Char) : Nat → List Char → List Char
  | 0, text => text
  | fuel + 1, text =>
      if pattern <:+ text then trimEndMatches pattern fuel (text.take (text.length - pattern.length))
      else text

/-- `disabled_plugins`. -/
def disabledPlugins (fs : LoaderFs) (disabledDir : PathBuf) : List String :=
  match fs.readDir disabledDir with
  | .error _ => []
  | .ok entries => entries.filterMap fun entry =>
      match entry with
      | .error _ => none
      | .ok path => (fileName path).map fun name =>
          String.ofList (trimEndMatches ".disabled".toList name.length name.toList)

/-! ## The scan -/

/-- `deployment` of a manifest. -/
def LoaderCfg.deployment (cfg : LoaderCfg) (manifest : PluginManifest) : PluginDeploymentKind :=
  cfg.defaultForArtifact manifest.artifactType

/-- The checks of one `plugin.toml` in `scan`: the record that is kept or the
    diagnostic. -/
def examine (cfg : LoaderCfg) (fs : LoaderFs) (disabled : List String) (manifestPath : PathBuf) :
    Except PluginDiagnostic PluginRecord :=
  match readPluginManifest fs manifestPath with
  | .error e => .error ⟨manifestPath, none, none, e.message cfg⟩
  | .ok toml =>
      let pluginId := toml.manifest.pluginId
      let diagnostic := fun detail : String =>
        (⟨manifestPath, some pluginId, some (cfg.deployment toml.manifest), detail⟩ :
          PluginDiagnostic)
      if pluginId ∈ disabled then .error (diagnostic "artifact is quarantined by the Host")
      else match validateManifest cfg toml.manifest toml.runtime with
        | .error e => .error (diagnostic (e.message cfg))
        | .ok () =>
            if toml.manifest.artifactType = .native then
              .error (diagnostic ((PluginLoaderError.dynamicNative pluginId).message cfg))
            else if toml.manifest.artifactType = .abi then
              match validateAbiArtifact cfg fs manifestPath toml.manifest with
              | .error e => .error (diagnostic (e.message cfg))
              | .ok artifact => .ok ⟨manifestPath, toml.manifest, toml.runtime, some artifact⟩
            else .ok ⟨manifestPath, toml.manifest, toml.runtime, none⟩

/-- The `plugin.toml` an entry of a directory stands for. -/
def manifestPathOf (fs : LoaderFs) (path : PathBuf) : Option PathBuf :=
  let manifestPath := if fs.isDir path then path.child "plugin.toml" else path
  if fileName manifestPath ≠ some "plugin.toml" ∨ fs.present manifestPath = false then none
  else some manifestPath

/-- What the scan has collected. -/
structure Collected where
  records : List PluginRecord
  diagnostics : List PluginDiagnostic

/-- One `plugin.toml` more. -/
def Collected.add (c : Collected) : Except PluginDiagnostic PluginRecord → Collected
  | .ok record => { c with records := c.records ++ [record] }
  | .error diagnostic => { c with diagnostics := c.diagnostics ++ [diagnostic] }

/-- The loop over the entries of a directory. -/
def scanEntries (cfg : LoaderCfg) (fs : LoaderFs) (disabled : List String) (dir : PathBuf) :
    Collected → List (Except String PathBuf) → Except PluginLoaderError Collected
  | c, [] => .ok c
  | _, .error detail :: _ => .error (.readDir dir detail)
  | c, .ok path :: entries =>
      match manifestPathOf fs path with
      | none => scanEntries cfg fs disabled dir c entries
      | some manifestPath =>
          scanEntries cfg fs disabled dir (c.add (examine cfg fs disabled manifestPath)) entries

/-- The loop over the dynamic directories. -/
def scanDirs (cfg : LoaderCfg) (fs : LoaderFs) (disabled : List String) :
    Collected → List PathBuf → Except PluginLoaderError Collected
  | c, [] => .ok c
  | c, dir :: dirs =>
      if fs.present dir = false then scanDirs cfg fs disabled c dirs
      else match fs.readDir dir with
        | .error detail => .error (.readDir dir detail)
        | .ok entries =>
            match scanEntries cfg fs disabled dir c entries with
            | .error e => .error e
            | .ok c => scanDirs cfg fs disabled c dirs

/-- `candidate_key`. -/
def LoaderCfg.candidateKey (cfg : LoaderCfg) (record : PluginRecord) : String × String :=
  (record.manifest.pluginId, (cfg.deployment record.manifest).debugName)

/-- The order on the pairs that `candidate_key` gives. -/
def compareKeys : String × String → String × String → Ordering :=
  compareLex (compareOn Prod.fst) (compareOn Prod.snd)

/-- `Path::cmp`. -/
def comparePaths (a b : PathBuf) : Ordering :=
  List.compareLex (compareLex (compareOn Prod.fst) (compareOn Prod.snd)) (componentKeys a)
    (componentKeys b)

/-- The comparison of `sort_by` in `scan`. -/
def LoaderCfg.compareRecords (cfg : LoaderCfg) (a b : PluginRecord) : Ordering :=
  (compareKeys (cfg.candidateKey a) (cfg.candidateKey b)).then
    (comparePaths a.manifestPath b.manifestPath)

/-- The diagnostic of a group of records with one key. -/
def conflictDiagnostic (cfg : LoaderCfg) (first : PluginRecord) : PluginDiagnostic where
  manifestPath := first.manifestPath
  pluginId := some first.manifest.pluginId
  deployment := some (cfg.deployment first.manifest)
  detail := "multiple " ++ (cfg.deployment first.manifest).debugName
    ++ " artifacts are installed for plugin " ++ first.manifest.pluginId

/-- A group of `chunk_by`: a record by itself is kept. -/
def sortGroup (cfg : LoaderCfg) (inventory : PluginInventory) (group : List PluginRecord) :
    PluginInventory :=
  match group with
  | [] => inventory
  | [record] => { inventory with records := inventory.records ++ [record] }
  | first :: _ =>
      { inventory with diagnostics := inventory.diagnostics ++ [conflictDiagnostic cfg first] }

/-- `PluginInventory::scan`. -/
def scan (cfg : LoaderCfg) (fs : LoaderFs) (dynamicDirs : List PathBuf) (disabledDir : PathBuf)
    (builtin : List PluginRecord) : Except PluginLoaderError PluginInventory :=
  match scanDirs cfg fs (disabledPlugins fs disabledDir) ⟨builtin, []⟩ dynamicDirs with
  | .error e => .error e
  | .ok c =>
      let records := c.records.mergeSort fun a b => (cfg.compareRecords a b).isLE
      let groups := records.splitBy fun a b => cfg.candidateKey a == cfg.candidateKey b
      .ok (groups.foldl (sortGroup cfg) ⟨[], c.diagnostics⟩)

/-- The record of a builtin plugin. -/
def builtinRecord (manifest : PluginManifest) : PluginRecord :=
  ⟨⟨false, ["<builtin>"]⟩, manifest, none, none⟩

/-- `BuiltinRegistry::load_all` on the manifests in the order of their ids. -/
def loadAll (cfg : LoaderCfg) : List PluginManifest → Except PluginLoaderError (List PluginRecord)
  | [] => .ok []
  | manifest :: manifests =>
      match validateManifest cfg manifest none with
      | .error e => .error e
      | .ok () =>
          match loadAll cfg manifests with
          | .error e => .error e
          | .ok records => .ok (builtinRecord manifest :: records)

end ServiceLoader
