import MutsukiServiceHost.ServiceSessionProofs

/-! # `ServiceConfig::load` — defaults, two files, the environment and overrides

    The configuration of the host on a Unix system.  A file is what
    `toml::from_str` finds in it: which of the seven sections it has, and which
    fields of each.  `#[serde(default)]` fills in the rest before `merge` sees
    the file, and that is where the layers meet.

    `Host` is what `load` asks its surroundings: environment variables, the
    disk, the parsers, the clock.  The result of a run is the configuration
    with a record of the files that went into it. -/

namespace ServiceLoad

open ServiceControl ServiceSession

/-! ## Paths -/

/-- `PathBuf` as the components `Path::components` gives: `.` counts only at the
    start of a relative path. -/
structure PathBuf where
  root : Bool
  parts : List String
  deriving DecidableEq, Repr

namespace PathBuf

/-- `Path::join`: an absolute path replaces. -/
def join (base path : PathBuf) : PathBuf :=
  if path.root then path
  else if base.root = false ∧ base.parts = [] then path
  else ⟨base.root, base.parts ++ path.parts.filter (· ≠ ".")⟩

/-- `Path::parent`. -/
def parent (p : PathBuf) : Option PathBuf :=
  if p.parts = [] then none else some ⟨p.root, p.parts.dropLast⟩

/-- `Path::starts_with`: `p` is `base` or lies below it. -/
def startsWith (p base : PathBuf) : Prop := p.root = base.root ∧ base.parts <+: p.parts

instance (p base : PathBuf) : Decidable (p.startsWith base) :=
  inferInstanceAs (Decidable (_ ∧ _))

/-- The pieces between slashes. -/
def pieces : List Char → List (List Char)
  | [] => [[]]
  | c :: cs =>
      if c = '/' then [] :: pieces cs
      else match pieces cs with
        | [] => [[c]]
        | w :: ws => (c :: w) :: ws

/-- `PathBuf::from`. -/
def ofString (s : String) : PathBuf :=
  let chars := s.toList
  let names := ((pieces chars).filter (· ≠ [])).map String.ofList
  let root := chars.head? = some '/'
  match names with
  | "." :: rest =>
      ⟨root, if root then rest.filter (· ≠ ".") else "." :: rest.filter (· ≠ ".")⟩
  | names => ⟨root, names.filter (· ≠ ".")⟩

/-- One more name. -/
def child (p : PathBuf) (name : String) : PathBuf := p.join ⟨false, [name]⟩

/-- What is joined to a path lies below it, unless it is absolute. -/
theorem startsWith_join {base path : PathBuf} (h : path.root = false) :
    (base.join path).startsWith base := by
  simp only [join, h]
  rw [if_neg nofun]
  split
  · rename_i hempty
    exact ⟨h.trans hempty.1.symm, by rw [hempty.2]; exact ⟨path.parts, rfl⟩⟩
  · exact ⟨rfl, path.parts.filter (· ≠ "."), rfl⟩

end PathBuf

/-- `absolutize`. -/
def absolutize (home path : PathBuf) : PathBuf :=
  if path.root then path else home.join path

/-! ## Sections

    `f` is `Full` for a configuration and `Option` for what a file says. -/

/-- A field that has its value. -/
abbrev Full (α : Type) : Type := α

/-- `ServiceSection`. -/
structure ServiceSection (f : Type → Type) where
  profile : f String
  instanceId : f String
  homeDir : f PathBuf
  dataDir : f PathBuf
  logDir : f PathBuf
  pluginDir : f PathBuf
  runDir : f PathBuf

/-- `WorkerProfile`. -/
inductive WorkerProfile where
  | lowResource
  | desktop
  | server
  deriving DecidableEq, Repr

/-- `CoreSection`. -/
structure CoreSection (f : Type → Type) where
  maxTasks : f Nat
  shutdownTimeoutMs : f Nat
  workerProfile : f WorkerProfile
  workerThreads : f (Option Nat)
  blockingThreads : f (Option Nat)
  poolQueueLimit : f (Option Nat)
  poolMaxInflightBytes : f (Option Nat)
  maxIsolatedWorkers : f (Option Nat)
  runnerWallClockTimeoutMs : f (Option Nat)
  cancelGracePeriodMs : f (Option Nat)
  workerHealthTimeoutMs : f (Option Nat)

/-- `IpcTransport`. -/
inductive IpcTransport where
  | namedPipe
  | unixSocket
  | tcpDebug
  deriving DecidableEq, Repr

/-- `IpcSection`. -/
structure IpcSection (f : Type → Type) where
  enabled : f Bool
  transport : f IpcTransport
  codec : f IpcCodec
  name : f String
  token : f (Option String)
  tcpDebugAddr : f (Option String)
  maxFrameBytes : f Nat
  maxPayloadBytes : f Nat
  maxJsonlLineBytes : f Nat
  maxInFlight : f Nat
  idleTimeoutMs : f Nat
  requestTimeoutMs : f Nat

/-- `ConfiguredPluginSelection`. -/
structure ConfiguredPluginSelection where
  id : String
  enabled : Bool
  config : Value

/-- `PluginsSection`. -/
structure PluginsSection (f : Type → Type) where
  configured : f (List ConfiguredPluginSelection)
  dynamicDirs : f (List PathBuf)
  disabledDir : f PathBuf

/-- `RunnersSection`. -/
structure RunnersSection (f : Type → Type) where
  restart : f Bool
  maxRestartPerMinute : f Nat
  gracefulShutdownMs : f Nat
  envAllowlist : f (List String)

/-- `ObserveSection`. -/
structure ObserveSection (f : Type → Type) where
  console : f Bool
  json : f Bool
  logFile : f String
  panicFile : f String

/-- `SecuritySection`. -/
structure SecuritySection (f : Type → Type) where
  controlTokenEnv : f String
  secretEnvPrefix : f String
  secretFile : f (Option PathBuf)

/-- The seven sections of `ServiceConfig`. -/
structure Sections where
  service : ServiceSection Full
  core : CoreSection Full
  ipc : IpcSection Full
  plugins : PluginsSection Full
  runners : RunnersSection Full
  observe : ObserveSection Full
  security : SecuritySection Full

/-- What a file says. -/
structure FileConfig where
  service : Option (ServiceSection Option)
  core : Option (CoreSection Option)
  ipc : Option (IpcSection Option)
  plugins : Option (PluginsSection Option)
  runners : Option (RunnersSection Option)
  observe : Option (ObserveSection Option)
  security : Option (SecuritySection Option)

/-- `default_home_dir`, from what `dirs::home_dir` gives. -/
def defaultHomeDir (homeDir : Option PathBuf) : PathBuf :=
  (homeDir.getD ⟨false, ["."]⟩).child ".mutsuki"

/-- `ServiceConfig::default`. -/
def defaultSections (homeDir : Option PathBuf) : Sections where
  service :=
    { profile := "default"
      instanceId := "default"
      homeDir := defaultHomeDir homeDir
      dataDir := ⟨false, ["data"]⟩
      logDir := ⟨false, ["logs"]⟩
      pluginDir := ⟨false, ["plugins"]⟩
      runDir := ⟨false, ["run"]⟩ }
  core :=
    { maxTasks := 4096
      shutdownTimeoutMs := 30000
      workerProfile := WorkerProfile.desktop
      workerThreads := none
      blockingThreads := none
      poolQueueLimit := none
      poolMaxInflightBytes := none
      maxIsolatedWorkers := none
      runnerWallClockTimeoutMs := none
      cancelGracePeriodMs := some 30000
      workerHealthTimeoutMs := none }
  ipc :=
    { enabled := true
      transport := IpcTransport.unixSocket
      codec := IpcCodec.binary
      name := "mutsuki-service-default"
      token := none
      tcpDebugAddr := none
      maxFrameBytes := 1024 * 1024
      maxPayloadBytes := 512 * 1024
      maxJsonlLineBytes := 256 * 1024
      maxInFlight := 64
      idleTimeoutMs := 60000
      requestTimeoutMs := 30000 }
  plugins :=
    { configured := []
      dynamicDirs := [((defaultHomeDir homeDir).child "plugins").child "installed"]
      disabledDir := ((defaultHomeDir homeDir).child "plugins").child "disabled" }
  runners :=
    { restart := true
      maxRestartPerMinute := 5
      gracefulShutdownMs := 5000
      envAllowlist := ["PATH"] }
  observe :=
    { console := true
      json := false
      logFile := "service.log"
      panicFile := "panic.log" }
  security :=
    { controlTokenEnv := "MUTSUKI_CONTROL_TOKEN"
      secretEnvPrefix := "MUTSUKI_SECRET_"
      secretFile := none }

/-! ## Filling in defaults

    `#[serde(default)]` on a section: a field the file leaves out has the value
    it has in `Default::default()`. -/

/-- A `[service]` table over its defaults. -/
def ServiceSection.fill (d : ServiceSection Full) (s : ServiceSection Option) :
    ServiceSection Full where
  profile := s.profile.getD d.profile
  instanceId := s.instanceId.getD d.instanceId
  homeDir := s.homeDir.getD d.homeDir
  dataDir := s.dataDir.getD d.dataDir
  logDir := s.logDir.getD d.logDir
  pluginDir := s.pluginDir.getD d.pluginDir
  runDir := s.runDir.getD d.runDir

/-- A `[core]` table over its defaults. -/
def CoreSection.fill (d : CoreSection Full) (s : CoreSection Option) : CoreSection Full where
  maxTasks := s.maxTasks.getD d.maxTasks
  shutdownTimeoutMs := s.shutdownTimeoutMs.getD d.shutdownTimeoutMs
  workerProfile := s.workerProfile.getD d.workerProfile
  workerThreads := s.workerThreads.getD d.workerThreads
  blockingThreads := s.blockingThreads.getD d.blockingThreads
  poolQueueLimit := s.poolQueueLimit.getD d.poolQueueLimit
  poolMaxInflightBytes := s.poolMaxInflightBytes.getD d.poolMaxInflightBytes
  maxIsolatedWorkers := s.maxIsolatedWorkers.getD d.maxIsolatedWorkers
  runnerWallClockTimeoutMs := s.runnerWallClockTimeoutMs.getD d.runnerWallClockTimeoutMs
  cancelGracePeriodMs := s.cancelGracePeriodMs.getD d.cancelGracePeriodMs
  workerHealthTimeoutMs := s.workerHealthTimeoutMs.getD d.workerHealthTimeoutMs

/-- An `[ipc]` table over its defaults. -/
def IpcSection.fill (d : IpcSection Full) (s : IpcSection Option) : IpcSection Full where
  enabled := s.enabled.getD d.enabled
  transport := s.transport.getD d.transport
  codec := s.codec.getD d.codec
  name := s.name.getD d.name
  token := s.token.getD d.token
  tcpDebugAddr := s.tcpDebugAddr.getD d.tcpDebugAddr
  maxFrameBytes := s.maxFrameBytes.getD d.maxFrameBytes
  maxPayloadBytes := s.maxPayloadBytes.getD d.maxPayloadBytes
  maxJsonlLineBytes := s.maxJsonlLineBytes.getD d.maxJsonlLineBytes
  maxInFlight := s.maxInFlight.getD d.maxInFlight
  idleTimeoutMs := s.idleTimeoutMs.getD d.idleTimeoutMs
  requestTimeoutMs := s.requestTimeoutMs.getD d.requestTimeoutMs

/-- A `[plugins]` table over its defaults. -/
def PluginsSection.fill (d : PluginsSection Full) (s : PluginsSection Option) :
    PluginsSection Full where
  configured := s.configured.getD d.configured
  dynamicDirs := s.dynamicDirs.getD d.dynamicDirs
  disabledDir := s.disabledDir.getD d.disabledDir

/-- A `[runners]` table over its defaults. -/
def RunnersSection.fill (d : RunnersSection Full) (s : RunnersSection Option) :
    RunnersSection Full where
  restart := s.restart.getD d.restart
  maxRestartPerMinute := s.maxRestartPerMinute.getD d.maxRestartPerMinute
  gracefulShutdownMs := s.gracefulShutdownMs.getD d.gracefulShutdownMs
  envAllowlist := s.envAllowlist.getD d.envAllowlist

/-- An `[observe]` table over its defaults. -/
def ObserveSection.fill (d : ObserveSection Full) (s : ObserveSection Option) :
    ObserveSection Full where
  console := s.console.getD d.console
  json := s.json.getD d.json
  logFile := s.logFile.getD d.logFile
  panicFile := s.panicFile.getD d.panicFile

/-- A `[security]` table over its defaults. -/
def SecuritySection.fill (d : SecuritySection Full) (s : SecuritySection Option) :
    SecuritySection Full where
  controlTokenEnv := s.controlTokenEnv.getD d.controlTokenEnv
  secretEnvPrefix := s.secretEnvPrefix.getD d.secretEnvPrefix
  secretFile := s.secretFile.getD d.secretFile

/-- A section of a file: filled in, or all defaults. -/
def fillWith {α β : Type} (fill : α → β → α) (d : α) : Option β → α
  | none => d
  | some s => fill d s

/-- The `ServiceConfig` a file deserialises to. -/
def FileConfig.filled (c : FileConfig) (d : Sections) : Sections where
  service := fillWith ServiceSection.fill d.service c.service
  core := fillWith CoreSection.fill d.core c.core
  ipc := fillWith IpcSection.fill d.ipc c.ipc
  plugins := fillWith PluginsSection.fill d.plugins c.plugins
  runners := fillWith RunnersSection.fill d.runners c.runners
  observe := fillWith ObserveSection.fill d.observe c.observe
  security := fillWith SecuritySection.fill d.security c.security

/-- `ServiceConfig::merge`. -/
def Sections.merge (_self other : Sections) : Sections where
  service := other.service
  core := other.core
  ipc := other.ipc
  plugins := other.plugins
  runners := other.runners
  observe := other.observe
  security := other.security

/-- `ServiceConfig::resolve_relative_dirs`. -/
def Sections.resolveRelativeDirs (c : Sections) : Sections :=
  let home := c.service.homeDir
  { c with
    service :=
      { c.service with
        dataDir := absolutize home c.service.dataDir
        logDir := absolutize home c.service.logDir
        pluginDir := absolutize home c.service.pluginDir
        runDir := absolutize home c.service.runDir }
    plugins :=
      { c.plugins with
        dynamicDirs := c.plugins.dynamicDirs.map (absolutize home)
        disabledDir := absolutize home c.plugins.disabledDir } }

/-! ## The surroundings -/

/-- What stands at a path. -/
inductive Node where
  | absent
  | directory
  | file (content : String)
  /-- a file `read_to_string` fails on -/
  | unreadable (detail : String)

/-- `Path::exists`. -/
def Node.present : Node → Bool
  | .absent => false
  | _ => true

/-- `Path::is_file`. -/
def Node.isFile : Node → Bool
  | .file _ | .unreadable _ => true
  | _ => false

/-- `fs::read_to_string`. -/
def Node.read : Node → Except String String
  | .file content => .ok content
  | .unreadable detail => .error detail
  | .directory => .error "Is a directory (os error 21)"
  | .absent => .error "No such file or directory (os error 2)"

/-- `ConfigError`, the variants `load` returns. -/
inductive ConfigError where
  | missingConfigFile (path : PathBuf)
  | readFile (path : PathBuf) (detail : String)
  | parseFile (path : PathBuf) (detail : String)
  | readSecretFile (path : PathBuf) (detail : String)
  | parseSecretFile (path : PathBuf) (detail : String)
  | invalidSecretFile (path : PathBuf) (detail : String)
  | createDir (path : PathBuf) (detail : String)
  | directoryAccess (path : PathBuf) (detail : String)

/-- What `load` asks its surroundings: `env::var`, `dirs::home_dir`, the disk,
    `toml::from_str` of a configuration and of a secret file, `create_dir_all`,
    the access probe, `fs::write`, and what a generated token is made of. -/
structure Host where
  env : String → Option String
  homeDir : Option PathBuf
  disk : PathBuf → Node
  parse : String → Except String FileConfig
  parseSecrets : String → Except String (List (String × String))
  createDirAll : PathBuf → Except String Unit
  verifyDirectoryAccess : PathBuf → Except String Unit
  write : PathBuf → Except String Unit
  nanos : Nat
  pid : Nat

/-- `ConfigOverrides`. -/
structure ConfigOverrides where
  profile : Option String
  configFile : Option PathBuf
  homeDir : Option PathBuf
  controlToken : Option String

/-- `read_optional_config`; the file keeps its gaps. -/
def readOptionalConfig (host : Host) (path : PathBuf) :
    Except ConfigError (Option FileConfig) :=
  if (host.disk path).present = false then .ok none
  else match (host.disk path).read with
    | .error detail => .error (.readFile path detail)
    | .ok content =>
        match host.parse content with
        | .error detail => .error (.parseFile path detail)
        | .ok config => .ok (some config)

/-! ## Text -/

/-- The `White_Space` property, which `char::is_whitespace` tests. -/
def isWhitespace (c : Char) : Bool :=
  let n := c.toNat
  (0x09 ≤ n && n ≤ 0x0D) || n == 0x20 || n == 0x85 || n == 0xA0 || n == 0x1680
    || (0x2000 ≤ n && n ≤ 0x200A) || n == 0x2028 || n == 0x2029 || n == 0x202F || n == 0x205F
    || n == 0x3000

/-- White space taken off both ends. -/
def trimChars (l : List Char) : List Char :=
  ((l.dropWhile isWhitespace).reverse.dropWhile isWhitespace).reverse

/-- `str::trim`. -/
def trim (s : String) : String := String.ofList (trimChars s.toList)

/-- There is a character in it that is not white space. -/
def Inked (s : String) : Prop := ∃ c ∈ s.toList, isWhitespace c = false

instance (s : String) : Decidable (Inked s) :=
  inferInstanceAs (Decidable (∃ c ∈ s.toList, isWhitespace c = false))

/-- `char::is_ascii_alphanumeric`. -/
def isAsciiAlphanumeric (c : Char) : Bool :=
  ('0' ≤ c && c ≤ '9') || ('A' ≤ c && c ≤ 'Z') || ('a' ≤ c && c ≤ 'z')

/-- `normalize_secret_key`. -/
def normalizeSecretKey (key : String) : String :=
  String.ofList
    ((trimChars key.toList).map fun c => if isAsciiAlphanumeric c then c.toUpper else '_')

/-! ## Loading -/

/-- The home directory a caller or the environment asks for. -/
def givenHome (overrides : ConfigOverrides) (host : Host) : Option PathBuf :=
  overrides.homeDir <|> (host.env "MUTSUKI_HOME").map PathBuf.ofString

/-- The configuration `load` starts from. -/
def startSections (overrides : ConfigOverrides) (host : Host) : Sections :=
  let d := defaultSections host.homeDir
  { d with
    service := { d.service with
      homeDir := (givenHome overrides host).getD d.service.homeDir } }.resolveRelativeDirs

/-- The profile `load` selects before it reads the profile file. -/
def selectProfile (overrides : ConfigOverrides) (host : Host) (localConfig : Option FileConfig) :
    String :=
  let d := defaultSections host.homeDir
  let localProfile := (localConfig.map fun c => (c.filled d).service.profile).filter (· ≠ "")
  (overrides.profile <|> host.env "MUTSUKI_PROFILE" <|> localProfile).getD d.service.profile

/-- Where the local service file is looked for. -/
def localFileOf (overrides : ConfigOverrides) (home : PathBuf) : PathBuf :=
  overrides.configFile.getD ((home.child "config").child "service.toml")

/-- Where the file of a profile is looked for. -/
def profileFileOf (home : PathBuf) (profile : String) : PathBuf :=
  ((home.child "config").child "profiles").join (PathBuf.ofString (profile ++ ".toml"))

/-- `config.merge(..)` of a file that was found. -/
def Sections.mergeFile (c : Sections) (host : Host) : Option FileConfig → Sections
  | none => c
  | some file => c.merge (file.filled (defaultSections host.homeDir))

/-- The configuration after both files, and what went into it. -/
structure Layers where
  sections : Sections
  localFile : PathBuf
  profileName : String
  profile : Option FileConfig
  localConfig : Option FileConfig

/-- `ServiceConfig::load` up to the second `merge`. -/
def loadLayers (overrides : ConfigOverrides) (host : Host) : Except ConfigError Layers := do
  let start := startSections overrides host
  let localFile := localFileOf overrides start.service.homeDir
  -- only a file that was named must be there
  if overrides.configFile.isSome ∧ (host.disk localFile).isFile = false then
    throw (.missingConfigFile localFile)
  let localConfig ← readOptionalConfig host localFile
  let profileName := selectProfile overrides host localConfig
  let selected : Sections := { start with service := { start.service with profile := profileName } }
  let profile ← readOptionalConfig host (profileFileOf start.service.homeDir profileName)
  -- each `merge` replaces whole sections
  let merged := selected.mergeFile host profile
  let localConfig ← readOptionalConfig host localFile
  return ⟨merged.mergeFile host localConfig, localFile, profileName, profile, localConfig⟩

/-- `ServiceConfig::apply_env`. -/
def Sections.applyEnv (c : Sections) (env : String → Option String) : Sections :=
  { c with
    service := { c.service with
      instanceId := (env "MUTSUKI_INSTANCE_ID").getD c.service.instanceId }
    ipc :=
      { c.ipc with
        token := env c.security.controlTokenEnv <|> c.ipc.token
        transport := match env "MUTSUKI_IPC_TRANSPORT" with
          | some "named-pipe" => IpcTransport.namedPipe
          | some "unix-socket" => IpcTransport.unixSocket
          | some "tcp-debug" => IpcTransport.tcpDebug
          -- an unknown name is ignored
          | _ => c.ipc.transport } }

/-- The two overrides `load` applies last. -/
def Sections.applyOverrides (c : Sections) (overrides : ConfigOverrides) : Sections :=
  { c with
    service := { c.service with profile := overrides.profile.getD c.service.profile }
    ipc := { c.ipc with token := overrides.controlToken <|> c.ipc.token } }

/-- `validate_secret_entries`, entry by entry. -/
def validateSecretEntries (path : PathBuf) (secrets : List (String × String)) :
    List (String × String) → Except ConfigError (List (String × String))
  | [] => .ok secrets
  | (rawKey, value) :: entries =>
      let key := normalizeSecretKey rawKey
      if key = "" then .error (.invalidSecretFile path "secret key must not be empty")
      else if trim value = "" then
        .error (.invalidSecretFile path ("secret " ++ rawKey ++ " must not be empty"))
      -- two spellings of one key
      else if (secrets.lookup key).isSome then
        .error (.invalidSecretFile path ("duplicate normalized secret key " ++ key))
      else validateSecretEntries path (secrets ++ [(key, value)]) entries

/-- `ServiceConfig::load_secret_file`: the sections and the secrets. -/
def loadSecretFile (host : Host) (localFile : PathBuf) (c : Sections) :
    Except ConfigError (Sections × List (String × String)) :=
  match c.security.secretFile with
  | none => .ok (c, [])
  | some configured =>
      -- a relative path is one beside the local file
      let path := if configured.root then configured
        else (localFile.parent.getD ⟨false, ["."]⟩).join configured
      match (host.disk path).read with
      | .error detail => .error (.readSecretFile path detail)
      | .ok content =>
          match host.parseSecrets content with
          | .error detail => .error (.parseSecretFile path detail)
          | .ok entries =>
              match validateSecretEntries path [] entries with
              | .error e => .error e
              | .ok secrets =>
                  .ok ({ c with security := { c.security with secretFile := some path } }, secrets)

/-- `ServiceConfig::ensure_dirs`. -/
def ensureDirs (host : Host) (c : Sections) : Except ConfigError Unit :=
  [c.service.homeDir, c.service.dataDir, c.service.logDir, c.service.pluginDir,
    c.service.runDir].forM fun path =>
      match host.createDirAll path with
      | .error detail => .error (.createDir path detail)
      | .ok () =>
          match host.verifyDirectoryAccess path with
          | .error detail => .error (.directoryAccess path detail)
          | .ok () => .ok ()

/-- `generate_local_token`. -/
def generateLocalToken (host : Host) : String :=
  "local-" ++ String.ofList (Nat.toDigits 16 host.nanos) ++ "-" ++ toString host.pid

/-- Where the local token is kept. -/
def tokenPath (c : Sections) : PathBuf := c.service.runDir.child "control.token"

/-- The token in `control.token`, if there is one. -/
def storedToken (host : Host) (path : PathBuf) : Option String :=
  match (host.disk path).read with
  | .error _ => none
  | .ok content => if trim content = "" then none else some (trim content)

/-- `ServiceConfig::ensure_control_token`: the token and the disk afterwards. -/
def ensureControlToken (host : Host) (c : Sections) :
    Except ConfigError (String × (PathBuf → Node)) :=
  match c.ipc.token with
  -- a configured token is taken as it is, also a blank one
  | some token => .ok (token, host.disk)
  | none =>
      if host.env "MUTSUKI_TEST_ALLOW_EMPTY_TOKEN" = some "1" then .ok ("", host.disk)
      else match storedToken host (tokenPath c) with
        | some token => .ok (token, host.disk)
        | none =>
            match host.write (tokenPath c) with
            | .error detail => .error (.createDir (tokenPath c) detail)
            | .ok () =>
                let generated := generateLocalToken host
                .ok (generated, fun p =>
                  if p = tokenPath c then .file generated else host.disk p)

/-- What a successful `load` leaves. -/
structure Loaded where
  sections : Sections
  controlToken : String
  secrets : List (String × String)
  pluginStore : Option PathBuf
  layers : Layers
  disk : PathBuf → Node

/-- The sections before directories are resolved for the last time. -/
def overriddenSections (overrides : ConfigOverrides) (host : Host) (layers : Layers) : Sections :=
  (layers.sections.applyEnv host.env).applyOverrides overrides

/-- `ServiceConfig::load`. -/
def load (overrides : ConfigOverrides) (host : Host) : Except ConfigError Loaded := do
  let layers ← loadLayers overrides host
  let (c, secrets) ← loadSecretFile host layers.localFile
    (overriddenSections overrides host layers)
  let c := c.resolveRelativeDirs
  ensureDirs host c
  let (token, disk) ← ensureControlToken host c
  return {
    sections := { c with ipc := { c.ipc with token := some token } }
    controlToken := token
    secrets := secrets
    pluginStore := if (host.disk layers.localFile).isFile then some layers.localFile else none
    layers := layers
    disk := disk }

end ServiceLoad
