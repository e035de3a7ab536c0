import MutsukiServiceHost.ExceptStepProofs
import MutsukiServiceHost.ServiceConfigProofs

/-! # The layers of a configuration

    `docs/config.md` gives the load order: defaults, profile file, local file,
    environment, command line.  `merge` replaces all seven sections at once and
    `#[serde(default)]` has filled the gaps of a file before, so a file that is
    found hides everything below it.  Two consequences, each with the exact
    condition under which the order holds all the same:

    * `overrides_win_iff` — the home directory and the profile a caller or the
      environment asks for;
    * `profile_effective_iff` — sections of the profile that the local file does
      not mention. -/

namespace ServiceLoad

open ExceptStep ServiceControl ServiceSession

/-! ## What a successful load did -/

/-- The local service file, as `load` finds it. -/
def foundLocal (overrides : ConfigOverrides) (host : Host) : Option FileConfig :=
  (readOptionalConfig host
    (localFileOf overrides (startSections overrides host).service.homeDir)).toOption.join

/-- The profile `load` selects. -/
def selectedProfile (overrides : ConfigOverrides) (host : Host) : String :=
  selectProfile overrides host (foundLocal overrides host)

/-- The file of the selected profile, as `load` finds it. -/
def foundProfile (overrides : ConfigOverrides) (host : Host) : Option FileConfig :=
  (readOptionalConfig host (profileFileOf (startSections overrides host).service.homeDir
    (selectedProfile overrides host))).toOption.join

/-- The file that is merged last. -/
def lastFile (overrides : ConfigOverrides) (host : Host) : Option FileConfig :=
  foundLocal overrides host <|> foundProfile overrides host

/-- What `loadLayers` takes from where. -/
structure LayersFrom (overrides : ConfigOverrides) (host : Host) (l : Layers) : Prop where
  localConfig : l.localConfig = foundLocal overrides host
  profileName : l.profileName = selectedProfile overrides host
  profile : l.profile = foundProfile overrides host
  sections : l.sections = (({ startSections overrides host with
    service := { (startSections overrides host).service with
      profile := l.profileName } } : Sections).mergeFile host l.profile).mergeFile host
        l.localConfig

/-- The steps of `loadLayers`. -/
theorem loadLayers_ok {overrides : ConfigOverrides} {host : Host} {l : Layers}
    (h : loadLayers overrides host = .ok l) : LayersFrom overrides host l := by
  simp only [loadLayers] at h
  split at h
  · exact nomatch h
  · obtain ⟨local₁, hlocal₁, h⟩ := bind_eq_ok_iff.mp h
    obtain ⟨profile, hprofile, h⟩ := bind_eq_ok_iff.mp h
    obtain ⟨local₂, hlocal₂, h⟩ := bind_eq_ok_iff.mp h
    -- the local file is read twice, from one disk
    rw [hlocal₁] at hlocal₂
    cases hlocal₂
    cases h
    have hlocal : foundLocal overrides host = local₁ := by
      rw [foundLocal, hlocal₁]
      cases local₁ <;> rfl
    have hname : selectedProfile overrides host = selectProfile overrides host local₁ := by
      rw [selectedProfile, hlocal]
    have hfound : foundProfile overrides host = profile := by
      rw [foundProfile, hname, hprofile]
      cases profile <;> rfl
    exact ⟨hlocal.symm, hname.symm, hfound.symm, rfl⟩

/-- `load_secret_file` touches `security.secret_file` alone. -/
theorem loadSecretFile_ok {host : Host} {localFile : PathBuf} {c c' : Sections}
    {secrets : List (String × String)} (h : loadSecretFile host localFile c = .ok (c', secrets)) :
    c'.service = c.service ∧ c'.ipc = c.ipc ∧ c'.plugins = c.plugins := by
  simp only [loadSecretFile] at h
  split at h
  · cases h
    exact ⟨rfl, rfl, rfl⟩
  · split at h
    · exact nomatch h
    · split at h
      · exact nomatch h
      · split at h
        · exact nomatch h
        · cases h
          exact ⟨rfl, rfl, rfl⟩

/-- The steps of `load`. -/
theorem load_ok {overrides : ConfigOverrides} {host : Host} {r : Loaded}
    (h : load overrides host = .ok r) :
    loadLayers overrides host = .ok r.layers ∧ ∃ c : Sections,
      c.service = (overriddenSections overrides host r.layers).service ∧
      c.ipc = (overriddenSections overrides host r.layers).ipc ∧
      c.plugins = (overriddenSections overrides host r.layers).plugins ∧
      ensureControlToken host c.resolveRelativeDirs = .ok (r.controlToken, r.disk) ∧
      r.sections.service = c.resolveRelativeDirs.service ∧
      r.sections.plugins = c.resolveRelativeDirs.plugins := by
  simp only [load] at h
  obtain ⟨layers, hlayers, h⟩ := bind_eq_ok_iff.mp h
  obtain ⟨⟨c, secrets⟩, hsecret, h⟩ := bind_eq_ok_iff.mp h
  obtain ⟨-, -, h⟩ := bind_eq_ok_iff.mp h
  obtain ⟨⟨token, disk⟩, htoken, h⟩ := bind_eq_ok_iff.mp h
  cases h
  obtain ⟨hservice, hipc, hplugins⟩ := loadSecretFile_ok hsecret
  exact ⟨hlayers, c, hservice, hipc, hplugins, htoken, rfl, rfl⟩

/-- The last file decides every section; without files the start does. -/
theorem sections_eq {overrides : ConfigOverrides} {host : Host} {l : Layers}
    (h : loadLayers overrides host = .ok l) :
    l.sections = match lastFile overrides host with
      | some file => file.filled (defaultSections host.homeDir)
      | none => { startSections overrides host with
          service := { (startSections overrides host).service with
            profile := selectedProfile overrides host } } := by
  have hfrom := loadLayers_ok h
  rw [hfrom.sections, hfrom.localConfig, hfrom.profile, hfrom.profileName, lastFile]
  cases foundLocal overrides host with
  | some file => rfl
  | none =>
      cases foundProfile overrides host with
      | some file => rfl
      | none => rfl

/-! ## A machine to load on -/

/-- A file without tables. -/
def emptyFile : FileConfig := ⟨none, none, none, none, none, none, none⟩

/-- A local file that sets its home directory and those of the plugins. -/
def fullText : String :=
  "[service]\nhome_dir = \"/srv/host\"\n\n" ++
    "[plugins]\ndynamic_dirs = [\"plugins\"]\ndisabled_dir = \"off\"\n"

/-- A local file that sets the instance alone. -/
def shortText : String := "[service]\ninstance_id = \"desk\"\n"

/-- Some texts, and what the parser makes of them. -/
def sampleTexts : List (String × FileConfig) :=
  [(shortText,
      { emptyFile with service := some ⟨none, some "desk", none, none, none, none, none⟩ }),
    (fullText,
      { emptyFile with
        service := some ⟨none, none, some ⟨true, ["srv", "host"]⟩, none, none, none, none⟩
        plugins := some ⟨none, some [⟨false, ["plugins"]⟩], some ⟨false, ["off"]⟩⟩ }),
    ("[observe]\njson = true\n",
      { emptyFile with observe := some ⟨none, some true, none, none⟩ }),
    ("[observe]\nconsole = true\n",
      { emptyFile with observe := some ⟨some true, none, none, none⟩ })]

/-- A user's machine with these files and variables. -/
def sampleHost (files env : List (String × String)) : Host where
  env name := env.lookup name
  homeDir := some (PathBuf.ofString "/home/user")
  disk path :=
    match files.find? fun f => PathBuf.ofString f.1 = path with
    | some f => .file f.2
    | none => .absent
  parse text :=
    match sampleTexts.lookup text with
    | some file => .ok file
    | none => .error "TOML parse error"
  parseSecrets _ := .ok []
  createDirAll _ := .ok ()
  verifyDirectoryAccess _ := .ok ()
  write _ := .ok ()
  nanos := 0x18a3f
  pid := 4242

/-- A caller that asks for nothing. -/
def noOverrides : ConfigOverrides := ⟨none, none, none, none⟩

/-- A local file with a `[service]` table and the given default profile. -/
def twoFileHost (profileText : String) : Host :=
  sampleHost
    [("/home/user/.mutsuki/config/service.toml", shortText),
      ("/home/user/.mutsuki/config/profiles/default.toml", profileText)] []

/-! ## The profile under the local file -/

/-- The top-level tables of a file. -/
inductive SectionName where
  | service
  | core
  | ipc
  | plugins
  | runners
  | observe
  | security
  deriving DecidableEq, Repr

/-- What a table holds once it is filled in. -/
def SectionName.Table : SectionName → Type
  | .service => ServiceSection Full
  | .core => CoreSection Full
  | .ipc => IpcSection Full
  | .plugins => PluginsSection Full
  | .runners => RunnersSection Full
  | .observe => ObserveSection Full
  | .security => SecuritySection Full

/-- One section of a configuration. -/
def Sections.get (c : Sections) : (name : SectionName) → name.Table
  | .service => c.service
  | .core => c.core
  | .ipc => c.ipc
  | .plugins => c.plugins
  | .runners => c.runners
  | .observe => c.observe
  | .security => c.security

/-- The file has the table, however few of its fields. -/
def FileConfig.mentions (file : FileConfig) : SectionName → Bool
  | .service => file.service.isSome
  | .core => file.core.isSome
  | .ipc => file.ipc.isSome
  | .plugins => file.plugins.isSome
  | .runners => file.runners.isSome
  | .observe => file.observe.isSome
  | .security => file.security.isSome

theorem fillWith_none {α β : Type} {fill : α → β → α} {d : α} {o : Option β}
    (h : o.isSome = false) : fillWith fill d o = d := by
  cases o with
  | none => rfl
  | some s => exact nomatch h

/-- A table a file leaves out is all defaults. -/
theorem FileConfig.get_filled {file : FileConfig} {name : SectionName} (d : Sections)
    (h : file.mentions name = false) : (file.filled d).get name = d.get name := by
  cases name with
  | service => exact fillWith_none h
  | core => exact fillWith_none h
  | ipc => exact fillWith_none h
  | plugins => exact fillWith_none h
  | runners => exact fillWith_none h
  | observe => exact fillWith_none h
  | security => exact fillWith_none h

/-- The layering of a profile and a local file, table by table. -/
structure ProfileEffective (d c : Sections) (profile localConfig : FileConfig) : Prop where
  fromLocal : ∀ name, localConfig.mentions name = true →
    c.get name = (localConfig.filled d).get name
  fromProfile : ∀ name, localConfig.mentions name = false → profile.mentions name = true →
    c.get name = (profile.filled d).get name
  fromDefaults : ∀ name, localConfig.mentions name = false → profile.mentions name = false →
    c.get name = d.get name

/-- **THE PROFILE IS HIDDEN**: with a local file present, a table that only the
    profile has keeps its value exactly when that value is the default. -/
theorem profile_effective_iff {overrides : ConfigOverrides} {host : Host} {l : Layers}
    {profile localConfig : FileConfig} (h : loadLayers overrides host = .ok l)
    (hlocal : foundLocal overrides host = some localConfig)
    (hprofile : foundProfile overrides host = some profile) :
    l.profile = some profile ∧
      (ProfileEffective (defaultSections host.homeDir) l.sections profile localConfig ↔
        ∀ name, localConfig.mentions name = false → profile.mentions name = true →
          (profile.filled (defaultSections host.homeDir)).get name =
            (defaultSections host.homeDir).get name) := by
  refine ⟨(loadLayers_ok h).profile.trans hprofile, ?_⟩
  have hsections : l.sections = localConfig.filled (defaultSections host.homeDir) := by
    rw [sections_eq h, lastFile, hlocal]
    rfl
  constructor
  · intro heff name hnot hhas
    rw [← heff.fromProfile name hnot hhas, hsections]
    exact FileConfig.get_filled _ hnot
  · intro hdefault
    refine ⟨?_, ?_, ?_⟩
    · intro name _
      rw [hsections]
    · intro name hnot hhas
      rw [hdefault name hnot hhas, hsections]
      exact FileConfig.get_filled _ hnot
    · intro name hnot _
      rw [hsections]
      exact FileConfig.get_filled _ hnot

/-- A profile that repeats a default is safe under a local file. -/
theorem profile_effective_sample :
    ∃ l profile localConfig,
      loadLayers noOverrides (twoFileHost "[observe]\nconsole = true\n") = .ok l ∧
      localConfig.mentions .observe = false ∧ profile.mentions .observe = true ∧
      ProfileEffective (defaultSections (some ⟨true, ["home", "user"]⟩)) l.sections profile
        localConfig := by
  refine ⟨_, _, _, rfl, ?_, ?_, (profile_effective_iff
    (show loadLayers noOverrides (twoFileHost "[observe]\nconsole = true\n") = .ok _ from rfl)
    rfl rfl).2.mpr ?_⟩
  · rfl
  · rfl
  · intro name hnot hhas
    cases name with
    | service => exact nomatch hnot
    | core => exact nomatch hhas
    | ipc => exact nomatch hhas
    | plugins => exact nomatch hhas
    | runners => exact nomatch hhas
    | observe => rfl
    | security => exact nomatch hhas

/-- `json = true` in the profile is lost to a local file that says nothing about
    `[observe]`. -/
theorem profile_lost_under_local :
    ∃ l profile localConfig,
      loadLayers noOverrides (twoFileHost "[observe]\njson = true\n") = .ok l ∧
      foundLocal noOverrides (twoFileHost "[observe]\njson = true\n") = some localConfig ∧
      foundProfile noOverrides (twoFileHost "[observe]\njson = true\n") = some profile ∧
      localConfig.mentions .observe = false ∧ profile.mentions .observe = true ∧
      (profile.filled (defaultSections (some ⟨true, ["home", "user"]⟩))).observe.json = true ∧
      l.sections.observe.json = false ∧
      ¬ ProfileEffective (defaultSections (some ⟨true, ["home", "user"]⟩)) l.sections profile
        localConfig := by
  refine ⟨_, _, _, rfl, rfl, rfl, rfl, rfl, rfl, rfl, ?_⟩
  intro heff
  have hobserve := heff.fromProfile .observe rfl rfl
  exact absurd (congrArg ObserveSection.json hobserve) nofun

/-! ## Overrides and the last file -/

/-- Joined to `home` or absolute: below `home` if relative or there already. -/
theorem absolutize_startsWith {home path : PathBuf} :
    (absolutize home path).startsWith home ↔ path.root = false ∨ path.startsWith home := by
  cases hroot : path.root with
  | false =>
      have hrel : absolutize home path = home.join path := by simp [absolutize, hroot]
      rw [hrel]
      exact ⟨fun _ => Or.inl rfl, fun _ => PathBuf.startsWith_join hroot⟩
  | true =>
      rw [absolutize, if_pos hroot]
      exact ⟨Or.inr, fun h => h.resolve_left nofun⟩

/-- `resolve_relative_dirs` a second time moves nothing out of `home`. -/
theorem absolutize_twice_startsWith {home path : PathBuf} :
    (absolutize home (absolutize home path)).startsWith home ↔
      path.root = false ∨ path.startsWith home := by
  rw [absolutize_startsWith, absolutize_startsWith]
  constructor
  · rintro (hrel | hbelow)
    · refine Or.inl ?_
      cases hroot : path.root with
      | false => rfl
      | true =>
          rw [absolutize, if_pos hroot, hroot] at hrel
          exact nomatch hrel
    · exact hbelow
  · exact Or.inr

/-- The profile a caller or the environment asks for. -/
def givenProfile (overrides : ConfigOverrides) (host : Host) : Option String :=
  overrides.profile <|> host.env "MUTSUKI_PROFILE"

/-- No file that is found sets the field. -/
def Unset {α : Type} (overrides : ConfigOverrides) (host : Host)
    (field : FileConfig → Option α) : Prop :=
  ∀ file, foundLocal overrides host = some file ∨ foundProfile overrides host = some file →
    field file = none

theorem Unset.last {α : Type} {overrides : ConfigOverrides} {host : Host}
    {field : FileConfig → Option α} {file : FileConfig} (h : Unset overrides host field)
    (hlast : lastFile overrides host = some file) : field file = none := by
  rw [lastFile] at hlast
  cases hlocal : foundLocal overrides host with
  | some localConfig =>
      rw [hlocal] at hlast
      exact h file (Or.inl (hlocal.trans hlast))
  | none =>
      rw [hlocal] at hlast
      exact h file (Or.inr hlast)

/-- The sections the environment and the overrides are applied to. -/
def baseSections (overrides : ConfigOverrides) (host : Host) : Sections :=
  match lastFile overrides host with
  | some file => file.filled (defaultSections host.homeDir)
  | none => { startSections overrides host with
      service := { (startSections overrides host).service with
        profile := selectedProfile overrides host } }

/-- The home directory of the last file, or the one `load` started from. -/
def effectiveHome (overrides : ConfigOverrides) (host : Host) : PathBuf :=
  match lastFile overrides host with
  | some file => (file.filled (defaultSections host.homeDir)).service.homeDir
  | none => (givenHome overrides host).getD (defaultHomeDir host.homeDir)

theorem baseSections_homeDir (overrides : ConfigOverrides) (host : Host) :
    (baseSections overrides host).service.homeDir = effectiveHome overrides host := by
  rw [baseSections, effectiveHome]
  cases lastFile overrides host with
  | some file => rfl
  | none => rfl

/-- What `load` does to the base in the two sections that hold paths. -/
theorem load_paths {overrides : ConfigOverrides} {host : Host} {r : Loaded}
    (h : load overrides host = .ok r) :
    r.sections.service =
      ((baseSections overrides host).applyEnv host.env |>.applyOverrides overrides
        |>.resolveRelativeDirs).service ∧
    r.sections.plugins = (baseSections overrides host).resolveRelativeDirs.plugins := by
  obtain ⟨hlayers, c, hservice, -, hplugins, -, hrservice, hrplugins⟩ := load_ok h
  have hbase : r.layers.sections = baseSections overrides host := sections_eq hlayers
  rw [overriddenSections, hbase] at hservice hplugins
  constructor
  · rw [hrservice]
    simp only [Sections.resolveRelativeDirs, hservice]
  · rw [hrplugins]
    simp only [Sections.resolveRelativeDirs, hservice, hplugins]
    rfl

/-- A directory of the configuration: how it is read off, and how a file sets
    it. -/
structure DirField where
  α : Type
  get : Sections → List PathBuf
  given : FileConfig → Option α
  filled : ∀ file d, given file = none → get (file.filled d) = get d
  resolved : ∀ c, get c.resolveRelativeDirs = (get c).map (absolutize c.service.homeDir)
  framed : ∀ (c : Sections) home profile,
    get { c with service := { c.service with homeDir := home, profile := profile } } = get c

/-- A directory that no file sets is its default, resolved: below the home
    directory exactly if the default is relative or there already. -/
theorem DirField.below_iff (dir : DirField) {overrides : ConfigOverrides} {host : Host}
    (hunset : Unset overrides host dir.given) :
    (∀ p ∈ dir.get (baseSections overrides host).resolveRelativeDirs,
        p.startsWith (effectiveHome overrides host)) ↔
      ∀ p ∈ dir.get (defaultSections host.homeDir),
        p.root = false ∨ p.startsWith (effectiveHome overrides host) := by
  rw [dir.resolved, baseSections_homeDir]
  cases hlast : lastFile overrides host with
  | some file =>
      have hbase : baseSections overrides host = file.filled (defaultSections host.homeDir) := by
        rw [baseSections, hlast]
      rw [hbase, dir.filled _ _ (hunset.last hlast)]
      simp only [List.forall_mem_map, absolutize_startsWith]
  | none =>
      have hhome : (givenHome overrides host).getD (defaultHomeDir host.homeDir) =
          effectiveHome overrides host := by
        rw [effectiveHome, hlast]
      have hbase : dir.get (baseSections overrides host) =
          (dir.get (defaultSections host.homeDir)).map
            (absolutize (effectiveHome overrides host)) := by
        rw [baseSections, hlast]
        refine (dir.framed (startSections overrides host) _ _).trans ?_
        refine (dir.resolved _).trans ?_
        rw [← hhome]
        exact congrArg _ (dir.framed (defaultSections host.homeDir) _ _)
      rw [hbase]
      simp only [List.forall_mem_map, absolutize_twice_startsWith]

theorem fillWith_field {α β γ : Type} (fill : α → β → α) {d : α} {o : Option β}
    (get : α → γ) (given : β → Option γ)
    (hfill : ∀ s, get (fill d s) = (given s).getD (get d)) (h : o.bind given = none) :
    get (fillWith fill d o) = get d := by
  cases o with
  | none => rfl
  | some s =>
      have hnone : given s = none := h
      exact (hfill s).trans (by rw [hnone]; rfl)

/-- A directory of the `[service]` table. -/
def serviceDir (get : ServiceSection Full → PathBuf)
    (given : ServiceSection Option → Option PathBuf)
    (hfill : ∀ d s, get (d.fill s) = (given s).getD (get d))
    (hresolved : ∀ c : Sections,
      get c.resolveRelativeDirs.service = absolutize c.service.homeDir (get c.service))
    (hframed : ∀ (s : ServiceSection Full) home profile,
      get { s with homeDir := home, profile := profile } = get s) : DirField where
  α := PathBuf
  get c := [get c.service]
  given file := file.service.bind given
  filled _ _ h := congrArg (fun p => [p]) (fillWith_field _ get given (hfill _) h)
  resolved c := congrArg (fun p => [p]) (hresolved c)
  framed c home profile := congrArg (fun p => [p]) (hframed c.service home profile)

/-- The directories of `[service]`. -/
def serviceDirs : List DirField :=
  [serviceDir (·.dataDir) (·.dataDir) (fun _ _ => rfl) (fun _ => rfl) (fun _ _ _ => rfl),
    serviceDir (·.logDir) (·.logDir) (fun _ _ => rfl) (fun _ => rfl) (fun _ _ _ => rfl),
    serviceDir (·.pluginDir) (·.pluginDir) (fun _ _ => rfl) (fun _ => rfl) (fun _ _ _ => rfl),
    serviceDir (·.runDir) (·.runDir) (fun _ _ => rfl) (fun _ => rfl) (fun _ _ _ => rfl)]

/-- `plugins.dynamic_dirs`. -/
def dynamicDirs : DirField where
  α := List PathBuf
  get c := c.plugins.dynamicDirs
  given file := file.plugins.bind (·.dynamicDirs)
  filled _ _ h := fillWith_field PluginsSection.fill (·.dynamicDirs) (·.dynamicDirs)
    (fun _ => rfl) h
  resolved _ := rfl
  framed _ _ _ := rfl

/-- `plugins.disabled_dir`. -/
def disabledDir : DirField where
  α := PathBuf
  get c := [c.plugins.disabledDir]
  given file := file.plugins.bind (·.disabledDir)
  filled _ _ h := congrArg (fun p => [p])
    (fillWith_field PluginsSection.fill (·.disabledDir) (·.disabledDir) (fun _ => rfl) h)
  resolved _ := rfl
  framed _ _ _ := rfl

/-- The directories of `[plugins]`. -/
def pluginDirs : List DirField := [dynamicDirs, disabledDir]

/-- What the environment and the command line ask for is what the configuration
    has. -/
structure OverridesWin (overrides : ConfigOverrides) (host : Host) (r : Loaded) : Prop where
  home : ∀ home, givenHome overrides host = some home → r.sections.service.homeDir = home
  profile : ∀ name, givenProfile overrides host = some name → r.sections.service.profile = name
  merged : r.layers.profile.isSome → r.layers.profileName = r.sections.service.profile
  dirs : ∀ dir ∈ serviceDirs ++ pluginDirs, Unset overrides host dir.given →
    ∀ p ∈ dir.get r.sections, p.startsWith r.sections.service.homeDir

/-- The last file, with its defaults, agrees with what is asked for, and the
    defaults of `[plugins]` are below the home directory. -/
structure OverridesKept (overrides : ConfigOverrides) (host : Host) : Prop where
  home : ∀ home file, givenHome overrides host = some home →
    lastFile overrides host = some file →
    (file.filled (defaultSections host.homeDir)).service.homeDir = home
  profile : ∀ name file, overrides.profile = none → host.env "MUTSUKI_PROFILE" = some name →
    lastFile overrides host = some file →
    (file.filled (defaultSections host.homeDir)).service.profile = name
  merged : ∀ file, overrides.profile = none → (foundProfile overrides host).isSome →
    lastFile overrides host = some file →
    (file.filled (defaultSections host.homeDir)).service.profile = selectedProfile overrides host
  dirs : ∀ dir ∈ pluginDirs, Unset overrides host dir.given →
    ∀ p ∈ dir.get (defaultSections host.homeDir),
      p.root = false ∨ p.startsWith (effectiveHome overrides host)

/-- `load` leaves the directories as `resolve_relative_dirs` made them. -/
theorem load_dirs {overrides : ConfigOverrides} {host : Host} {r : Loaded}
    (h : load overrides host = .ok r) {dir : DirField} (hdir : dir ∈ serviceDirs ++ pluginDirs) :
    dir.get r.sections = dir.get (baseSections overrides host).resolveRelativeDirs := by
  obtain ⟨hservice, hplugins⟩ := load_paths h
  simp only [serviceDirs, pluginDirs, List.mem_append, List.mem_cons, List.not_mem_nil,
    or_false] at hdir
  rcases hdir with (rfl | rfl | rfl | rfl) | rfl | rfl
  · exact (congrArg (fun s : ServiceSection Full => [s.dataDir]) hservice).trans rfl
  · exact (congrArg (fun s : ServiceSection Full => [s.logDir]) hservice).trans rfl
  · exact (congrArg (fun s : ServiceSection Full => [s.pluginDir]) hservice).trans rfl
  · exact (congrArg (fun s : ServiceSection Full => [s.runDir]) hservice).trans rfl
  · exact congrArg (fun s : PluginsSection Full => s.dynamicDirs) hplugins
  · exact congrArg (fun s : PluginsSection Full => [s.disabledDir]) hplugins

/-- The defaults of `[service]` are relative. -/
theorem serviceDirs_relative {dir : DirField} (hdir : dir ∈ serviceDirs) (home : Option PathBuf) :
    ∀ p ∈ dir.get (defaultSections home), p.root = false := by
  simp only [serviceDirs, List.mem_cons, List.not_mem_nil, or_false] at hdir
  intro p hp
  rcases hdir with rfl | rfl | rfl | rfl
  all_goals
    rw [List.mem_singleton.mp hp]
    rfl

theorem lastFile_of_profile {overrides : ConfigOverrides} {host : Host}
    (h : (foundProfile overrides host).isSome) : ∃ file, lastFile overrides host = some file := by
  rw [lastFile]
  cases foundLocal overrides host with
  | some file => exact ⟨file, rfl⟩
  | none => exact Option.isSome_iff_exists.mp h

/-- A profile that is asked for is the one `load` selects. -/
theorem selectedProfile_given {overrides : ConfigOverrides} {host : Host} {name : String}
    (h : givenProfile overrides host = some name) : selectedProfile overrides host = name := by
  simp only [givenProfile] at h
  simp only [selectedProfile, selectProfile]
  cases hprofile : overrides.profile with
  | some given =>
      rw [hprofile] at h
      exact Option.some.inj h
  | none =>
      rw [hprofile] at h
      rw [show host.env "MUTSUKI_PROFILE" = some name from h]
      rfl

theorem load_homeDir {overrides : ConfigOverrides} {host : Host} {r : Loaded}
    (h : load overrides host = .ok r) :
    r.sections.service.homeDir = effectiveHome overrides host := by
  rw [(load_paths h).1]
  exact baseSections_homeDir overrides host

theorem load_profile {overrides : ConfigOverrides} {host : Host} {r : Loaded}
    (h : load overrides host = .ok r) :
    r.sections.service.profile =
      overrides.profile.getD (baseSections overrides host).service.profile := by
  rw [(load_paths h).1]
  rfl

/-- **THE LAST FILE DECIDES**: what the environment and the command line ask for
    is what the configuration has exactly when no file is in the way. -/
theorem overrides_win_iff {overrides : ConfigOverrides} {host : Host} {r : Loaded}
    (h : load overrides host = .ok r) :
    OverridesWin overrides host r ↔ OverridesKept overrides host := by
  have hhome := load_homeDir h
  have hprofile := load_profile h
  have hfrom := loadLayers_ok (load_ok h).1
  have hbase : ∀ {file}, lastFile overrides host = some file →
      baseSections overrides host = file.filled (defaultSections host.homeDir) := by
    intro file hlast
    rw [baseSections, hlast]
  constructor
  · intro hwin
    refine ⟨?_, ?_, ?_, ?_⟩
    · intro home file hgiven hlast
      rw [← hbase hlast, baseSections_homeDir, ← hhome]
      exact hwin.home home hgiven
    · intro name file hnone hname hlast
      rw [hnone] at hprofile
      rw [← hbase hlast]
      refine hprofile.symm.trans (hwin.profile name ?_)
      rw [givenProfile, hnone, hname]
      rfl
    · intro file hnone hfound hlast
      rw [hnone] at hprofile
      rw [← hbase hlast, ← hfrom.profileName]
      refine hprofile.symm.trans (hwin.merged ?_).symm
      rw [hfrom.profile]
      exact hfound
    · intro dir hdir hunset
      have hmem := List.mem_append_right serviceDirs hdir
      have hbelow := hwin.dirs dir hmem hunset
      rw [load_dirs h hmem, hhome] at hbelow
      exact (dir.below_iff hunset).mp hbelow
  · intro hkept
    refine ⟨?_, ?_, ?_, ?_⟩
    · intro home hgiven
      rw [hhome]
      cases hlast : lastFile overrides host with
      | some file =>
          rw [effectiveHome, hlast]
          exact hkept.home home file hgiven hlast
      | none =>
          rw [effectiveHome, hlast, hgiven]
          rfl
    · intro name hname
      rw [hprofile]
      cases hcli : overrides.profile with
      | some given =>
          rw [givenProfile, hcli] at hname
          exact Option.some.inj hname
      | none =>
          cases hlast : lastFile overrides host with
          | some file =>
              rw [givenProfile, hcli] at hname
              rw [hbase hlast]
              exact hkept.profile name file hcli hname hlast
          | none =>
              rw [baseSections, hlast]
              exact selectedProfile_given hname
    · intro hsome
      rw [hfrom.profile] at hsome
      rw [hfrom.profileName, hprofile]
      cases hcli : overrides.profile with
      | some given =>
          refine selectedProfile_given ?_
          rw [givenProfile, hcli]
          rfl
      | none =>
          obtain ⟨file, hlast⟩ := lastFile_of_profile hsome
          rw [hbase hlast]
          exact (hkept.merged file hcli hsome hlast).symm
    · intro dir hdir hunset
      rw [load_dirs h hdir, hhome]
      refine (dir.below_iff hunset).mpr ?_
      rcases List.mem_append.mp hdir with hservice | hplugin
      · intro p hp
        exact Or.inl (serviceDirs_relative hservice _ p hp)
      · exact hkept.dirs dir hplugin hunset

/-- A caller that asks for a home directory. -/
def homeOverrides : ConfigOverrides :=
  { noOverrides with homeDir := some (PathBuf.ofString "/srv/host") }

/-- A machine with a local file in that directory. -/
def homeHost (text : String) : Host := sampleHost [("/srv/host/config/service.toml", text)] []

/-- With that home directory in the file, and the plugin directories set. -/
theorem overrides_win_sample :
    ∃ r, load homeOverrides (homeHost fullText) = .ok r ∧
      r.sections.service.homeDir = PathBuf.ofString "/srv/host" ∧
      OverridesWin homeOverrides (homeHost fullText) r := by
  have hprofile : (foundProfile homeOverrides (homeHost fullText)).isSome = false := by
    decide +kernel
  refine ⟨_, rfl, rfl, (overrides_win_iff rfl).mpr ⟨?_, ?_, ?_, ?_⟩⟩
  · intro home file hhome hlast
    cases hhome
    cases hlast
    rfl
  · intro name file _ hname _
    exact nomatch hname
  · intro file _ hfound _
    rw [hprofile] at hfound
    exact nomatch hfound
  · intro dir hdir hunset
    simp only [pluginDirs, List.mem_cons, List.not_mem_nil, or_false] at hdir
    rcases hdir with rfl | rfl
    · exact nomatch hunset _ (Or.inl rfl)
    · exact nomatch hunset _ (Or.inl rfl)

/-- `--home /srv/host` is undone by a local file in it that leaves `home_dir` out. -/
theorem home_override_lost :
    ∃ r, load homeOverrides (homeHost shortText) = .ok r ∧
      givenHome homeOverrides (homeHost shortText) = some (PathBuf.ofString "/srv/host") ∧
      r.sections.service.homeDir = PathBuf.ofString "/home/user/.mutsuki" ∧
      ¬ OverridesWin homeOverrides (homeHost shortText) r := by
  refine ⟨_, rfl, rfl, by decide +kernel, ?_⟩
  intro hwin
  have hhome := hwin.home _ rfl
  revert hhome
  decide +kernel

end ServiceLoad
