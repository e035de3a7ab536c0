import Mathlib.Data.List.Sort
import Mathlib.Data.String.Basic
import MutsukiServiceHost.CriticalSectionProofs
import MutsukiServiceHost.ServiceLifetimeProofs
import MutsukiServiceHost.ServiceStagingProofs

/-! # Loading an ABI plugin

    `load_abi_plugin` opens the staged library over the transport its manifest
    names, shakes hands, and compares what the guest says of itself with the
    manifest.  A guest that is refused after its entry has been called is let go.
    Over the first transport the requests of all runners go through one mutex.

    * `load_law` — which plugins are loaded, that the runtime chooses the
      transport of the contract the loader checked, and that no entered plugin is
      forgotten.
    * `v1_law` — the requests of a V1 connection reach the plugin one at a time,
      each caller is answered from its own exchange, and `close` comes last. -/

namespace ServiceAbi

open Transition CriticalSection ServiceLoader
open ServiceCallback (CallbackResult Frame)
open ServiceLifetime (owned)
open ServiceLoad (PathBuf)

/-! ## The choice of the transport -/

/-- `AbiTransport`. -/
inductive AbiTransport where
  | jsonlV1
  | binaryV2
  deriving DecidableEq, Repr

/-- The constants of `mutsuki_runtime_sdk::abi` for each transport. -/
abbrev Sdk : Type := AbiTransport → AbiContract

/-- The inventory of the loader is in sync with the constants of the SDK. -/
def InSync (sdk : Sdk) : Prop := hostAbiInventory = [sdk .jsonlV1, sdk .binaryV2]

/-- `ServiceRuntimeError::AbiPlugin` and `ServiceRuntimeError::Core`. -/
inductive LoadError where
  | abiPlugin (pluginId detail : String)
  | core (failure : String)
  deriving DecidableEq, Repr

section Select

variable {sdk : Sdk}

/-- A backend names a codec and a bridge. -/
def names (contract : AbiContract) (backend : PluginBackend) : Bool :=
  some contract.codecId = backend.codecId ∧ some contract.bridgeId = backend.bridgeId

/-- `select_transport`. -/
def selectTransport (cfg : LoaderCfg) (sdk : Sdk) (manifest : PluginManifest) :
    Except LoadError AbiTransport :=
  match manifest.pluginBackends.filter fun backend => backend.deploymentKind = .abi with
  | [backend] =>
      if names (sdk .jsonlV1) backend then .ok .jsonlV1
      else if names (sdk .binaryV2) backend then .ok .binaryV2
      else .error (.abiPlugin manifest.pluginId
        ("unsupported ABI codec/bridge pair: (" ++ debugOption cfg backend.codecId ++ ", "
          ++ debugOption cfg backend.bridgeId ++ ")"))
  | _ => .error
      (.abiPlugin manifest.pluginId "manifest must declare exactly one ABI plugin backend")

/-- The manifest declares one ABI backend, which names the codec and the bridge of
    the transport. -/
def Declares (sdk : Sdk) (manifest : PluginManifest) (transport : AbiTransport) : Prop :=
  ∃ backend, (manifest.pluginBackends.filter fun b => b.deploymentKind = .abi) = [backend] ∧
    backend.codecId = some (sdk transport).codecId ∧
    backend.bridgeId = some (sdk transport).bridgeId

theorem names_iff {contract : AbiContract} {backend : PluginBackend} :
    names contract backend = true ↔
      backend.codecId = some contract.codecId ∧ backend.bridgeId = some contract.bridgeId := by
  rw [names, decide_eq_true_iff]
  exact and_congr eq_comm eq_comm

/-- The two transports have different bridges. -/
theorem bridgeId_ne (hsync : InSync sdk) : (sdk .jsonlV1).bridgeId ≠ (sdk .binaryV2).bridgeId := by
  obtain ⟨hfirst, hrest⟩ := List.cons.inj hsync
  obtain ⟨hsecond, -⟩ := List.cons.inj hrest
  rw [← hfirst, ← hsecond]
  decide

/-- **THE TRANSPORT CHOSEN** is the one that the manifest declares. -/
theorem selectTransport_ok_iff {cfg : LoaderCfg} {manifest : PluginManifest}
    {transport : AbiTransport} (hsync : InSync sdk) :
    selectTransport cfg sdk manifest = .ok transport ↔ Declares sdk manifest transport := by
  rw [selectTransport, Declares]
  cases hbackends : manifest.pluginBackends.filter fun b => b.deploymentKind = .abi with
  | nil =>
      constructor
      · rintro ⟨⟩
      · rintro ⟨backend, ⟨⟩, -⟩
  | cons backend others =>
      cases others with
      | cons second others =>
          constructor
          · rintro ⟨⟩
          · rintro ⟨backend', ⟨⟩, -⟩
      | nil =>
          dsimp only
          constructor
          · intro h
            split at h
            · rename_i hfirst
              obtain rfl := Except.ok.inj h
              exact ⟨backend, rfl, names_iff.mp hfirst⟩
            · split at h
              · rename_i hsecond
                obtain rfl := Except.ok.inj h
                exact ⟨backend, rfl, names_iff.mp hsecond⟩
              · cases h
          · rintro ⟨backend', hbackend, hcodec, hbridge⟩
            obtain ⟨rfl, -⟩ := List.cons.inj hbackend
            cases transport with
            | jsonlV1 => rw [if_pos (names_iff.mpr ⟨hcodec, hbridge⟩)]
            | binaryV2 =>
                rw [if_neg, if_pos (names_iff.mpr ⟨hcodec, hbridge⟩)]
                intro hfirst
                have hother := (names_iff.mp hfirst).2
                exact bridgeId_ne hsync (Option.some.inj (hother.symm.trans hbridge))

/-- **ONE INVENTORY**: the transport chosen is that of the contract the loader
    finds, and there is one for every contract. -/
theorem selectTransport_of_contract {cfg : LoaderCfg} {manifest : PluginManifest}
    {contract : AbiContract} (hsync : InSync sdk)
    (h : resolveAbiContract cfg manifest = .ok contract) :
    ∃ transport, selectTransport cfg sdk manifest = .ok transport ∧ sdk transport = contract := by
  rw [resolveAbiContract] at h
  split at h
  · exact nomatch h
  · rw [selectTransport]
    cases hbackends : manifest.pluginBackends.filter fun backend =>
      backend.deploymentKind = .abi with
    | nil =>
        rw [hbackends] at h
        exact nomatch h
    | cons backend others =>
        cases others with
        | cons second others =>
            rw [hbackends] at h
            exact nomatch h
        | nil =>
            rw [hbackends] at h
            dsimp only at h ⊢
            rw [hsync, List.find?_cons, List.find?_cons] at h
            by_cases hfirst : names (sdk .jsonlV1) backend = true
            · rw [if_pos hfirst]
              rw [show decide _ = true from hfirst] at h
              exact ⟨.jsonlV1, rfl, Except.ok.inj h⟩
            · rw [if_neg hfirst]
              rw [show decide _ = false from Bool.not_eq_true _ ▸ hfirst] at h
              by_cases hsecond : names (sdk .binaryV2) backend = true
              · rw [if_pos hsecond]
                rw [show decide _ = true from hsecond] at h
                exact ⟨.binaryV2, rfl, Except.ok.inj h⟩
              · rw [show decide _ = false from Bool.not_eq_true _ ▸ hsecond] at h
                exact nomatch h

end Select

/-! ## Opening the library -/

/-- What the entry of a library returns: its version, and which of its pointers
    are not null. -/
structure AbiApi where
  transportVersion : Nat
  context : Bool
  request : Bool
  release : Bool
  close : Bool
  deriving DecidableEq, Repr

/-- What is checked of it. -/
def AbiApi.complete (api : AbiApi) (version : Nat) : Bool :=
  api.transportVersion = version && api.context && api.request && api.release && api.close

/-- What the host does to a plugin: it calls the entry, calls `close` of a table
    that is not complete, or drops the connection. -/
inductive HostAct where
  | entry
  | close
  | dropConnection
  deriving DecidableEq, Repr

/-- What the other side answers: the dynamic loader, the entry, and the start of
    the `BinaryTransport`. -/
structure Library where
  library : Except String Unit
  symbol : Except String Unit
  api : AbiApi
  transport : Except String Unit

/-- The name of a transport in the error of its `open`. -/
def AbiTransport.label : AbiTransport → String
  | .jsonlV1 => "v1"
  | .binaryV2 => "v2"

/-- The start of the transport; only V2 has one. -/
def AbiTransport.start (transport : AbiTransport) (lib : Library) : Except String Unit :=
  match transport with
  | .jsonlV1 => .ok ()
  | .binaryV2 => lib.transport

/-- `V1Connection::open` and `V2Connection::open`. -/
def openConnection (sdk : Sdk) (transport : AbiTransport) (pluginId : String) (lib : Library) :
    Except LoadError Unit × List HostAct :=
  match lib.library with
  | .error detail => (.error (.abiPlugin pluginId detail), [])
  | .ok () =>
      match lib.symbol with
      | .error detail =>
          (.error (.abiPlugin pluginId
            ("missing " ++ (sdk transport).entrySymbol ++ ": " ++ detail)), [])
      | .ok () =>
          if lib.api.complete (sdk transport).transportVersion = false then
            (.error (.abiPlugin pluginId ("invalid ABI " ++ transport.label
              ++ " entry or transport version " ++ toString lib.api.transportVersion
              ++ ", expected " ++ toString (sdk transport).transportVersion)),
              -- `close` is called only with what it needs
              .entry :: if lib.api.context && lib.api.close then [.close] else [])
          else match transport.start lib with
            -- the lifetime is dropped with the workers' queues
            | .error detail => (.error (.abiPlugin pluginId detail), [.entry, .dropConnection])
            | .ok () => (.ok (), [.entry])

/-! ## The handshake -/

section Handshake

variable {β : Type} [DecidableEq β]

/-- A manifest: what the loader reads, the resource providers, and the rest. -/
structure FullManifest (β : Type) where
  host : PluginManifest
  resourceProviders : List String
  rest : β
  deriving DecidableEq

/-- `guest_manifest.artifact = record.manifest.artifact.clone()`. -/
def FullManifest.withArtifact (guest record : FullManifest β) : FullManifest β :=
  { guest with
    host := { guest.host with
      artifactType := record.host.artifactType
      artifactPath := record.host.artifactPath
      sha256 := record.host.sha256 } }

/-- `InitializedPlugin`. -/
structure InitializedPlugin (β : Type) where
  manifest : FullManifest β
  resourceProviderIds : List String

/-- `<[String]>::sort`. -/
def sort (ids : List String) : List String := ids.mergeSort fun a b => decide (a ≤ b)

/-- `validate_initialized_plugin`. -/
def validateInitializedPlugin (record : FullManifest β) (initialized : InitializedPlugin β) :
    Except LoadError Unit :=
  if initialized.manifest.withArtifact record ≠ record then
    .error (.abiPlugin record.host.pluginId
      "plugin.toml capability manifest differs from guest handshake")
  else if sort record.resourceProviders ≠ sort initialized.resourceProviderIds then
    .error (.abiPlugin record.host.pluginId "resource provider ids differ from guest handshake")
  else .ok ()

/-- Sorted lists are equal when the lists have the same entries as often. -/
theorem sort_eq_iff {ids ids' : List String} : sort ids = sort ids' ↔ ids.Perm ids' := by
  have hsorted : ∀ ids : List String, (sort ids).Pairwise (· ≤ ·) := by
    intro ids
    have htrans : ∀ a b c : String, decide (a ≤ b) = true → decide (b ≤ c) = true →
        decide (a ≤ c) = true := by
      intro a b c hab hbc
      exact decide_eq_true (le_trans (of_decide_eq_true hab) (of_decide_eq_true hbc))
    have htotal : ∀ a b : String, (decide (a ≤ b) || decide (b ≤ a)) = true := by
      intro a b
      simpa using le_total a b
    exact (List.pairwise_mergeSort htrans htotal ids).imp of_decide_eq_true
  have hperm : ∀ ids : List String, (sort ids).Perm ids := fun ids => List.mergeSort_perm _ _
  constructor
  · intro h
    exact (hperm ids).symm.trans (h ▸ hperm ids')
  · intro h
    exact List.Perm.eq_of_pairwise' (hsorted ids) (hsorted ids')
      ((hperm ids).trans (h.trans (hperm ids').symm))

/-- The guest has told the truth about itself. -/
structure Truthful (record : FullManifest β) (initialized : InitializedPlugin β) : Prop where
  manifest : initialized.manifest.withArtifact record = record
  providers : record.resourceProviders.Perm initialized.resourceProviderIds

theorem validateInitializedPlugin_ok_iff {record : FullManifest β}
    {initialized : InitializedPlugin β} :
    validateInitializedPlugin record initialized = .ok () ↔ Truthful record initialized := by
  rw [validateInitializedPlugin]
  constructor
  · intro h
    split at h
    · exact nomatch h
    · rename_i hmanifest
      split at h
      · exact nomatch h
      · rename_i hproviders
        exact ⟨not_not.mp hmanifest, sort_eq_iff.mp (not_not.mp hproviders)⟩
  · rintro ⟨hmanifest, hproviders⟩
    rw [if_neg (not_not.mpr hmanifest), if_neg (not_not.mpr (sort_eq_iff.mpr hproviders))]

/-- What the guest answers to the handshake: the plugin in its acknowledgement,
    and what `validate_for` says of that. -/
structure Guest (β : Type) where
  ack : Except String (Option (InitializedPlugin β))
  validateFor : Except String Unit

/-- `LoadedPlugin`: the manifest, a runner for each descriptor and a provider for
    each id, all over the connection. -/
structure LoadedPlugin (β : Type) where
  manifest : FullManifest β
  runners : List RunnerDescriptor
  resourceProviders : List String

/-- The handshake over an open connection, and what is built of it. -/
def handshake (record : FullManifest β) (guest : Guest β) : Except LoadError (LoadedPlugin β) := do
  let plugin ← match guest.ack with
    | .ok plugin => pure plugin
    | .error failure => throw (.core failure)
  match guest.validateFor with
    | .ok () => pure ()
    | .error detail =>
        throw (.abiPlugin record.host.pluginId ("invalid Wire handshake: " ++ detail))
  let initialized ← match plugin with
    | some initialized => pure initialized
    | none =>
        throw (.abiPlugin record.host.pluginId
          "Wire handshake omitted initialized plugin surface")
  validateInitializedPlugin record initialized
  return ⟨record, record.host.runners, initialized.resourceProviderIds⟩

/-- `load_abi_plugin_blocking`; `staged` is what `stage_artifact` has given for
    the record's artifact, if the record has one. -/
def loadAbiPlugin (cfg : LoaderCfg) (sdk : Sdk) (record : FullManifest β)
    (staged : Option (Except String Unit)) (lib : Library) (guest : Guest β) :
    Except LoadError (LoadedPlugin β) × List HostAct :=
  match staged with
  | none =>
      (.error (.abiPlugin record.host.pluginId "validated artifact path is missing"), [])
  | some (.error detail) => (.error (.abiPlugin record.host.pluginId detail), [])
  | some (.ok ()) =>
      match selectTransport cfg sdk record.host with
      | .error e => (.error e, [])
      | .ok transport =>
          match openConnection sdk transport record.host.pluginId lib with
          | (.error e, acts) => (.error e, acts)
          | (.ok (), acts) =>
              match handshake record guest with
              | .error e => (.error e, acts ++ [.dropConnection])
              | .ok plugin => (.ok plugin, acts)

/-! ## Which plugins are loaded -/

/-- The library gives a complete table of the version it is opened with. -/
structure Opens (sdk : Sdk) (transport : AbiTransport) (lib : Library) : Prop where
  library : lib.library = .ok ()
  symbol : lib.symbol = .ok ()
  version : lib.api.transportVersion = (sdk transport).transportVersion
  pointers : lib.api.context = true ∧ lib.api.request = true ∧ lib.api.release = true ∧
    lib.api.close = true
  start : transport = .binaryV2 → lib.transport = .ok ()

theorem complete_iff {api : AbiApi} {version : Nat} : api.complete version = true ↔
    api.transportVersion = version ∧
      api.context = true ∧ api.request = true ∧ api.release = true ∧ api.close = true := by
  simp only [AbiApi.complete, Bool.and_eq_true, decide_eq_true_eq, and_assoc]

theorem Opens.complete {sdk : Sdk} {transport : AbiTransport} {lib : Library}
    (h : Opens sdk transport lib) : lib.api.complete (sdk transport).transportVersion = true :=
  complete_iff.mpr ⟨h.version, h.pointers⟩

/-- What an attempt to open a library ends with. -/
inductive OpenCase (sdk : Sdk) (transport : AbiTransport) (lib : Library) :
    Except LoadError Unit × List HostAct → Prop where
  /-- the entry has not been called, -/
  | absent (e : LoadError) : ¬ Opens sdk transport lib → OpenCase sdk transport lib (.error e, [])
  /-- its table is not complete, -/
  | incomplete (e : LoadError) : lib.api.complete (sdk transport).transportVersion = false →
      OpenCase sdk transport lib
        (.error e, .entry :: if lib.api.context && lib.api.close then [.close] else [])
  /-- the transport did not start, -/
  | unstarted (e : LoadError) : ¬ Opens sdk transport lib →
      OpenCase sdk transport lib (.error e, [.entry, .dropConnection])
  /-- or the connection is open. -/
  | opened : Opens sdk transport lib → OpenCase sdk transport lib (.ok (), [.entry])

theorem openConnection_case (sdk : Sdk) (transport : AbiTransport) (pluginId : String)
    (lib : Library) : OpenCase sdk transport lib (openConnection sdk transport pluginId lib) := by
  rw [openConnection]
  cases hlibrary : lib.library with
  | error detail => exact .absent _ fun h => nomatch hlibrary.symm.trans h.library
  | ok u =>
      cases hsymbol : lib.symbol with
      | error detail => exact .absent _ fun h => nomatch hsymbol.symm.trans h.symbol
      | ok u =>
          dsimp only
          cases hcomplete : lib.api.complete (sdk transport).transportVersion with
          | false => exact .incomplete _ hcomplete
          | true =>
              rw [if_neg Bool.true_eq_false.mp]
              obtain ⟨hversion, hpointers⟩ := complete_iff.mp hcomplete
              cases transport with
              | jsonlV1 => exact .opened ⟨hlibrary, hsymbol, hversion, hpointers, by rintro ⟨⟩⟩
              | binaryV2 =>
                  show OpenCase sdk .binaryV2 lib (match lib.transport with
                    | .error detail =>
                        (.error (.abiPlugin pluginId detail), [.entry, .dropConnection])
                    | .ok () => (.ok (), [.entry]))
                  cases hstart : lib.transport with
                  | error detail =>
                      refine .unstarted _ fun h => ?_
                      rw [h.start rfl] at hstart
                      cases hstart
                  | ok u => exact .opened ⟨hlibrary, hsymbol, hversion, hpointers, fun _ => hstart⟩

variable {cfg : LoaderCfg} {sdk : Sdk} {record : FullManifest β}
  {staged : Option (Except String Unit)} {lib : Library} {guest : Guest β}

theorem handshake_ok_iff {plugin : LoadedPlugin β} :
    handshake record guest = .ok plugin ↔ ∃ initialized, guest.ack = .ok (some initialized) ∧
      guest.validateFor = .ok () ∧ Truthful record initialized ∧
      plugin = ⟨record, record.host.runners, initialized.resourceProviderIds⟩ := by
  rw [handshake]
  constructor
  · intro h
    cases hack : guest.ack with
    | error failure =>
        rw [hack] at h
        exact nomatch h
    | ok answer =>
        rw [hack] at h
        cases hvalid : guest.validateFor with
        | error detail =>
            rw [hvalid] at h
            exact nomatch h
        | ok u =>
            rw [hvalid] at h
            cases answer with
            | none => exact nomatch h
            | some initialized =>
                cases hcheck : validateInitializedPlugin record initialized with
                | error e =>
                    simp only [hcheck, bind, Except.bind, pure, Except.pure] at h
                    exact nomatch h
                | ok u =>
                    simp only [hcheck, bind, Except.bind, pure, Except.pure] at h
                    exact ⟨initialized, rfl, rfl, validateInitializedPlugin_ok_iff.mp hcheck,
                      (Except.ok.inj h).symm⟩
  · rintro ⟨initialized, hack, hvalid, htruthful, rfl⟩
    rw [hack, hvalid]
    simp only [bind, Except.bind, pure, Except.pure]
    rw [validateInitializedPlugin_ok_iff.mpr htruthful]

/-- **WHAT IS LOADED**: the artifact is staged; the manifest declares one ABI
    backend with the codec and the bridge of a transport; the library opens over it;
    and the guest's valid acknowledgement has the record's manifest up to the
    artifact, and its providers. -/
structure Loads (sdk : Sdk) (record : FullManifest β) (staged : Option (Except String Unit))
    (lib : Library) (guest : Guest β) (plugin : LoadedPlugin β) : Prop where
  staged : staged = some (.ok ())
  opens : ∃ transport, Declares sdk record.host transport ∧ Opens sdk transport lib
  shaken : ∃ initialized, guest.ack = .ok (some initialized) ∧ guest.validateFor = .ok () ∧
    Truthful record initialized ∧
    plugin = ⟨record, record.host.runners, initialized.resourceProviderIds⟩

theorem Loads.handshake {plugin : LoadedPlugin β} (h : Loads sdk record staged lib guest plugin) :
    handshake record guest = .ok plugin := handshake_ok_iff.mpr h.shaken

/-- What has become of the plugin when the loading is over. -/
inductive Settled (lib : Library) : Except LoadError (LoadedPlugin β) → List HostAct → Prop where
  | loaded (plugin : LoadedPlugin β) : Settled lib (.ok plugin) [.entry]
  | untouched (e : LoadError) : Settled lib (.error e) []
  | dropped (e : LoadError) : Settled lib (.error e) [.entry, .dropConnection]
  | closed (e : LoadError) : Settled lib (.error e) [.entry, .close]
  /-- a table without a context, or without `close`, leaves nothing to call -/
  | left (e : LoadError) : (lib.api.context && lib.api.close) = false →
      Settled lib (.error e) [.entry]

/-- A loading succeeds, or fails where no plugin could be loaded. -/
theorem loadAbiPlugin_cases (cfg : LoaderCfg) (hsync : InSync sdk) (record : FullManifest β)
    (staged : Option (Except String Unit)) (lib : Library) (guest : Guest β) :
    (∃ plugin, loadAbiPlugin cfg sdk record staged lib guest = (.ok plugin, [.entry]) ∧
        Loads sdk record staged lib guest plugin) ∨
      ∃ e acts, loadAbiPlugin cfg sdk record staged lib guest = (.error e, acts) ∧
        Settled (β := β) lib (.error e) acts ∧
        ∀ plugin, ¬ Loads sdk record staged lib guest plugin := by
  unfold loadAbiPlugin
  match staged with
  | none => exact .inr ⟨_, _, rfl, .untouched _, fun _ h => nomatch h.staged⟩
  | some (.error detail) => exact .inr ⟨_, _, rfl, .untouched _, fun _ h => nomatch h.staged⟩
  | some (.ok ()) =>
      cases hselect : selectTransport cfg sdk record.host with
      | error e =>
          refine .inr ⟨_, _, rfl, .untouched _, fun _ h => ?_⟩
          obtain ⟨transport, hdeclares, -⟩ := h.opens
          rw [(selectTransport_ok_iff hsync).mpr hdeclares] at hselect
          cases hselect
      | ok transport =>
          have hopens : ∀ {plugin}, Loads sdk record (some (.ok ())) lib guest plugin →
              Opens sdk transport lib := by
            intro plugin h
            obtain ⟨transport', hdeclares, hopens⟩ := h.opens
            rw [(selectTransport_ok_iff hsync).mpr hdeclares] at hselect
            obtain rfl := Except.ok.inj hselect
            exact hopens
          dsimp only
          generalize hopen : openConnection sdk transport record.host.pluginId lib = opening
          cases hopen ▸ openConnection_case sdk transport record.host.pluginId lib with
          | absent e hnot =>
              exact .inr ⟨_, _, rfl, .untouched _, fun _ h => hnot (hopens h)⟩
          | incomplete e hnot =>
              refine .inr ⟨_, _, rfl, ?_, fun _ h => ?_⟩
              · cases hclose : lib.api.context && lib.api.close with
                | false => exact .left _ hclose
                | true => exact .closed _
              · rw [(hopens h).complete] at hnot
                exact nomatch hnot
          | unstarted e hnot =>
              exact .inr ⟨_, _, rfl, .dropped _, fun _ h => hnot (hopens h)⟩
          | opened hopened =>
              dsimp only
              cases hshake : handshake record guest with
              | error e =>
                  refine .inr ⟨_, _, rfl, .dropped _, fun _ h => ?_⟩
                  rw [h.handshake] at hshake
                  cases hshake
              | ok plugin =>
                  refine .inl ⟨plugin, rfl, rfl, ⟨transport, ?_, hopened⟩, ?_⟩
                  · exact (selectTransport_ok_iff hsync).mp hselect
                  · exact handshake_ok_iff.mp hshake

/-- **THE LOADING OF A PLUGIN**: it succeeds for exactly the plugins that meet
    every check, with the runners of the manifest and the guest's providers; where the
    loader has accepted the manifest, over the transport of the contract that it
    found; and a plugin that was entered and is not returned is closed or its
    connection dropped. -/
theorem load_law (hsync : InSync sdk) {outcome : Except LoadError (LoadedPlugin β)}
    {acts : List HostAct}
    (h : loadAbiPlugin cfg sdk record staged lib guest = (outcome, acts)) :
    (∀ plugin, outcome = .ok plugin ↔ Loads sdk record staged lib guest plugin) ∧
      (∀ plugin, outcome = .ok plugin → plugin.manifest = record ∧
        plugin.runners = record.host.runners ∧
        record.resourceProviders.Perm plugin.resourceProviders) ∧
      (∀ contract plugin, resolveAbiContract cfg record.host = .ok contract →
        outcome = .ok plugin → lib.api.transportVersion = contract.transportVersion) ∧
      Settled lib outcome acts := by
  obtain ⟨loaded, hload, hloads⟩ | ⟨e, acts', hload, hsettled, hnone⟩ :=
    loadAbiPlugin_cases cfg hsync record staged lib guest
  · obtain ⟨rfl, rfl⟩ := Prod.mk.inj (hload.symm.trans h)
    refine ⟨fun plugin => ⟨?_, fun hplugin => ?_⟩, ?_, ?_, .loaded loaded⟩
    · rintro ⟨⟩
      exact hloads
    · rw [← hloads.handshake, hplugin.handshake]
    · rintro plugin ⟨⟩
      obtain ⟨initialized, -, -, htruthful, rfl⟩ := hloads.shaken
      exact ⟨rfl, rfl, htruthful.providers⟩
    · rintro contract plugin hcontract -
      obtain ⟨transport, hdeclares, hopens⟩ := hloads.opens
      obtain ⟨transport', hselect, rfl⟩ := selectTransport_of_contract hsync hcontract
      rw [(selectTransport_ok_iff hsync).mpr hdeclares] at hselect
      obtain rfl := Except.ok.inj hselect
      exact hopens.version
  · obtain ⟨rfl, rfl⟩ := Prod.mk.inj (hload.symm.trans h)
    refine ⟨fun plugin => ⟨nofun, fun hplugin => absurd hplugin (hnone plugin)⟩, ?_, ?_, hsettled⟩
    · rintro plugin ⟨⟩
    · rintro contract plugin - ⟨⟩

end Handshake

/-- The constants of the SDK. -/
def sampleSdk : Sdk
  | .jsonlV1 =>
      ⟨"mutsuki.codec.typed-jsonl.v1", "mutsuki.bridge.abi.jsonl.v1", "mutsuki_plugin_abi_v1", 1⟩
  | .binaryV2 => ⟨"mutsuki.codec.typed-msgpack.v1", "mutsuki.bridge.abi.binary.v2",
      "mutsuki_plugin_abi_v2", 2⟩

/-- A manifest with a binary backend and two providers. -/
def sampleManifest : FullManifest Nat where
  host := ⟨"demo", "1", .abi, "demo.so", "sha256:00", [⟨.abi,
    some "mutsuki.codec.typed-msgpack.v1", some "mutsuki.bridge.abi.binary.v2"⟩],
      [⟨"r", "demo"⟩], 0⟩
  resourceProviders := ["a", "b"]
  rest := 7

/-- A guest that tells its providers in another order. -/
def sampleGuest : Guest Nat := ⟨.ok (some ⟨sampleManifest, ["b", "a"]⟩), .ok ()⟩

/-- Its library. -/
def sampleLibrary : Library := ⟨.ok (), .ok (), ⟨2, true, true, true, true⟩, .ok ()⟩

theorem load_law_reordered :
    ∃ plugin, (loadAbiPlugin hostCfg sampleSdk sampleManifest (some (.ok ())) sampleLibrary
      sampleGuest).1 = .ok plugin ∧ plugin.resourceProviders = ["b", "a"] := by
  have hload : loadAbiPlugin hostCfg sampleSdk sampleManifest (some (.ok ())) sampleLibrary
      sampleGuest = (_, _) := rfl
  have hlaw := load_law (show InSync sampleSdk from rfl) hload
  refine ⟨⟨sampleManifest, [⟨"r", "demo"⟩], ["b", "a"]⟩, (hlaw.1 _).mpr ?_, rfl⟩
  have hopens : Opens sampleSdk .binaryV2 sampleLibrary :=
    ⟨rfl, rfl, rfl, ⟨rfl, rfl, rfl, rfl⟩, fun _ => rfl⟩
  exact ⟨rfl, ⟨.binaryV2, ⟨_, rfl, rfl, rfl⟩, hopens⟩,
    _, rfl, rfl, ⟨rfl, List.Perm.swap ..⟩, rfl⟩

/-! ## Requests over the first transport -/

/-- What a V1 connection does with the plugin's library. -/
inductive V1Call where
  | request (bytes : Frame)
  | response (result : CallbackResult)
  | release (payload : Frame)
  | close

/-- The failures of `V1Connection::call`. -/
inductive V1Failure where
  | responseInvalid
  | requestFailed (response : Frame)
  | statusInvalid
  deriving DecidableEq, Repr

/-- The route of a failure. -/
def V1Failure.route : V1Failure → String
  | .responseInvalid => "abi.v1.response_invalid"
  | .requestFailed _ => "abi.v1.request_failed"
  | .statusInvalid => "abi.v1.status_invalid"

/-- Its detail; `lossy` is `String::from_utf8_lossy`. -/
def V1Failure.detail (lossy : Frame → String) : V1Failure → String
  | .responseInvalid => "invalid payload pointer/length pair"
  | .requestFailed response => lossy response
  | .statusInvalid => "callback returned a status other than 0 or 1"

/-- What `call` makes of what the plugin has returned. -/
def outcome (result : CallbackResult) : Except V1Failure Frame :=
  if result.valid = false then .error .responseInvalid
  else if result.status = 0 then .ok result.payload
  else if result.status = 1 then .error (.requestFailed result.payload)
  else .error .statusInvalid

/-- Where a `call` stands that holds `request_lock`. -/
inductive V1Stage where
  | locked (bytes : Frame)
  | calling
  | returned (result : CallbackResult)
  | finished (result : CallbackResult)

/-- `V1Connection::call` under the lock; the plugin answers the call. -/
def v1 : Object (List V1Call) Frame V1Stage CallbackResult (Except V1Failure Frame) where
  enter bytes := .locked bytes
  step
    | .locked bytes, calls, _ => some (.calling, calls ++ [.request bytes])
    | .calling, calls, result =>
        some (if owned result then .returned result else .finished result,
          calls ++ [.response result])
    | .returned result, calls, _ =>
        some (.finished result, calls ++ [.release result.payload])
    | .finished _, _, _ => none
  result
    | .finished result => some (outcome result)
    | _ => none

/-- The calls of one request. -/
def v1Exchange (exchanged : Frame × CallbackResult) : List V1Call :=
  [.request exchanged.1, .response exchanged.2]
    ++ if owned exchanged.2 then [.release exchanged.2.payload] else []

/-- `V1Connection`: its callers, and whether it has been dropped. -/
structure V1Connection where
  callers : System (List V1Call) Frame V1Stage (Except V1Failure Frame)
  closed : Bool

/-- `V1Connection::open`, after the entry has been accepted. -/
def V1Connection.opened : V1Connection := ⟨.init [], false⟩

/-- A caller moves, or the last owner drops the connection. -/
inductive V1Event where
  | caller (e : CriticalSection.Event Frame CallbackResult)
  | drop

/-- A call that has returned borrows the connection no longer. -/
def hasReturned (call : Call Frame V1Stage (Except V1Failure Frame)) : Bool :=
  match call.phase with
  | .returned _ => true
  | .waiting | .inside _ => false

/-- One step; a connection that is borrowed is not dropped. -/
def v1Step (s : V1Connection) : V1Event → Option V1Connection
  | .caller e =>
      if s.closed then none
      else (CriticalSection.step v1 s.callers e).map fun callers => { s with callers := callers }
  | .drop =>
      if s.closed = false ∧ s.callers.calls.all hasReturned = true then
        some ⟨{ s.callers with shared := s.callers.shared ++ [.close] }, true⟩
      else none

/-! ## One request at a time -/

section V1

variable {s s' : V1Connection} {e : V1Event} {calls calls' : List V1Call} {bytes : Frame}

/-- The calls a request has made when it stands at a stage. -/
def V1Stage.made (bytes : Frame) : V1Stage → List V1Call
  | .locked _ => []
  | .calling => [.request bytes]
  | .returned result => [.request bytes, .response result]
  | .finished result => v1Exchange (bytes, result)

/-- What a stage says of a request alone with the plugin. -/
def V1Stage.Reached (bytes : Frame) (calls : List V1Call) : V1Stage × List V1Call → Prop
  | (.locked bytes', calls') => bytes' = bytes ∧ calls' = calls
  | (.returned result, calls') =>
      owned result = true ∧ calls' = calls ++ V1Stage.made bytes (.returned result)
  | (stage, calls') => calls' = calls ++ stage.made bytes

theorem reached_of_alone {stage : V1Stage} (h : Alone v1 bytes calls stage calls') :
    V1Stage.Reached bytes calls (stage, calls') := by
  have hstart : V1Stage.Reached bytes calls (.locked bytes, calls) := ⟨rfl, rfl⟩
  refine Reaches.invariant hstart ?_ h
  rintro ⟨stage, calls₁⟩ answer ⟨stage', calls₂⟩ hreached - hstep
  cases stage with
  | locked bytes' =>
      obtain ⟨rfl, rfl⟩ := hreached
      obtain ⟨rfl, rfl⟩ := Prod.mk.inj (Option.some.inj hstep)
      rfl
  | calling =>
      have hcalls : calls₁ = calls ++ [.request bytes] := hreached
      obtain ⟨rfl, rfl⟩ := Prod.mk.inj (Option.some.inj hstep)
      by_cases howned : owned answer = true
      · rw [if_pos howned, hcalls, List.append_assoc]
        exact ⟨howned, rfl⟩
      · rw [if_neg howned, hcalls, List.append_assoc]
        show _ = calls ++ v1Exchange (bytes, answer)
        rw [v1Exchange, if_neg howned]
        rfl
  | returned result =>
      obtain ⟨howned, rfl⟩ := hreached
      obtain ⟨rfl, rfl⟩ := Prod.mk.inj (Option.some.inj hstep)
      show _ = calls ++ v1Exchange (bytes, result)
      rw [v1Exchange, if_pos howned, List.append_assoc]
      rfl
  | finished result => exact nomatch hstep

/-- At every stage the request has made the calls of its stage. -/
theorem made_of_alone {stage : V1Stage} (h : Alone v1 bytes calls stage calls') :
    calls' = calls ++ stage.made bytes := by
  have hreached := reached_of_alone h
  cases stage with
  | locked bytes' => exact hreached.2.trans (List.append_nil _).symm
  | returned result => exact hreached.2
  | calling | finished result => exact hreached

/-- Requests one after the other. -/
theorem exchanges_of_serial {log : List (Frame × Except V1Failure Frame)}
    (h : Serial v1 [] log calls) : ∃ done : List (Frame × CallbackResult),
      calls = done.flatMap v1Exchange ∧ log = done.map fun d => (d.1, outcome d.2) := by
  induction h with
  | nil => exact ⟨[], rfl, rfl⟩
  | @concat log before after bytes stage result _ halone hresult ih =>
      obtain ⟨done, rfl, rfl⟩ := ih
      cases stage with
      | locked _ | calling | returned _ => exact nomatch hresult
      | finished answer =>
          refine ⟨done ++ [(bytes, answer)], ?_, ?_⟩
          · rw [made_of_alone halone, List.flatMap_append, List.flatMap_singleton]
            rfl
          · rw [← Option.some.inj hresult, List.map_append]
            rfl

/-- A connection is where its callers have brought it, and `close` comes when
    none of them is left. -/
structure Shared (s : V1Connection) : Prop where
  reached : ∃ callers : System (List V1Call) Frame V1Stage (Except V1Failure Frame),
    Reaches (CriticalSection.step v1) Free (.init []) callers ∧
      s.callers = { callers with
        shared := callers.shared ++ if s.closed then [.close] else [] }
  returned : s.closed = true → s.callers.calls.all hasReturned = true

theorem Shared.step (hs : Shared s) (h : v1Step s e = some s') : Shared s' := by
  obtain ⟨callers, hreach, hcallers⟩ := hs.reached
  cases e with
  | caller e =>
      simp only [v1Step] at h
      split at h
      · exact nomatch h
      · rename_i hopen
        obtain ⟨callers', hstep, rfl⟩ := Option.map_eq_some_iff.mp h
        have hclosed : s.closed = false := Bool.not_eq_true _ ▸ hopen
        have hsame : s.callers = callers := by
          rw [hcallers, hclosed]
          simp
        refine ⟨⟨callers', .step e hreach trivial (hsame ▸ hstep), ?_⟩, fun h => absurd h hopen⟩
        rw [hclosed]
        simp
  | drop =>
      simp only [v1Step, Option.ite_none_right_eq_some, Option.some.injEq] at h
      obtain ⟨⟨hclosed, hreturned⟩, rfl⟩ := h
      refine ⟨⟨callers, hreach, ?_⟩, fun _ => hreturned⟩
      rw [hcallers, hclosed]
      simp

/-- What is asked of a V1 connection. -/
structure V1Law (s : V1Connection) : Prop where
  /-- Each call has one answer, -/
  answered : ∀ (k : Nat) (bytes : Frame) (result : Except V1Failure Frame),
    (⟨k, bytes, result⟩ ∈ s.callers.history ↔
      s.callers.calls[k]? = some ⟨bytes, .returned result⟩)
  once : (s.callers.history.map Answer.call).Nodup
  /-- made of its own exchange; the exchanges do not overlap, and only that of the
      caller with the lock is open. -/
  exchanges : ∃ (done : List (Frame × CallbackResult)) (part : List V1Call),
    s.callers.shared = done.flatMap v1Exchange ++ part
      ++ (if s.closed then [V1Call.close] else []) ∧
    s.callers.log = (done.map fun d => (d.1, outcome d.2)) ∧
    ((∀ call ∈ s.callers.calls, call.holds = false) → part = []) ∧
    ∀ (k : Nat) (bytes : Frame) (stage : V1Stage),
      s.callers.calls[k]? = some ⟨bytes, .inside stage⟩ → part = stage.made bytes
  /-- `close` has no caller beside it. -/
  closed : s.closed = true → ∀ call ∈ s.callers.calls, call.holds = false

/-- **ONE AT A TIME**, in every interleaving of the callers of a connection. -/
theorem v1_law (h : Reaches v1Step Free .opened s) : V1Law s := by
  have hstart : Shared .opened := ⟨⟨_, .init, rfl⟩, nofun⟩
  have hs : Shared s := h.invariant hstart fun _ _ _ hs _ hstep => hs.step hstep
  obtain ⟨callers, hreach, hcallers⟩ := hs.reached
  have hsound := serializable hreach
  obtain ⟨before, hserial, hfree, hinside⟩ := hsound.serial
  obtain ⟨done, rfl, hlog⟩ := exchanges_of_serial hserial
  have hcalls : s.callers.calls = callers.calls := by rw [hcallers]
  have hhistory : s.callers.history = callers.history := by rw [hcallers]
  have hshared : s.callers.shared = callers.shared ++ if s.closed then [.close] else [] := by
    rw [hcallers]
  refine ⟨?_, hhistory ▸ hsound.once, ?_, fun hclosed call hmem => ?_⟩
  · rw [hcalls, hhistory]
    exact hsound.answered
  · rw [hshared, hcalls, System.log, hhistory]
    by_cases hnone : ∀ call ∈ callers.calls, call.holds = false
    · refine ⟨done, [], ?_, hlog, fun _ => rfl, fun k bytes stage hk => ?_⟩
      · rw [hfree hnone, List.append_nil]
      · exact nomatch (hnone _ (List.mem_of_getElem? hk)).symm
    · obtain ⟨⟨bytes, phase⟩, hmem, hholds⟩ : ∃ call ∈ callers.calls, call.holds ≠ false := by
        simpa using hnone
      obtain ⟨k, hk⟩ := List.mem_iff_getElem?.mp hmem
      cases phase with
      | waiting | returned => exact absurd rfl hholds
      | inside stage =>
          refine ⟨done, stage.made bytes, ?_, hlog, fun h => absurd h hnone, ?_⟩
          · rw [made_of_alone (hinside k bytes stage hk)]
          · intro k' bytes' stage' hk'
            obtain rfl := hsound.mutex k k' _ _ hk hk' rfl rfl
            obtain ⟨rfl, hphase⟩ := Call.mk.inj (Option.some.inj (hk.symm.trans hk'))
            rw [Phase.inside.inj hphase]
  · have hreturned := List.all_eq_true.mp (hs.returned hclosed) call hmem
    obtain ⟨bytes, phase⟩ := call
    cases phase with
    | returned result => rfl
    | waiting | inside stage => exact nomatch hreturned

/-- Two requests; the second waits for the first, which fails. -/
def v1Events : List V1Event :=
  [.caller (.call [1]), .caller (.call [2]), .caller (.enter 1), .caller (.inner 1 ⟨0, 0, none⟩),
    .caller (.inner 1 ⟨1, 2, some #v[7, 8]⟩), .caller (.inner 1 ⟨0, 0, none⟩), .caller (.leave 1),
    .caller (.enter 0), .caller (.inner 0 ⟨0, 0, none⟩), .caller (.inner 0 ⟨0, 0, none⟩),
    .caller (.leave 0), .drop]

theorem v1_law_failed :
    ∃ s, Reaches v1Step Free .opened s ∧
      s.callers.log = [([2], .error (.requestFailed [7, 8])), ([1], .ok [])] ∧ V1Law s := by
  have hrun : (run v1Step Free .opened v1Events).isSome = true := by decide
  have hreach := reaches_getD (d := .opened) hrun
  exact ⟨_, hreach, by decide, v1_law hreach⟩

end V1

end ServiceAbi
