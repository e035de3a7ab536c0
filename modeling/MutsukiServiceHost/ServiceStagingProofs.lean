import MutsukiServiceHost.ServiceInventoryProofs
import MutsukiServiceHost.TransitionProofs

/-! # Staging of ABI artifacts

    `load_abi_plugin_blocking` opens a copy of the artifact that the scan has
    verified: `stage_artifact` copies it to
    `<run>/abi/<plugin id>/<hash>/<file name>` unless a file is there already.

    A copy can fail or be cut short, and `fs::copy` leaves what it has written.
    The file follows whole histories of calls on one run directory and says when
    every path that is returned has the verified content. -/

namespace ServiceLoader

open ServiceCatalog Transition
open ServiceLoad (PathBuf)

/-! ## What the scan has verified -/

/-- A check that is passed. -/
theorem of_check_ok {ε α : Type} {c : Prop} [Decidable c] {e : ε} {x : Except ε α} {a : α}
    (h : (if c then .error e else x) = .ok a) : ¬ c ∧ x = .ok a := by
  by_cases hc : c
  · rw [if_pos hc] at h
    exact nomatch h
  · rw [if_neg hc] at h
    exact ⟨hc, h⟩

/-- The hash and the file that `validate_abi_artifact` has checked. -/
theorem validateAbiArtifact_ok {cfg : LoaderCfg} {fs : LoaderFs} {path resolved : PathBuf}
    {manifest : PluginManifest} (h : validateAbiArtifact cfg fs path manifest = .ok resolved) :
    extension resolved = some cfg.libraryExtension ∧
      (∃ hex, stripSha256 manifest.sha256 = some hex ∧ hex.toList.length = 64) ∧
        ∃ bytes, fs.readBytes resolved = .ok bytes ∧
          "sha256:" ++ fs.sha256 bytes = manifest.sha256 := by
  simp only [validateAbiArtifact, bind, Except.bind, pure, Except.pure, throw, throwThe,
    MonadExceptOf.throw] at h
  split at h
  · exact nomatch h
  · obtain ⟨-, h⟩ := of_check_ok h
    split at h
    · obtain ⟨-, h⟩ := of_check_ok h
      split at h
      · obtain ⟨-, h⟩ := of_check_ok h
        obtain ⟨hextension, h⟩ := of_check_ok h
        split at h
        · exact nomatch h
        · rename_i hex hhex
          obtain ⟨hdigits, h⟩ := of_check_ok h
          have hlength : hex.toList.length = 64 := not_not.mp fun hne => hdigits (Or.inl hne)
          split at h
          · rename_i bytes hbytes
            obtain ⟨hhash, h⟩ := of_check_ok h
            obtain rfl := Except.ok.inj h
            exact ⟨not_not.mp hextension, ⟨hex, hhex, hlength⟩, bytes, hbytes, not_not.mp hhash⟩
          · exact nomatch h
      · exact nomatch h
    · exact nomatch h

/-- A scan that gives an inventory has read its directories. -/
theorem reads_of_scanEntries {cfg : LoaderCfg} {fs : LoaderFs} {disabled : List String}
    {dir : PathBuf} {c c' : Collected} {entries : List (Except String PathBuf)}
    (h : scanEntries cfg fs disabled dir c entries = .ok c') :
    ∃ paths : List PathBuf, entries = paths.map .ok := by
  induction entries generalizing c with
  | nil => exact ⟨[], rfl⟩
  | cons entry entries ih =>
      cases entry with
      | error detail => exact nomatch h
      | ok path =>
          rw [scanEntries] at h
          split at h
          · obtain ⟨paths, rfl⟩ := ih h
            exact ⟨path :: paths, rfl⟩
          · obtain ⟨paths, rfl⟩ := ih h
            exact ⟨path :: paths, rfl⟩

theorem reads_of_scanDirs {cfg : LoaderCfg} {fs : LoaderFs} {disabled : List String}
    {dirs : List PathBuf} {c c' : Collected} (h : scanDirs cfg fs disabled c dirs = .ok c') :
    ReadsSucceed fs dirs := by
  induction dirs generalizing c with
  | nil =>
      intro dir hmem
      cases hmem
  | cons dir dirs ih =>
      intro dir' hmem hpresent
      rw [scanDirs] at h
      split at h
      · rename_i habsent
        cases hmem with
        | head => exact absurd (habsent.symm.trans hpresent) (by decide)
        | tail _ hmem => exact ih h dir' hmem hpresent
      · split at h
        · cases h
        · rename_i entries hentries
          split at h
          · cases h
          · rename_i c₁ hc₁
            cases hmem with
            | head =>
                obtain ⟨paths, rfl⟩ := reads_of_scanEntries hc₁
                exact ⟨paths, hentries⟩
            | tail _ hmem => exact ih h dir' hmem hpresent

/-- A record in the inventory of a scan. -/
def Accepted (cfg : LoaderCfg) (fs : LoaderFs) (record : PluginRecord) : Prop :=
  ∃ dirs disabledDir manifests builtin inventory, loadAll cfg manifests = .ok builtin ∧
    scan cfg fs dirs disabledDir builtin = .ok inventory ∧ record ∈ inventory.records

/-- A record in an inventory is a valid candidate. -/
theorem Accepted.valid {cfg : LoaderCfg} {fs : LoaderFs} {record : PluginRecord}
    (h : Accepted cfg fs record) : ∃ disabledDir, ∃ candidate : Candidate,
      candidate.Valid cfg fs disabledDir record := by
  obtain ⟨dirs, disabledDir, manifests, builtin, inventory, hbuiltin, hscan, hmem⟩ := h
  have hreads : ReadsSucceed fs dirs := by
    simp only [scan] at hscan
    split at hscan
    · cases hscan
    · rename_i hdirs
      exact reads_of_scanDirs hdirs
  rw [scan_ok cfg hreads] at hscan
  obtain rfl := Except.ok.inj hscan
  rw [SortedGroup.mem_singles (sorted_keys cfg _)] at hmem
  have hcollected := List.mem_of_mem_filter (hmem ▸ List.mem_singleton.mpr rfl)
  rw [(sorted_perm cfg _).mem_iff, candidates_filterMap hbuiltin] at hcollected
  obtain ⟨candidate, -, hrecord⟩ := List.mem_filterMap.mp hcollected
  exact ⟨disabledDir, candidate, record_eq_some_iff.mp hrecord⟩

theorem stripSha256_append (hex : String) : stripSha256 ("sha256:" ++ hex) = some hex := by
  have hchars : ("sha256:" ++ hex).toList = "sha256:".toList ++ hex.toList := String.toList_append
  simp only [stripSha256, hchars, List.prefix_append, if_true, List.drop_left, String.ofList_toList]

theorem fileName_of_extension {p : PathBuf} {ext : String} (h : extension p = some ext) :
    ∃ name, fileName p = some name := by
  rw [extension] at h
  split at h
  · cases h
  · rename_i name hname
    exact ⟨name, hname⟩

/-- **THE VERIFIED SOURCE**: the artifact of an accepted record hashes to what
    the manifest declares. -/
theorem Accepted.source {cfg : LoaderCfg} {fs : LoaderFs} {record : PluginRecord}
    {source : PathBuf} (h : Accepted cfg fs record)
    (hsource : record.resolvedArtifact = some source) :
    ∃ bytes name, fs.readBytes source = .ok bytes ∧ fileName source = some name ∧
      stripSha256 record.manifest.sha256 = some (fs.sha256 bytes) ∧
        (fs.sha256 bytes).toList.length = 64 ∧
          record.manifest.sha256 = "sha256:" ++ fs.sha256 bytes := by
  obtain ⟨disabledDir, candidate, hvalid⟩ := h.valid
  cases candidate with
  | builtin manifest =>
      obtain ⟨-, rfl⟩ := hvalid
      exact nomatch hsource
  | dynamic path =>
      have hvalid : ValidDynamic cfg fs disabledDir path record := hvalid
      by_cases habi : record.manifest.artifactType = .abi
      · obtain ⟨artifact, hartifact, hresolved⟩ := hvalid.abi_ok habi
        obtain rfl : artifact = source := Option.some.inj (hresolved.symm.trans hsource)
        obtain ⟨hextension, ⟨hex, hhex, hlength⟩, bytes, hbytes, hhash⟩ :=
          validateAbiArtifact_ok hartifact
        obtain ⟨name, hname⟩ := fileName_of_extension hextension
        have hstrip : stripSha256 record.manifest.sha256 = some (fs.sha256 bytes) := by
          rw [← hhash, stripSha256_append]
        obtain rfl : hex = fs.sha256 bytes := Option.some.inj (hhex.symm.trans hstrip)
        exact ⟨bytes, name, hbytes, hname, hstrip, hlength, hhash.symm⟩
      · rw [hvalid.no_artifact habi] at hsource
        exact nomatch hsource

/-! ## `stage_artifact` -/

/-- The files below the staging directory, and whatever else lies at a path. -/
abbrev StagedFiles := PathBuf → Option (List UInt8)

/-- What comes of `fs::copy`; `written` are the bytes it leaves at the target,
    `none` when it has not created the file. -/
inductive CopyOutcome where
  | complete
  | failed (written : Option Nat) (detail : String)
  /-- the process stops -/
  | stopped (written : Option Nat)
  deriving DecidableEq, Repr

/-- A call of `stage_artifact`, with the answers of the file system. -/
structure StageCall where
  record : PluginRecord
  source : PathBuf
  createDir : Except String Unit
  copy : CopyOutcome

/-- What a call gives: `ServiceRuntimeError::AbiPlugin` has a plugin id and a
    detail. -/
inductive StageAnswer where
  | ok (target : PathBuf)
  | abiPlugin (pluginId detail : String)
  | panicked
  | stopped
  deriving DecidableEq, Repr

/-- The path of the copy. -/
def stageTarget (runDir : PathBuf) (pluginId hash name : String) : PathBuf :=
  ((((runDir.child "abi").join (PathBuf.ofString pluginId)).child hash).child name)

/-- The files after some of the bytes have been written. -/
def writeTarget (files : StagedFiles) (target : PathBuf) (bytes : List UInt8) :
    Option Nat → StagedFiles
  | none => files
  | some n => Function.update files target (some (bytes.take n))

/-- `stage_artifact`; `bytes` are those of the source. -/
def stageArtifact (runDir : PathBuf) (bytes : List UInt8) (files : StagedFiles)
    (call : StageCall) : StagedFiles × StageAnswer :=
  let pluginId := call.record.manifest.pluginId
  match stripSha256 call.record.manifest.sha256 with
  | none => (files, .panicked)
  | some hash =>
      match call.createDir with
      | .error detail =>
          (files, .abiPlugin pluginId ("create ABI staging directory: " ++ detail))
      | .ok () =>
          match fileName call.source with
          | none => (files, .panicked)
          | some name =>
              let target := stageTarget runDir pluginId hash name
              if (files target).isSome then (files, .ok target)
              else match call.copy with
                | .complete => (Function.update files target (some bytes), .ok target)
                | .failed written detail =>
                    (writeTarget files target bytes written,
                      .abiPlugin pluginId ("stage ABI artifact: " ++ detail))
                | .stopped written => (writeTarget files target bytes written, .stopped)

/-! ## Where the copies are -/

theorem child_parts {p : PathBuf} {name : String} (h : name ≠ ".") :
    (p.child name).parts = p.parts ++ [name] := by
  simp only [PathBuf.child, PathBuf.join, Bool.false_eq_true, if_false]
  split
  · rename_i hempty
    rw [hempty.2, List.nil_append]
  · simp [h]

theorem startsWith_trans {p q r : PathBuf} (hpq : p.startsWith q) (hqr : q.startsWith r) :
    p.startsWith r :=
  ⟨hpq.1.trans hqr.1, hqr.2.trans hpq.2⟩

/-- The directory of the copy is named by the hash. -/
theorem stageTarget_parts (runDir : PathBuf) (pluginId : String) {hash name : String}
    (hhash : hash ≠ ".")
    (hname : name ≠ ".") :
    ∃ before, (stageTarget runDir pluginId hash name).parts = before ++ [hash, name] := by
  refine ⟨((runDir.child "abi").join (PathBuf.ofString pluginId)).parts, ?_⟩
  rw [stageTarget, child_parts hname, child_parts hhash, List.append_assoc]
  rfl

/-- The copy of a plugin whose id is relative lies below `<run>/abi`. -/
theorem stageTarget_startsWith {runDir : PathBuf} {pluginId hash name : String}
    (hid : (PathBuf.ofString pluginId).root = false) :
    (stageTarget runDir pluginId hash name).startsWith (runDir.child "abi") :=
  startsWith_trans (PathBuf.startsWith_join rfl)
    (startsWith_trans (PathBuf.startsWith_join rfl) (PathBuf.startsWith_join hid))

theorem fileName_ne_dot {p : PathBuf} {name : String} (h : fileName p = some name) :
    name ≠ "." := by
  rw [fileName] at h
  split at h
  · cases h
  · split at h
    · cases h
    · rename_i hdots
      obtain rfl := Option.some.inj h
      exact fun hdot => hdots (Or.inr hdot)

/-! ## Histories of calls -/

section Histories

variable (cfg : LoaderCfg) (fs : LoaderFs) (runDir : PathBuf)

/-- The bytes of a source, which do not change. -/
def sourceBytes (source : PathBuf) : List UInt8 :=
  match fs.readBytes source with
  | .ok bytes => bytes
  | .error _ => []

/-- One call. -/
def stageStep (files : StagedFiles) (call : StageCall) : Option StagedFiles :=
  some (stageArtifact runDir (sourceBytes fs call.source) files call).1

/-- `load_abi_plugin_blocking` on a record of the inventory. -/
def Staged (call : StageCall) : Prop :=
  Accepted cfg fs call.record ∧ call.record.resolvedArtifact = some call.source

/-- No file has been staged. -/
def NothingStaged (files : StagedFiles) : Prop :=
  ∀ path, path.startsWith (runDir.child "abi") → files path = none

/-- The bytes at a path hash to what the manifest of a record declares. -/
def Verified (files : StagedFiles) (target : PathBuf) (record : PluginRecord) : Prop :=
  ∃ bytes, files target = some bytes ∧ "sha256:" ++ fs.sha256 bytes = record.manifest.sha256

/-- What a copy leaves when it does not complete. -/
def CopyOutcome.left : CopyOutcome → Option Nat
  | .complete => none
  | .failed written _ => written
  | .stopped written => written

/-- The calls that leave no torn copy: the plugin id is a relative path without
    `..`, so that the target is a file below `<run>/abi`, and a copy that does
    not complete leaves no file, or one with the declared hash. -/
def NoTornCopy (files : StagedFiles) (call : StageCall) : Prop :=
  Staged cfg fs call ∧
    (PathBuf.ofString call.record.manifest.pluginId).root = false ∧
    ".." ∉ (PathBuf.ofString call.record.manifest.pluginId).parts ∧
    ∀ hash name, stripSha256 call.record.manifest.sha256 = some hash →
      fileName call.source = some name →
      files (stageTarget runDir call.record.manifest.pluginId hash name) = none →
      ∀ n, call.copy.left = some n →
        "sha256:" ++ fs.sha256 ((sourceBytes fs call.source).take n) = call.record.manifest.sha256

/-- Every staged file lies in a directory named by its hash. -/
def NamedByHash (files : StagedFiles) : Prop :=
  ∀ path bytes, path.startsWith (runDir.child "abi") → files path = some bytes →
    ∃ before name, path.parts = before ++ [fs.sha256 bytes, name]

variable {cfg fs runDir}

theorem namedByHash_update {files : StagedFiles} (h : NamedByHash fs runDir files)
    {target : PathBuf} {bytes : List UInt8}
    (htarget : ∃ before name, target.parts = before ++ [fs.sha256 bytes, name]) :
    NamedByHash fs runDir (Function.update files target (some bytes)) := by
  intro path bytes' hbelow hfile
  by_cases hpath : path = target
  · rw [hpath, Function.update_self] at hfile
    obtain rfl := Option.some.inj hfile
    rw [hpath]
    exact htarget
  · rw [Function.update_of_ne hpath] at hfile
    exact h path bytes' hbelow hfile

/-- What a call can do, for a call on an accepted record. -/
theorem stageArtifact_cases (runDir : PathBuf) (files : StagedFiles) {call : StageCall}
    (hcall : Staged cfg fs call) :
    ∃ bytes name, sourceBytes fs call.source = bytes ∧ fileName call.source = some name ∧
      stripSha256 call.record.manifest.sha256 = some (fs.sha256 bytes) ∧
      (fs.sha256 bytes).toList.length = 64 ∧
      call.record.manifest.sha256 = "sha256:" ++ fs.sha256 bytes ∧
      let target := stageTarget runDir call.record.manifest.pluginId (fs.sha256 bytes) name
      let after := stageArtifact runDir bytes files call
      (after.1 = files ∧ (∀ path, after.2 = .ok path → path = target ∧ (files target).isSome)) ∨
      (files target = none ∧ after = (Function.update files target (some bytes), .ok target)) ∨
      (files target = none ∧ after.1 = writeTarget files target bytes call.copy.left ∧
        ∀ path, after.2 ≠ .ok path) := by
  obtain ⟨bytes, name, hbytes, hname, hstrip, hlength, hhash⟩ := hcall.1.source hcall.2
  have hsource : sourceBytes fs call.source = bytes := by rw [sourceBytes, hbytes]
  refine ⟨bytes, name, hsource, hname, hstrip, hlength, hhash, ?_⟩
  simp only [stageArtifact, hstrip, hname]
  cases call.createDir with
  | error detail => exact Or.inl ⟨rfl, fun path h => nomatch h⟩
  | ok u =>
      by_cases hfile : (files (stageTarget runDir call.record.manifest.pluginId (fs.sha256 bytes)
          name)).isSome
      · simp only [hfile, if_true]
        exact Or.inl ⟨trivial, fun path h => ⟨(StageAnswer.ok.inj h).symm, trivial⟩⟩
      · have hnone := Option.not_isSome_iff_eq_none.mp hfile
        simp only [hfile]
        cases call.copy with
        | complete => exact Or.inr (Or.inl ⟨hnone, rfl⟩)
        | failed written detail => exact Or.inr (Or.inr ⟨hnone, rfl, fun path h => nomatch h⟩)
        | stopped written => exact Or.inr (Or.inr ⟨hnone, rfl, fun path h => nomatch h⟩)

theorem ne_dot_of_length {hash : String} (h : hash.toList.length = 64) : hash ≠ "." := by
  rintro rfl
  exact absurd h (by decide)

/-- A call that leaves no torn copy keeps the names true. -/
theorem namedByHash_stageStep {files files' : StagedFiles} {call : StageCall}
    (h : NamedByHash fs runDir files) (hcall : NoTornCopy cfg fs runDir files call)
    (hstep : stageStep fs runDir files call = some files') : NamedByHash fs runDir files' := by
  obtain ⟨hstaged, -, -, htorn⟩ := hcall
  obtain ⟨bytes, name, hsource, hname, hstrip, hlength, hhash, hcases⟩ :=
    stageArtifact_cases runDir files hstaged
  obtain rfl := Option.some.inj hstep
  obtain ⟨before, hparts⟩ := stageTarget_parts runDir call.record.manifest.pluginId
    (ne_dot_of_length hlength) (fileName_ne_dot hname)
  rw [hsource]
  rcases hcases with ⟨hsame, -⟩ | ⟨-, hcopy⟩ | ⟨hnone, hcut, -⟩
  · rw [hsame]
    exact h
  · rw [hcopy]
    exact namedByHash_update h ⟨before, name, hparts⟩
  · rw [hcut]
    cases hleft : call.copy.left with
    | none => exact h
    | some n =>
        have htaken := htorn _ _ hstrip hname hnone n hleft
        rw [hsource, hhash] at htaken
        have hsame : fs.sha256 (bytes.take n) = fs.sha256 bytes := by
          have := congrArg stripSha256 htaken
          rw [stripSha256_append, stripSha256_append] at this
          exact Option.some.inj this
        refine namedByHash_update h ⟨before, name, ?_⟩
        rw [hsame]
        exact hparts

/-- Where the names are true, what a call returns is verified. -/
theorem verified_of_namedByHash {files : StagedFiles} {call : StageCall} {target : PathBuf}
    (h : NamedByHash fs runDir files) (hcall : NoTornCopy cfg fs runDir files call)
    (hok : (stageArtifact runDir (sourceBytes fs call.source) files call).2 = .ok target) :
    Verified fs (stageArtifact runDir (sourceBytes fs call.source) files call).1 target
      call.record := by
  obtain ⟨hstaged, hid, -, -⟩ := hcall
  obtain ⟨bytes, name, hsource, hname, hstrip, hlength, hhash, hcases⟩ :=
    stageArtifact_cases runDir files hstaged
  obtain ⟨before, hparts⟩ := stageTarget_parts runDir call.record.manifest.pluginId
    (ne_dot_of_length hlength) (fileName_ne_dot hname)
  rw [hsource] at hok ⊢
  rcases hcases with ⟨hsame, hthere⟩ | ⟨-, hcopy⟩ | ⟨-, -, hnot⟩
  · -- the file was there: its directory names its hash
    obtain ⟨rfl, hsome⟩ := hthere target hok
    obtain ⟨old, hold⟩ := Option.isSome_iff_exists.mp hsome
    obtain ⟨before', name', hparts'⟩ := h _ old (stageTarget_startsWith hid) hold
    have hends : [fs.sha256 bytes, name] = [fs.sha256 old, name'] :=
      (List.append_inj_right' (hparts.symm.trans hparts') rfl)
    obtain ⟨hsha, -⟩ := List.cons_eq_cons.mp hends
    rw [hsame]
    exact ⟨old, hold, by rw [hhash, hsha]⟩
  · rw [hcopy] at hok ⊢
    obtain rfl := StageAnswer.ok.inj hok
    exact ⟨bytes, Function.update_self .., hhash.symm⟩
  · exact absurd hok (hnot target)

end Histories

/-- **STAGED CONTENT**: in a history of calls on one run directory in which no
    call leaves a torn copy, every path that is returned has the content the
    manifest declares. -/
theorem staged_content {cfg : LoaderCfg} {fs : LoaderFs} {runDir : PathBuf}
    {files₀ files : StagedFiles} (hinit : NothingStaged runDir files₀)
    (hrun : Reaches (stageStep fs runDir) (NoTornCopy cfg fs runDir) files₀ files)
    {call : StageCall} (hcall : NoTornCopy cfg fs runDir files call) {target : PathBuf}
    (hok : (stageArtifact runDir (sourceBytes fs call.source) files call).2 = .ok target) :
    Verified fs (stageArtifact runDir (sourceBytes fs call.source) files call).1 target
      call.record := by
  have hnamed : NamedByHash fs runDir files := by
    refine hrun.invariant ?_ fun files call files' h hcall hstep =>
      namedByHash_stageStep h hcall hstep
    intro path bytes hbelow hfile
    rw [hinit path hbelow] at hfile
    exact nomatch hfile
  exact verified_of_namedByHash hnamed hcall hok

/-! ### A copy that is cut short -/

/-- `/plugins/demo` with an ABI plugin whose library holds `abc`. -/
def abiHost : LoaderFs where
  present path := path ∈ [⟨true, ["plugins"]⟩, ⟨true, ["plugins", "demo", "plugin.toml"]⟩]
  isDir path := path = ⟨true, ["plugins", "demo"]⟩
  isFile path := path = ⟨true, ["plugins", "demo", "lib.so"]⟩
  readDir path :=
    if path = ⟨true, ["plugins"]⟩ then .ok [.ok ⟨true, ["plugins", "demo"]⟩]
    else .error "No such file or directory"
  readText _ := .ok ""
  readBytes _ := .ok [0x61, 0x62, 0x63]
  canonicalize path := .ok path
  parse _ := .ok ⟨⟨"demo.abi", "mutsuki-plugin-v1", .abi, "lib.so",
    "sha256:ba7816bf8f01cfea414140de5dae2223b00361a396177a9cb410ff61f20015ad",
    [⟨.abi, some "mutsuki.codec.typed-jsonl.v1", some "mutsuki.bridge.abi.jsonl.v1"⟩], [], 0⟩, none⟩
  sha256 bytes :=
    if bytes = [0x61, 0x62, 0x63] then
      "ba7816bf8f01cfea414140de5dae2223b00361a396177a9cb410ff61f20015ad"
    else "ca978112ca1bbdcafac231b39a23dc4da786eff8147c4e72b9807785afee48bb"

/-- The record of the ABI plugin. -/
def abiRecord : PluginRecord where
  manifestPath := ⟨true, ["plugins", "demo", "plugin.toml"]⟩
  manifest := ⟨"demo.abi", "mutsuki-plugin-v1", .abi, "lib.so",
    "sha256:ba7816bf8f01cfea414140de5dae2223b00361a396177a9cb410ff61f20015ad",
    [⟨.abi, some "mutsuki.codec.typed-jsonl.v1", some "mutsuki.bridge.abi.jsonl.v1"⟩], [], 0⟩
  runtime := none
  resolvedArtifact := some ⟨true, ["plugins", "demo", "lib.so"]⟩

theorem abiRecord_accepted : Accepted hostCfg abiHost abiRecord := by
  have hreads : ReadsSucceed abiHost [⟨true, ["plugins"]⟩] := by
    intro dir hmem _
    obtain rfl := List.mem_singleton.mp hmem
    exact ⟨[⟨true, ["plugins", "demo"]⟩], rfl⟩
  have hscan := scan_ok hostCfg hreads ⟨true, ["disabled"]⟩ []
  refine ⟨_, _, [], [], _, rfl, hscan, ?_⟩
  have hbuiltin : loadAll hostCfg [] = .ok [] := rfl
  have hlaw := scanLaw_of_reads hostCfg_distinctNames hreads hbuiltin hscan
  refine (hlaw.kept abiRecord).mpr
    ⟨0, .dynamic ⟨true, ["plugins", "demo", "plugin.toml"]⟩, rfl, ?_, fun j other _ hj _ _ => ?_⟩
  · exact examine_eq_ok_iff.mp (by decide +kernel)
  · have hlength : (candidates abiHost [⟨true, ["plugins"]⟩] []).length = 1 := rfl
    have := (List.getElem?_eq_some_iff.mp hj).1
    omega

/-- Whatever `stage_artifact` returns for one run directory is verified. -/
def StagedContent (cfg : LoaderCfg) (fs : LoaderFs) (runDir : PathBuf) : Prop :=
  ∀ files₀ files, NothingStaged runDir files₀ →
    Reaches (stageStep fs runDir) (fun _ call => Staged cfg fs call) files₀ files →
    ∀ call, Staged cfg fs call → ∀ target,
      (stageArtifact runDir (sourceBytes fs call.source) files call).2 = .ok target →
      Verified fs (stageArtifact runDir (sourceBytes fs call.source) files call).1 target
        call.record

/-- The artifact is staged, the copy as given. -/
def stageDemo (copy : CopyOutcome) : StageCall :=
  ⟨abiRecord, ⟨true, ["plugins", "demo", "lib.so"]⟩, .ok (), copy⟩

/-- The path of the copy. -/
def demoTarget : PathBuf := stageTarget ⟨true, ["run"]⟩ "demo.abi"
  "ba7816bf8f01cfea414140de5dae2223b00361a396177a9cb410ff61f20015ad" "lib.so"

/-- The files after a first call. -/
def filesAfter (copy : CopyOutcome) : StagedFiles :=
  (stageArtifact ⟨true, ["run"]⟩ [0x61, 0x62, 0x63] (fun _ => none) (stageDemo copy)).1

/-- The call after it. -/
def secondCall (copy : CopyOutcome) : StagedFiles × StageAnswer :=
  stageArtifact ⟨true, ["run"]⟩ (sourceBytes abiHost ⟨true, ["plugins", "demo", "lib.so"]⟩)
    (filesAfter copy) (stageDemo .complete)

theorem stageStep_demo (copy : CopyOutcome) :
    stageStep abiHost ⟨true, ["run"]⟩ (fun _ => none) (stageDemo copy) = some (filesAfter copy) :=
  rfl

/-- The process stops after one byte; the next call returns the torn file. -/
theorem torn_copy_is_returned : ¬ StagedContent hostCfg abiHost ⟨true, ["run"]⟩ := by
  intro hlaw
  have hstaged : ∀ copy, Staged hostCfg abiHost (stageDemo copy) :=
    fun _ => ⟨abiRecord_accepted, rfl⟩
  have hok : (secondCall (.stopped (some 1))).2 = .ok demoTarget := by decide +kernel
  have htorn : (secondCall (.stopped (some 1))).1 demoTarget = some [0x61] := by decide +kernel
  obtain ⟨bytes, hbytes, hhash⟩ := hlaw _ _ (fun _ _ => rfl)
    (Reaches.step _ Reaches.init (hstaged _) (stageStep_demo (.stopped (some 1))))
    (stageDemo .complete)
    (hstaged _) demoTarget hok
  obtain rfl : bytes = [0x61] := Option.some.inj (hbytes.symm.trans htorn)
  exact absurd hhash (by decide +kernel)

/-- The files after a copy that left nothing and a whole copy. -/
def retriedFiles : StagedFiles :=
  (stageArtifact ⟨true, ["run"]⟩ (sourceBytes abiHost ⟨true, ["plugins", "demo", "lib.so"]⟩)
    (filesAfter (.failed none "no space left")) (stageDemo .complete)).1

/-- The call after them. -/
def thirdCall : StagedFiles × StageAnswer :=
  stageArtifact ⟨true, ["run"]⟩ (sourceBytes abiHost ⟨true, ["plugins", "demo", "lib.so"]⟩)
    retriedFiles (stageDemo .complete)

/-- A copy that fails and leaves no file, a whole copy, and the call after them,
    which copies nothing. -/
theorem staged_content_twice :
    filesAfter (.failed none "no space left") demoTarget = none ∧
      thirdCall.2 = .ok demoTarget ∧ Verified abiHost thirdCall.1 demoTarget abiRecord := by
  have hwhole : ∀ copy : CopyOutcome, copy.left = none → ∀ files,
      NoTornCopy hostCfg abiHost ⟨true, ["run"]⟩ files (stageDemo copy) := by
    intro copy hleft files
    have hid : (PathBuf.ofString abiRecord.manifest.pluginId).root = false ∧
        ".." ∉ (PathBuf.ofString abiRecord.manifest.pluginId).parts := by decide
    refine ⟨⟨abiRecord_accepted, rfl⟩, hid.1, hid.2, ?_⟩
    intro hash name _ _ _ n hn
    exact nomatch hleft.symm.trans hn
  have hinit : NothingStaged ⟨true, ["run"]⟩ fun _ => none := fun _ _ => rfl
  have hfailed := Reaches.step _ Reaches.init (hwhole _ rfl _)
    (stageStep_demo (.failed none "no space left"))
  have hretried : Reaches (stageStep abiHost ⟨true, ["run"]⟩)
      (NoTornCopy hostCfg abiHost ⟨true, ["run"]⟩) (fun _ => none) retriedFiles :=
    hfailed.step (stageDemo .complete) (hwhole _ rfl _) rfl
  have hok : thirdCall.2 = .ok demoTarget := by decide +kernel
  exact ⟨by decide +kernel, hok, staged_content hinit hretried (hwhole _ rfl _) hok⟩

end ServiceLoader
