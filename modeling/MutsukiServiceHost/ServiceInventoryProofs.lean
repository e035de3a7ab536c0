import Mathlib.Data.Set.List
import MutsukiServiceHost.ServiceLoaderProofs
import MutsukiServiceHost.SortedGroupProofs

/-! # What `PluginInventory::scan` keeps

    A candidate is a builtin manifest or a `plugin.toml` that the scan finds.
    Those that are valid are collected, sorted by plugin id and deployment kind
    and cut into groups (`SortedGroup`): the records are the valid candidates
    that no other valid candidate shares id and kind with, whatever the order in
    which the directories are read.

    * `mem_found_iff`, `mem_disabledPlugins_iff` — which files are found and which
      plugins are quarantined, by what the directories hold.
    * `scan_characterisation` — the records and the diagnostics. -/

namespace ServiceLoader

open ServiceCatalog
open ServiceLoad (PathBuf)

/-! ## The orders -/

instance : Std.TransCmp compareKeys :=
  inferInstanceAs (Std.TransCmp (compareLex (compareOn Prod.fst) (compareOn Prod.snd)))

instance : Std.LawfulEqCmp compareKeys where
  eq_of_compare := by
    rintro ⟨a₁, a₂⟩ ⟨b₁, b₂⟩ h
    obtain ⟨h₁, h₂⟩ := compareLex_eq_eq.mp h
    exact Prod.ext (Std.LawfulEqCmp.eq_of_compare h₁) (Std.LawfulEqCmp.eq_of_compare h₂)

instance : Std.TransCmp comparePaths :=
  SortedGroup.transCmp_on (List.compareLex (compareLex (compareOn Prod.fst) (compareOn Prod.snd)))
    componentKeys

/-- The records after `sort_by`. -/
def LoaderCfg.sorted (cfg : LoaderCfg) (records : List PluginRecord) : List PluginRecord :=
  records.mergeSort fun a b => (cfg.compareRecords a b).isLE

theorem sorted_keys (cfg : LoaderCfg) (records : List PluginRecord) :
    (cfg.sorted records).Pairwise fun a b =>
      (compareKeys (cfg.candidateKey a) (cfg.candidateKey b)).isLE := by
  have := SortedGroup.transCmp_on comparePaths PluginRecord.manifestPath
  exact SortedGroup.sorted_mergeSort cfg.candidateKey records

theorem sorted_perm (cfg : LoaderCfg) (records : List PluginRecord) :
    (cfg.sorted records).Perm records :=
  List.mergeSort_perm _ _

/-! ## What the loops collect -/

section Collect

variable (cfg : LoaderCfg) (fs : LoaderFs) (disabled : List String)

/-- The record of a `plugin.toml` that passes. -/
def validRecord (path : PathBuf) : Option PluginRecord := (examine cfg fs disabled path).toOption

/-- The diagnostic of a `plugin.toml` that does not. -/
def ownDiagnostic (path : PathBuf) : Option PluginDiagnostic :=
  match examine cfg fs disabled path with
  | .error diagnostic => some diagnostic
  | .ok _ => none

/-- The entries of a directory that can be read. -/
def entriesOf (dir : PathBuf) : List PathBuf :=
  match fs.readDir dir with
  | .error _ => []
  | .ok entries => entries.filterMap Except.toOption

/-- The `plugin.toml` files below a directory. -/
def foundIn (dir : PathBuf) : List PathBuf :=
  if fs.present dir then (entriesOf fs dir).filterMap (manifestPathOf fs) else []

/-- The `plugin.toml` files that the scan finds. -/
def found (dirs : List PathBuf) : List PathBuf := dirs.flatMap (foundIn fs)

/-- Every dynamic directory that exists can be read, and every entry of it. -/
def ReadsSucceed (dirs : List PathBuf) : Prop :=
  ∀ dir ∈ dirs, fs.present dir = true → ∃ paths : List PathBuf,
    fs.readDir dir = .ok (paths.map .ok)

/-- Several `plugin.toml` files more. -/
def Collected.addAll (c : Collected) (paths : List PathBuf) : Collected :=
  ⟨c.records ++ paths.filterMap (validRecord cfg fs disabled),
    c.diagnostics ++ paths.filterMap (ownDiagnostic cfg fs disabled)⟩

theorem addAll_nil (c : Collected) : c.addAll cfg fs disabled [] = c := by
  simp [Collected.addAll]

theorem addAll_cons (c : Collected) (path : PathBuf) (paths : List PathBuf) :
    c.addAll cfg fs disabled (path :: paths) =
      (c.add (examine cfg fs disabled path)).addAll cfg fs disabled paths := by
  cases h : examine cfg fs disabled path with
  | ok record =>
      simp [Collected.addAll, Collected.add, validRecord, ownDiagnostic, h, Except.toOption]
  | error diagnostic =>
      simp [Collected.addAll, Collected.add, validRecord, ownDiagnostic, h, Except.toOption]

theorem addAll_append (c : Collected) (paths more : List PathBuf) :
    c.addAll cfg fs disabled (paths ++ more) =
      (c.addAll cfg fs disabled paths).addAll cfg fs disabled more := by
  simp [Collected.addAll]

/-- A directory whose entries can all be read. -/
theorem scanEntries_ok (dir : PathBuf) (c : Collected) (paths : List PathBuf) :
    scanEntries cfg fs disabled dir c (paths.map .ok) =
      .ok (c.addAll cfg fs disabled (paths.filterMap (manifestPathOf fs))) := by
  induction paths generalizing c with
  | nil => rw [List.map_nil, scanEntries, List.filterMap_nil, addAll_nil]
  | cons path paths ih =>
      rw [List.map_cons, scanEntries]
      cases h : manifestPathOf fs path with
      | none => simp only [List.filterMap_cons_none h, ih]
      | some manifestPath => simp only [List.filterMap_cons_some h, ih, addAll_cons]

variable {fs}

theorem entriesOf_ok {dir : PathBuf} {paths : List PathBuf}
    (h : fs.readDir dir = .ok (paths.map .ok)) : entriesOf fs dir = paths := by
  have hid : (Except.toOption ∘ fun path : PathBuf => (.ok path : Except String PathBuf)) = some :=
    rfl
  rw [entriesOf, h]
  simp only [List.filterMap_map, hid, List.filterMap_some]

/-- All the directories. -/
theorem scanDirs_ok {dirs : List PathBuf} (hreads : ReadsSucceed fs dirs) (c : Collected) :
    scanDirs cfg fs disabled c dirs = .ok (c.addAll cfg fs disabled (found fs dirs)) := by
  induction dirs generalizing c with
  | nil => rw [scanDirs, found, List.flatMap_nil, addAll_nil]
  | cons dir dirs ih =>
      have hrest : ReadsSucceed fs dirs := fun dir' hmem =>
        hreads dir' (List.mem_cons_of_mem _ hmem)
      rw [scanDirs, found, List.flatMap_cons, addAll_append]
      by_cases hpresent : fs.present dir = true
      · obtain ⟨paths, hpaths⟩ := hreads dir (List.mem_cons_self ..) hpresent
        simp only [hpresent, Bool.true_eq_false, if_false, hpaths, scanEntries_ok, foundIn, if_true,
          entriesOf_ok hpaths]
        exact ih hrest _
      · have hfound : foundIn fs dir = [] := if_neg hpresent
        rw [if_pos (Bool.eq_false_iff.mpr hpresent), hfound, addAll_nil]
        exact ih hrest c

end Collect

/-! ## What is found and what is quarantined -/

section Directory

variable {fs : LoaderFs}

/-- `manifestPath` is the `plugin.toml` for an entry of a directory: the entry
    itself, or the one in the directory that the entry is. -/
def StandsFor (fs : LoaderFs) (path manifestPath : PathBuf) : Prop :=
  if fs.isDir path then manifestPath = path.child "plugin.toml"
  else manifestPath = path ∧ fileName path = some "plugin.toml"

theorem fileName_child (path : PathBuf) :
    fileName (path.child "plugin.toml") = some "plugin.toml" := by
  have hlast : (path.child "plugin.toml").parts.getLast? = some "plugin.toml" := by
    simp only [PathBuf.child, PathBuf.join, Bool.false_eq_true, if_false]
    split
    · rfl
    · simp
  rw [fileName, hlast]
  rfl

theorem manifestPathOf_eq_some_iff {path manifestPath : PathBuf} :
    manifestPathOf fs path = some manifestPath ↔
      StandsFor fs path manifestPath ∧ fs.present manifestPath = true := by
  rw [manifestPathOf, StandsFor]
  cases fs.isDir path with
  | true =>
      simp only [if_true, fileName_child, ne_eq, not_true_eq_false, false_or]
      split
      · rename_i habsent
        refine ⟨nofun, ?_⟩
        rintro ⟨rfl, hpresent⟩
        rw [habsent] at hpresent
        cases hpresent
      · rename_i hpresent
        rw [Bool.not_eq_false] at hpresent
        constructor
        · rintro ⟨⟩
          exact ⟨rfl, hpresent⟩
        · rintro ⟨rfl, -⟩
          rfl
  | false =>
      simp only [Bool.false_eq_true, if_false]
      split
      · rename_i hnot
        refine ⟨nofun, ?_⟩
        rintro ⟨⟨rfl, hname⟩, hpresent⟩
        rcases hnot with hnot | habsent
        · exact absurd hname hnot
        · rw [habsent] at hpresent
          cases hpresent
      · rename_i hfound
        rw [not_or, not_not, Bool.not_eq_false] at hfound
        constructor
        · rintro ⟨⟩
          exact ⟨⟨rfl, hfound.1⟩, hfound.2⟩
        · rintro ⟨⟨rfl, -⟩, -⟩
          rfl

theorem mem_entriesOf_iff {dir path : PathBuf} :
    path ∈ entriesOf fs dir ↔ ∃ entries, fs.readDir dir = .ok entries ∧ .ok path ∈ entries := by
  have hentry :
    ∀ {entry : Except String PathBuf}, entry.toOption = some path ↔ entry = .ok path := by
    intro entry
    cases entry <;> simp [Except.toOption]
  rw [entriesOf]
  cases fs.readDir dir with
  | error detail => simp
  | ok entries => simp [List.mem_filterMap, hentry]

/-- **WHAT IS FOUND**: below a directory that exists, the `plugin.toml` files that
    stand in it or in a directory in it, and no deeper one. -/
theorem mem_found_iff {dirs : List PathBuf} {manifestPath : PathBuf} :
    manifestPath ∈ found fs dirs ↔ fs.present manifestPath = true ∧
      ∃ dir ∈ dirs, fs.present dir = true ∧ ∃ entries path, fs.readDir dir = .ok entries ∧
        .ok path ∈ entries ∧ StandsFor fs path manifestPath := by
  constructor
  · intro hmem
    obtain ⟨dir, hdir, hfound⟩ := List.mem_flatMap.mp hmem
    rw [foundIn] at hfound
    split at hfound
    · rename_i hexists
      obtain ⟨path, hpath, hmanifest⟩ := List.mem_filterMap.mp hfound
      obtain ⟨entries, hread, hentry⟩ := mem_entriesOf_iff.mp hpath
      obtain ⟨hstands, hpresent⟩ := manifestPathOf_eq_some_iff.mp hmanifest
      exact ⟨hpresent, dir, hdir, hexists, entries, path, hread, hentry, hstands⟩
    · cases hfound
  · rintro ⟨hpresent, dir, hdir, hexists, entries, path, hread, hentry, hstands⟩
    refine List.mem_flatMap.mpr ⟨dir, hdir, ?_⟩
    rw [foundIn, if_pos hexists]
    exact List.mem_filterMap.mpr ⟨path, mem_entriesOf_iff.mpr ⟨entries, hread, hentry⟩,
      manifestPathOf_eq_some_iff.mpr ⟨hstands, hpresent⟩⟩

/-- What `trim_end_matches` leaves of a text: whole patterns follow it, and none
    ends it. -/
def TrimmedEnd (pattern text trimmed : List Char) : Prop :=
  (∃ n, text = trimmed ++ (List.replicate n pattern).flatten) ∧ ¬ pattern <:+ trimmed

theorem trimEndMatches_trimmed {pattern : List Char} (hpattern : pattern ≠ []) {fuel : Nat}
    {text : List Char} (hfuel : text.length ≤ fuel) :
    TrimmedEnd pattern text (trimEndMatches pattern fuel text) := by
  have hpos : 0 < pattern.length := List.length_pos_iff.mpr hpattern
  induction fuel generalizing text with
  | zero =>
      obtain rfl : text = [] := List.length_eq_zero_iff.mp (Nat.le_zero.mp hfuel)
      exact ⟨⟨0, rfl⟩, fun h => hpattern (List.suffix_nil.mp h)⟩
  | succ fuel ih =>
      rw [trimEndMatches]
      split
      · rename_i hsuffix
        obtain ⟨front, rfl⟩ := hsuffix
        rw [List.length_append, Nat.add_sub_cancel_right, List.take_left]
        have hfront : front.length ≤ fuel := by
          rw [List.length_append] at hfuel
          omega
        obtain ⟨⟨n, hn⟩, hnot⟩ := ih hfront
        refine ⟨⟨n + 1, ?_⟩, hnot⟩
        rw [List.replicate_succ', List.flatten_append, List.flatten_singleton,
          ← List.append_assoc, ← hn]
      · rename_i hnot
        exact ⟨⟨0, (List.append_nil text).symm⟩, hnot⟩

/-- Only one text is left. -/
theorem trimmedEnd_unique {pattern text trimmed trimmed' : List Char}
    (h : TrimmedEnd pattern text trimmed) (h' : TrimmedEnd pattern text trimmed') :
    trimmed = trimmed' := by
  have hconcat : ∀ (front : List Char) (n : Nat),
      front ++ (List.replicate (n + 1) pattern).flatten
        = front ++ (List.replicate n pattern).flatten ++ pattern := by
    intro front n
    rw [List.replicate_succ', List.flatten_append, List.flatten_singleton, List.append_assoc]
  obtain ⟨⟨n, hn⟩, hnot⟩ := h
  obtain ⟨⟨m, hm⟩, hnot'⟩ := h'
  induction n generalizing text m with
  | zero =>
      cases m with
      | zero => simpa using hn.symm.trans hm
      | succ m =>
          rw [hn, List.replicate_zero, List.flatten_nil, List.append_nil, hconcat] at hm
          exact absurd ⟨_, hm.symm⟩ hnot
  | succ n ih =>
      rw [hconcat] at hn
      cases m with
      | zero =>
          rw [hn, List.replicate_zero, List.flatten_nil, List.append_nil] at hm
          exact absurd ⟨_, hm⟩ hnot'
      | succ m =>
          rw [hn, hconcat] at hm
          exact ih rfl m (List.append_cancel_right hm)

theorem ofList_trimEndMatches_iff {pattern : List Char} (hpattern : pattern ≠ [])
    {name pluginId : String} :
    String.ofList (trimEndMatches pattern name.length name.toList) = pluginId ↔
      TrimmedEnd pattern name.toList pluginId.toList := by
  have htrimmed : TrimmedEnd pattern name.toList
      (trimEndMatches pattern name.length name.toList) :=
    trimEndMatches_trimmed hpattern (Nat.le_of_eq String.length_toList)
  constructor
  · rintro rfl
    rw [String.toList_ofList]
    exact htrimmed
  · intro h
    rw [trimmedEnd_unique htrimmed h, String.ofList_toList]

/-- **WHAT IS QUARANTINED**: the names in the disabled directory, without the
    `.disabled` at their end. -/
theorem mem_disabledPlugins_iff {disabledDir : PathBuf} {pluginId : String} :
    pluginId ∈ disabledPlugins fs disabledDir ↔ ∃ entries path name,
      fs.readDir disabledDir = .ok entries ∧ .ok path ∈ entries ∧ fileName path = some name ∧
        TrimmedEnd ".disabled".toList name.toList pluginId.toList := by
  have hpattern : ".disabled".toList ≠ [] := by decide
  rw [disabledPlugins]
  cases hread : fs.readDir disabledDir with
  | error detail =>
      refine ⟨nofun, ?_⟩
      rintro ⟨entries, path, name, ⟨⟩, -⟩
  | ok entries =>
      constructor
      · intro hmem
        obtain ⟨entry, hentry, hname⟩ := List.mem_filterMap.mp hmem
        cases entry with
        | error detail => cases hname
        | ok path =>
            obtain ⟨name, hfile, hpluginId⟩ := Option.map_eq_some_iff.mp hname
            exact ⟨entries, path, name, rfl, hentry, hfile,
              (ofList_trimEndMatches_iff hpattern).mp hpluginId⟩
      · rintro ⟨entries', path, name, ⟨⟩, hentry, hfile, hpluginId⟩
        refine List.mem_filterMap.mpr ⟨.ok path, hentry, ?_⟩
        exact Option.map_eq_some_iff.mpr
          ⟨name, hfile, (ofList_trimEndMatches_iff hpattern).mpr hpluginId⟩

end Directory

/-! ## The groups -/

/-- The diagnostic of a group with more than one record. -/
def groupConflict (cfg : LoaderCfg) : List PluginRecord → Option PluginDiagnostic
  | first :: _ :: _ => some (conflictDiagnostic cfg first)
  | _ => none

theorem foldl_sortGroup (cfg : LoaderCfg) (groups : List (List PluginRecord))
    (inventory : PluginInventory) :
    groups.foldl (sortGroup cfg) inventory =
      ⟨inventory.records ++ groups.filterMap SortedGroup.alone,
        inventory.diagnostics ++ groups.filterMap (groupConflict cfg)⟩ := by
  induction groups generalizing inventory with
  | nil => simp
  | cons group groups ih =>
      rw [List.foldl_cons, ih]
      match group with
      | [] => simp [List.filterMap_cons, sortGroup, SortedGroup.alone, groupConflict]
      | [record] => simp [List.filterMap_cons, sortGroup, SortedGroup.alone, groupConflict]
      | first :: second :: rest =>
          simp [List.filterMap_cons, sortGroup, SortedGroup.alone, groupConflict]

/-- **THE SCAN** when every directory can be read. -/
theorem scan_ok (cfg : LoaderCfg) {fs : LoaderFs} {dirs : List PathBuf}
    (hreads : ReadsSucceed fs dirs) (disabledDir : PathBuf) (builtin : List PluginRecord) :
    let disabled := disabledPlugins fs disabledDir
    let records := cfg.sorted
      (builtin ++ (found fs dirs).filterMap (validRecord cfg fs disabled))
    scan cfg fs dirs disabledDir builtin =
      .ok ⟨SortedGroup.singles cfg.candidateKey records,
        (found fs dirs).filterMap (ownDiagnostic cfg fs disabled) ++
          (SortedGroup.groups cfg.candidateKey records).filterMap (groupConflict cfg)⟩ := by
  simp only [scan, scanDirs_ok cfg _ hreads, Collected.addAll, foldl_sortGroup, List.nil_append]
  rfl

/-! ## Candidates -/

/-- What can become a record: a builtin manifest, or a `plugin.toml` found. -/
inductive Candidate where
  | builtin (manifest : PluginManifest)
  | dynamic (path : PathBuf)

/-- The candidates of a scan, in its order. -/
def candidates (fs : LoaderFs) (dirs : List PathBuf) (manifests : List PluginManifest) :
    List Candidate :=
  manifests.map .builtin ++ (found fs dirs).map .dynamic

/-- A dynamic manifest that is valid, and its record. -/
structure ValidDynamic (cfg : LoaderCfg) (fs : LoaderFs) (disabledDir path : PathBuf)
    (record : PluginRecord) : Prop where
  path_eq : record.manifestPath = path
  parses : ∃ content, fs.readText path = .ok content ∧
    fs.parse content = .ok ⟨record.manifest, record.runtime⟩
  not_quarantined : record.manifest.pluginId ∉ disabledPlugins fs disabledDir
  manifest_ok : validateManifest cfg record.manifest record.runtime = .ok ()
  not_native : record.manifest.artifactType ≠ .native
  abi_ok : record.manifest.artifactType = .abi → ∃ artifact,
    validateAbiArtifact cfg fs path record.manifest = .ok artifact ∧
      record.resolvedArtifact = some artifact
  no_artifact : record.manifest.artifactType ≠ .abi → record.resolvedArtifact = none

/-- A candidate that is valid, and its record. -/
def Candidate.Valid (cfg : LoaderCfg) (fs : LoaderFs) (disabledDir : PathBuf) :
    Candidate → PluginRecord → Prop
  | .builtin manifest, record =>
      validateManifest cfg manifest none = .ok () ∧ record = builtinRecord manifest
  | .dynamic path, record => ValidDynamic cfg fs disabledDir path record

/-- The checks of `scan` pass exactly for a valid manifest. -/
theorem examine_eq_ok_iff {cfg : LoaderCfg} {fs : LoaderFs} {disabledDir path : PathBuf}
    {record : PluginRecord} :
    examine cfg fs (disabledPlugins fs disabledDir) path = .ok record ↔
      ValidDynamic cfg fs disabledDir path record := by
  constructor
  · intro h
    simp only [examine, readPluginManifest] at h
    split at h
    · exact nomatch h
    · rename_i toml htoml
      split at htoml
      · exact nomatch htoml
      · rename_i content hcontent
        split at htoml
        · exact nomatch htoml
        · rename_i parsed hparsed
          obtain rfl : parsed = toml := Except.ok.inj htoml
          split at h
          · exact nomatch h
          · rename_i hdisabled
            split at h
            · exact nomatch h
            · rename_i hmanifest
              by_cases hnative : parsed.manifest.artifactType = .native
              · rw [if_pos hnative] at h
                exact nomatch h
              · rw [if_neg hnative] at h
                by_cases habi : parsed.manifest.artifactType = .abi
                · rw [if_pos habi] at h
                  split at h
                  · exact nomatch h
                  · rename_i artifact hartifact
                    obtain rfl := Except.ok.inj h
                    exact ⟨rfl, ⟨content, hcontent, hparsed⟩, hdisabled, hmanifest, hnative,
                      fun _ => ⟨artifact, hartifact, rfl⟩, fun h => absurd habi h⟩
                · rw [if_neg habi] at h
                  obtain rfl := Except.ok.inj h
                  exact ⟨rfl, ⟨content, hcontent, hparsed⟩, hdisabled, hmanifest, hnative,
                    fun h => absurd h habi, fun _ => rfl⟩
  · rintro ⟨rfl, ⟨content, hcontent, hparsed⟩, hdisabled, hmanifest, hnative, habi, hother⟩
    simp only [examine, readPluginManifest, hcontent, hparsed, hdisabled, hmanifest, hnative,
      if_false]
    by_cases htype : record.manifest.artifactType = .abi
    · obtain ⟨artifact, hartifact, hresolved⟩ := habi htype
      rw [if_pos htype, hartifact]
      simp only [← hresolved]
    · rw [if_neg htype]
      simp only [← hother htype]

/-- The record of a candidate that is valid. -/
def Candidate.record (cfg : LoaderCfg) (fs : LoaderFs) (disabled : List String) :
    Candidate → Option PluginRecord
  | .builtin manifest =>
      if validateManifest cfg manifest none = .ok () then some (builtinRecord manifest) else none
  | .dynamic path => validRecord cfg fs disabled path

section Candidates

variable {cfg : LoaderCfg} {fs : LoaderFs} {dirs : List PathBuf} {disabledDir : PathBuf}
  {manifests : List PluginManifest} {builtin : List PluginRecord}

theorem validRecord_eq_some_iff {path : PathBuf} {record : PluginRecord} :
    validRecord cfg fs (disabledPlugins fs disabledDir) path = some record ↔
      ValidDynamic cfg fs disabledDir path record := by
  rw [← examine_eq_ok_iff, validRecord]
  cases examine cfg fs (disabledPlugins fs disabledDir) path <;> simp [Except.toOption]

theorem record_eq_some_iff {candidate : Candidate} {record : PluginRecord} :
    candidate.record cfg fs (disabledPlugins fs disabledDir) = some record ↔
      candidate.Valid cfg fs disabledDir record := by
  cases candidate with
  | builtin manifest =>
      simp only [Candidate.record, Candidate.Valid]
      split <;> simp_all [eq_comm]
  | dynamic path => exact validRecord_eq_some_iff

/-- `load_all` passes when every builtin manifest does. -/
theorem loadAll_eq_ok_iff : loadAll cfg manifests = .ok builtin ↔
    (∀ manifest ∈ manifests, validateManifest cfg manifest none = .ok ()) ∧
      builtin = manifests.map builtinRecord := by
  induction manifests generalizing builtin with
  | nil => simp [loadAll, eq_comm]
  | cons manifest manifests ih =>
      rw [loadAll, List.forall_mem_cons, List.map_cons]
      cases hvalid : validateManifest cfg manifest none with
      | error e => simp
      | ok u =>
          cases hrest : loadAll cfg manifests with
          | error e =>
              have hnone : ∀ builtin, ¬((∀ manifest ∈ manifests,
                  validateManifest cfg manifest none = .ok ()) ∧
                    builtin = manifests.map builtinRecord) :=
                fun builtin h => nomatch hrest.symm.trans (ih.mpr h)
              simp only [true_and]
              constructor
              · exact fun h => nomatch h
              · rintro ⟨hall, -⟩
                exact absurd ⟨hall, rfl⟩ (hnone _)
          | ok records =>
              obtain ⟨hall, rfl⟩ := ih.mp hrest
              simp only [Except.ok.injEq, true_and]
              exact ⟨fun h => ⟨hall, h.symm⟩, fun h => h.2.symm⟩

/-- What is collected are the records of the candidates. -/
theorem candidates_filterMap (hbuiltin : loadAll cfg manifests = .ok builtin)
    (disabled : List String) :
    builtin ++ (found fs dirs).filterMap (validRecord cfg fs disabled) =
      (candidates fs dirs manifests).filterMap (Candidate.record cfg fs disabled) := by
  obtain ⟨hall, rfl⟩ := loadAll_eq_ok_iff.mp hbuiltin
  rw [candidates, List.filterMap_append, List.filterMap_map, List.filterMap_map]
  congr 1
  rw [← List.filterMap_eq_map]
  refine List.filterMap_congr fun manifest hmem => ?_
  simp only [Function.comp_apply, Candidate.record, hall manifest hmem, if_true]

end Candidates

/-! ## The order of the directories -/

/-- Two answers of `read_dir` that differ in the order of the entries. -/
def SameEntries : Except String (List (Except String PathBuf)) →
    Except String (List (Except String PathBuf)) → Prop
  | .ok entries, .ok entries' => entries.Perm entries'
  | .error detail, .error detail' => detail = detail'
  | _, _ => False

/-- Two file systems that differ in the order in which directories are read. -/
structure SameFiles (fs fs' : LoaderFs) : Prop where
  rest : fs' = { fs with readDir := fs'.readDir }
  entries : ∀ dir, SameEntries (fs.readDir dir) (fs'.readDir dir)

section Order

variable {cfg : LoaderCfg} {fs fs' : LoaderFs} {dirs dirs' : List PathBuf}

theorem entriesOf_perm (h : SameFiles fs fs') (dir : PathBuf) :
    (entriesOf fs dir).Perm (entriesOf fs' dir) := by
  have hdir := h.entries dir
  rw [entriesOf, entriesOf]
  cases hread : fs.readDir dir with
  | error detail =>
      cases hread' : fs'.readDir dir with
      | error detail' => exact List.Perm.refl _
      | ok entries' => rw [hread, hread'] at hdir; exact hdir.elim
  | ok entries =>
      cases hread' : fs'.readDir dir with
      | error detail' => rw [hread, hread'] at hdir; exact hdir.elim
      | ok entries' =>
          rw [hread, hread'] at hdir
          exact List.Perm.filterMap _ hdir

/-- The same plugins are quarantined. -/
theorem mem_disabledPlugins (h : SameFiles fs fs') (disabledDir : PathBuf) (pluginId : String) :
    pluginId ∈ disabledPlugins fs disabledDir ↔ pluginId ∈ disabledPlugins fs' disabledDir := by
  have hdir := h.entries disabledDir
  rw [disabledPlugins, disabledPlugins]
  cases hread : fs.readDir disabledDir with
  | error detail =>
      cases hread' : fs'.readDir disabledDir with
      | error detail' => rfl
      | ok entries' => rw [hread, hread'] at hdir; exact hdir.elim
  | ok entries =>
      cases hread' : fs'.readDir disabledDir with
      | error detail' => rw [hread, hread'] at hdir; exact hdir.elim
      | ok entries' =>
          rw [hread, hread'] at hdir
          exact (List.Perm.filterMap _ hdir).mem_iff

/-- The checks of a `plugin.toml` do not see the order. -/
theorem examine_congr (h : SameFiles fs fs') (disabledDir path : PathBuf) :
    examine cfg fs (disabledPlugins fs disabledDir) path =
      examine cfg fs' (disabledPlugins fs' disabledDir) path := by
  have hdisabled := mem_disabledPlugins h disabledDir
  generalize disabledPlugins fs disabledDir = disabled at hdisabled ⊢
  generalize disabledPlugins fs' disabledDir = disabled' at hdisabled ⊢
  obtain ⟨hrest, -⟩ := h
  rw [hrest]
  simp only [examine, hdisabled]
  rfl

theorem found_perm (h : SameFiles fs fs') (hdirs : dirs.Perm dirs') :
    (found fs dirs).Perm (found fs' dirs') := by
  have hpresent : fs'.present = fs.present := by rw [h.rest]
  have hmanifest : manifestPathOf fs' = manifestPathOf fs := by
    rw [h.rest]
    rfl
  refine List.Perm.flatMap hdirs fun dir _ => ?_
  rw [foundIn, foundIn, hpresent, hmanifest]
  split
  · exact List.Perm.filterMap _ (entriesOf_perm h dir)
  · exact List.Perm.refl _

/-- Reads that succeed in one order succeed in the other. -/
theorem ReadsSucceed.congr (h : SameFiles fs fs') (hdirs : dirs.Perm dirs')
    (hreads : ReadsSucceed fs dirs) : ReadsSucceed fs' dirs' := by
  intro dir hmem hpresent
  rw [h.rest] at hpresent
  obtain ⟨paths, hpaths⟩ := hreads dir (hdirs.mem_iff.mpr hmem) hpresent
  have hdir := h.entries dir
  rw [hpaths] at hdir
  cases hread' : fs'.readDir dir with
  | error detail => rw [hread'] at hdir; exact hdir.elim
  | ok entries' =>
      rw [hread'] at hdir
      have hall :
        entries' ∈ Set.range (List.map (Except.ok : PathBuf → Except String PathBuf)) := by
        rw [Set.range_list_map]
        intro entry hentry
        obtain ⟨path, -, hpath⟩ := List.mem_map.mp (hdir.mem_iff.mpr hentry)
        exact ⟨path, hpath⟩
      obtain ⟨paths', hpaths'⟩ := hall
      exact ⟨paths', congrArg Except.ok hpaths'.symm⟩

/-- The records do not depend on the order of the directories and their entries. -/
theorem singles_congr (h : SameFiles fs fs') (hdirs : dirs.Perm dirs') (disabledDir : PathBuf)
    (builtin : List PluginRecord) :
    SortedGroup.singles cfg.candidateKey (cfg.sorted (builtin ++
        (found fs dirs).filterMap (validRecord cfg fs (disabledPlugins fs disabledDir)))) =
      SortedGroup.singles cfg.candidateKey (cfg.sorted (builtin ++
        (found fs' dirs').filterMap (validRecord cfg fs' (disabledPlugins fs' disabledDir)))) := by
  have hvalid : validRecord cfg fs (disabledPlugins fs disabledDir) =
      validRecord cfg fs' (disabledPlugins fs' disabledDir) := by
    funext path
    rw [validRecord, validRecord, examine_congr h]
  have hperm : (builtin ++ (found fs dirs).filterMap
      (validRecord cfg fs (disabledPlugins fs disabledDir))).Perm (builtin ++
        (found fs' dirs').filterMap (validRecord cfg fs' (disabledPlugins fs' disabledDir))) := by
    rw [hvalid]
    exact List.Perm.append_left _ (List.Perm.filterMap _ (found_perm h hdirs))
  exact SortedGroup.singles_perm
    (((sorted_perm cfg _).trans hperm).trans (sorted_perm cfg _).symm)
    (sorted_keys cfg _) (sorted_keys cfg _)

end Order

/-! ## The inventory -/

/-- Two records that share plugin id and deployment kind. -/
def SameSlot (cfg : LoaderCfg) (a b : PluginRecord) : Prop :=
  a.manifest.pluginId = b.manifest.pluginId ∧ cfg.deployment a.manifest = cfg.deployment b.manifest

/-- The conflict diagnostic of the plugin id and the kind of a record. -/
structure ConflictOf (cfg : LoaderCfg) (record : PluginRecord) (diagnostic : PluginDiagnostic) :
    Prop where
  plugin_id : diagnostic.pluginId = some record.manifest.pluginId
  deployment : diagnostic.deployment = some (cfg.deployment record.manifest)
  detail : diagnostic.detail = "multiple " ++ (cfg.deployment record.manifest).debugName
    ++ " artifacts are installed for plugin " ++ record.manifest.pluginId

/-- The kinds of artifacts have distinct `Debug` names. -/
def DistinctNames (cfg : LoaderCfg) : Prop :=
  ∀ t t', (cfg.defaultForArtifact t).debugName = (cfg.defaultForArtifact t').debugName →
    cfg.defaultForArtifact t = cfg.defaultForArtifact t'

/-- What an inventory says about the candidates of its scan. -/
structure ScanLaw (cfg : LoaderCfg) (fs : LoaderFs) (dirs : List PathBuf) (disabledDir : PathBuf)
    (manifests : List PluginManifest) (inventory : PluginInventory) : Prop where
  /-- No two records share plugin id and kind. -/
  unique : inventory.records.Pairwise fun a b => ¬ SameSlot cfg a b
  /-- The records are the valid candidates that no other valid one shares id and kind with. -/
  kept : ∀ record, record ∈ inventory.records ↔ ∃ (i : Nat) (candidate : Candidate),
    (candidates fs dirs manifests)[i]? = some candidate ∧
      candidate.Valid cfg fs disabledDir record ∧
        ∀ (j : Nat) (other : Candidate) (record' : PluginRecord),
          (candidates fs dirs manifests)[j]? = some other →
            other.Valid cfg fs disabledDir record' → SameSlot cfg record' record → j = i
  /-- A `plugin.toml` that is not valid has a diagnostic of its own. -/
  own : ∀ path ∈ found fs dirs, (∀ record, ¬ ValidDynamic cfg fs disabledDir path record) →
    ∃ diagnostic ∈ inventory.diagnostics, diagnostic.manifestPath = path
  /-- A valid candidate that is not kept has the conflict diagnostic of its id and kind. -/
  conflict : ∀ candidate ∈ candidates fs dirs manifests, ∀ record,
    candidate.Valid cfg fs disabledDir record → record ∉ inventory.records →
      ∃ diagnostic ∈ inventory.diagnostics, ConflictOf cfg record diagnostic

section Inventory

variable {cfg : LoaderCfg} {fs : LoaderFs} {dirs : List PathBuf} {disabledDir : PathBuf}
  {manifests : List PluginManifest} {builtin : List PluginRecord}

theorem candidateKey_eq_iff (hnames : DistinctNames cfg) {a b : PluginRecord} :
    cfg.candidateKey a = cfg.candidateKey b ↔ SameSlot cfg a b := by
  rw [LoaderCfg.candidateKey, LoaderCfg.candidateKey, Prod.mk.injEq]
  constructor
  · rintro ⟨hid, hname⟩
    exact ⟨hid, hnames _ _ hname⟩
  · rintro ⟨hid, hkind⟩
    exact ⟨hid, congrArg _ hkind⟩

/-- A path that is not valid is diagnosed under itself. -/
theorem examine_error_path {disabled : List String} {path : PathBuf} {d : PluginDiagnostic}
    (h : examine cfg fs disabled path = .error d) : d.manifestPath = path := by
  simp only [examine] at h
  repeat' split at h
  all_goals first
    | exact (Except.error.inj h) ▸ rfl
    | exact nomatch h

theorem ownDiagnostic_of_invalid {path : PathBuf}
    (h : ∀ record, ¬ ValidDynamic cfg fs disabledDir path record) :
    ∃ diagnostic, ownDiagnostic cfg fs (disabledPlugins fs disabledDir) path = some diagnostic ∧
      diagnostic.manifestPath = path := by
  cases hexamine : examine cfg fs (disabledPlugins fs disabledDir) path with
  | ok record => exact absurd (examine_eq_ok_iff.mp hexamine) (h record)
  | error diagnostic =>
      exact ⟨diagnostic, by rw [ownDiagnostic, hexamine], examine_error_path hexamine⟩

/-- Records of one key share the conflict diagnostic. -/
theorem conflictDiagnostic_of_sameSlot {first record : PluginRecord}
    (h : SameSlot cfg first record) : ConflictOf cfg record (conflictDiagnostic cfg first) := by
  obtain ⟨hid, hkind⟩ := h
  refine ⟨congrArg some hid, congrArg some hkind, ?_⟩
  rw [← hid, ← hkind]
  rfl

/-- A record that is collected and is not single stands in a group with a conflict. -/
theorem exists_conflict (hnames : DistinctNames cfg) {records : List PluginRecord}
    {record : PluginRecord} (hmem : record ∈ records)
    (hkept : record ∉ SortedGroup.singles cfg.candidateKey records) :
    ∃ diagnostic ∈ (SortedGroup.groups cfg.candidateKey records).filterMap (groupConflict cfg),
      ConflictOf cfg record diagnostic := by
  obtain ⟨group, hgroup, hin⟩ := SortedGroup.exists_group cfg.candidateKey hmem
  match group, hgroup, hin with
  | [single], hgroup, hin =>
      obtain rfl := List.mem_singleton.mp hin
      rw [SortedGroup.singles, List.mem_filterMap] at hkept
      exact absurd ⟨[record], hgroup, rfl⟩ hkept
  | first :: second :: rest, hgroup, hin =>
      have hslot : SameSlot cfg first record := (candidateKey_eq_iff hnames).mp
        (SortedGroup.same_key hgroup (List.mem_cons_self ..) hin)
      exact ⟨conflictDiagnostic cfg first, List.mem_filterMap.mpr ⟨_, hgroup, rfl⟩,
        conflictDiagnostic_of_sameSlot hslot⟩

/-- The records of the collected candidates. -/
theorem mem_singles_iff (hnames : DistinctNames cfg)
    (hbuiltin : loadAll cfg manifests = .ok builtin) (record : PluginRecord) :
    record ∈ SortedGroup.singles cfg.candidateKey (cfg.sorted (builtin ++
        (found fs dirs).filterMap (validRecord cfg fs (disabledPlugins fs disabledDir)))) ↔
      ∃ (i : Nat) (candidate : Candidate),
        (candidates fs dirs manifests)[i]? = some candidate ∧
          candidate.Valid cfg fs disabledDir record ∧
            ∀ (j : Nat) (other : Candidate) (record' : PluginRecord),
              (candidates fs dirs manifests)[j]? = some other →
                other.Valid cfg fs disabledDir record' → SameSlot cfg record' record → j = i := by
  rw [SortedGroup.mem_singles (sorted_keys cfg _),
    SortedGroup.filter_eq_singleton_of_perm (sorted_perm cfg _), candidates_filterMap hbuiltin,
    List.filter_filterMap, SortedGroup.filterMap_eq_singleton_iff]
  have hsome : ∀ candidate record', ((Candidate.record cfg fs (disabledPlugins fs disabledDir)
      candidate).filter fun b => cfg.candidateKey b == cfg.candidateKey record) = some record' ↔
        candidate.Valid cfg fs disabledDir record' ∧ SameSlot cfg record' record := by
    intro candidate record'
    rw [Option.filter_eq_some_iff, record_eq_some_iff, beq_iff_eq, candidateKey_eq_iff hnames]
  constructor
  · rintro ⟨i, ⟨candidate, hi, hrecord⟩, honly⟩
    refine ⟨i, candidate, hi, ((hsome _ _).mp hrecord).1, fun j other record' hj hvalid hslot => ?_⟩
    exact honly j other hj (Option.isSome_iff_exists.mpr ⟨record', (hsome _ _).mpr ⟨hvalid, hslot⟩⟩)
  · rintro ⟨i, candidate, hi, hvalid, honly⟩
    refine ⟨i, ⟨candidate, hi, (hsome _ _).mpr ⟨hvalid, rfl, rfl⟩⟩, fun j other hj hother => ?_⟩
    obtain ⟨record', hrecord'⟩ := Option.isSome_iff_exists.mp hother
    obtain ⟨hvalid', hslot⟩ := (hsome _ _).mp hrecord'
    exact honly j other record' hj hvalid' hslot

/-- The inventory of a scan whose directories can all be read. -/
theorem scanLaw_of_reads (hnames : DistinctNames cfg) (hreads : ReadsSucceed fs dirs)
    (hbuiltin : loadAll cfg manifests = .ok builtin) {inventory : PluginInventory}
    (hscan : scan cfg fs dirs disabledDir builtin = .ok inventory) :
    ScanLaw cfg fs dirs disabledDir manifests inventory := by
  rw [scan_ok cfg hreads] at hscan
  obtain rfl := Except.ok.inj hscan
  constructor
  · refine (SortedGroup.singles_lt (sorted_keys cfg _)).imp fun {a b} hlt hslot => ?_
    have hself : compareKeys (cfg.candidateKey b) (cfg.candidateKey b) = .eq :=
      Std.ReflCmp.compare_self
    rw [(candidateKey_eq_iff hnames).mpr hslot, hself] at hlt
    exact nomatch hlt
  · exact mem_singles_iff hnames hbuiltin
  · intro path hpath hinvalid
    obtain ⟨diagnostic, hown, hmanifest⟩ := ownDiagnostic_of_invalid hinvalid
    exact ⟨diagnostic,
      List.mem_append_left _ (List.mem_filterMap.mpr ⟨path, hpath, hown⟩), hmanifest⟩
  · intro candidate hcandidate record hvalid hkept
    have hcollected : record ∈ builtin ++
        (found fs dirs).filterMap (validRecord cfg fs (disabledPlugins fs disabledDir)) := by
      rw [candidates_filterMap hbuiltin]
      exact List.mem_filterMap.mpr ⟨candidate, hcandidate, record_eq_some_iff.mpr hvalid⟩
    obtain ⟨diagnostic, hmem, hconflict⟩ :=
      exists_conflict hnames ((sorted_perm cfg _).mem_iff.mpr hcollected) hkept
    exact ⟨diagnostic, List.mem_append_right _ hmem, hconflict⟩

end Inventory

/-- **THE INVENTORY**: a scan that can read its directories keeps exactly the
    valid candidates that no other valid candidate shares plugin id and
    deployment kind with, has a diagnostic for every other `plugin.toml`, and
    keeps the same records whatever the order of directories and entries.  The
    builtin plugins of `load_all` have all passed `validate_manifest`. -/
theorem scan_characterisation (cfg : LoaderCfg) (hnames : DistinctNames cfg)
    (manifests : List PluginManifest) (builtin : List PluginRecord)
    (hbuiltin : loadAll cfg manifests = .ok builtin) (fs : LoaderFs) (dirs : List PathBuf)
    (disabledDir : PathBuf) (hreads : ReadsSucceed fs dirs) :
    ∃ inventory, scan cfg fs dirs disabledDir builtin = .ok inventory ∧
      ScanLaw cfg fs dirs disabledDir manifests inventory ∧
      ∀ fs' dirs', SameFiles fs fs' → dirs.Perm dirs' → ∃ inventory',
        scan cfg fs' dirs' disabledDir builtin = .ok inventory' ∧
          inventory'.records = inventory.records := by
  have hscan := scan_ok cfg hreads disabledDir builtin
  refine ⟨_, hscan, scanLaw_of_reads hnames hreads hbuiltin hscan, fun fs' dirs' hfiles hdirs => ?_⟩
  exact ⟨_, scan_ok cfg (hreads.congr hfiles hdirs) disabledDir builtin,
    (singles_congr hfiles hdirs disabledDir builtin).symm⟩

/-! ### A directory with two processes -/

/-- The kinds of the artifact types. -/
def hostCfg : LoaderCfg where
  defaultForArtifact
    | .native => .builtin
    | .abi => .abi
    | .process => .process
    | .python => .python
    | .other _ => .wasm
  isCompatibleWithArtifact _ _ := true
  libraryExtension := "so"
  artifactName
    | .native => "Native"
    | .abi => "Abi"
    | .process => "Process"
    | .python => "Python"
    | .other name => name
  debugText text := "\"" ++ text ++ "\""

/-- A manifest without backends or runners. -/
def plainManifest (pluginId : String) (artifactType : ArtifactType) : PluginManifest :=
  ⟨pluginId, "mutsuki-plugin-v1", artifactType, "", "", [], [], 0⟩

/-- `/plugins` with the directories `a` and `b`, a process each. -/
def twoProcesses : LoaderFs where
  present path := path ∈ [⟨true, ["plugins"]⟩, ⟨true, ["plugins", "a", "plugin.toml"]⟩,
    ⟨true, ["plugins", "b", "plugin.toml"]⟩]
  isDir path := path ∈ [⟨true, ["plugins", "a"]⟩, ⟨true, ["plugins", "b"]⟩]
  isFile _ := false
  readDir path :=
    if path = ⟨true, ["plugins"]⟩ then
      .ok [.ok ⟨true, ["plugins", "a"]⟩, .ok ⟨true, ["plugins", "b"]⟩]
    else .error "No such file or directory"
  readText path := .ok (display path)
  readBytes _ := .error "No such file or directory"
  canonicalize path := .ok path
  parse content :=
    .ok ⟨plainManifest (if content = "/plugins/a/plugin.toml" then "demo.a" else "demo.b") .process,
      none⟩
  sha256 _ := ""

theorem hostCfg_distinctNames : DistinctNames hostCfg := by
  intro t t'
  cases t <;> cases t' <;> simp [hostCfg, PluginDeploymentKind.debugName]

theorem twoProcesses_reads : ReadsSucceed twoProcesses [⟨true, ["plugins"]⟩] := by
  intro dir hmem _
  obtain rfl := List.mem_singleton.mp hmem
  exact ⟨[⟨true, ["plugins", "a"]⟩, ⟨true, ["plugins", "b"]⟩], rfl⟩

/-- The scan of `/plugins` beside a builtin plugin. -/
theorem scan_two_processes : ∃ inventory,
    scan hostCfg twoProcesses [⟨true, ["plugins"]⟩] ⟨true, ["disabled"]⟩
        [builtinRecord (plainManifest "demo.a" .native)] = .ok inventory ∧
      ScanLaw hostCfg twoProcesses [⟨true, ["plugins"]⟩] ⟨true, ["disabled"]⟩
        [plainManifest "demo.a" .native] inventory := by
  obtain ⟨inventory, hscan, hlaw, -⟩ := scan_characterisation hostCfg hostCfg_distinctNames
    [plainManifest "demo.a" .native] [builtinRecord (plainManifest "demo.a" .native)] (by decide)
    twoProcesses [⟨true, ["plugins"]⟩] ⟨true, ["disabled"]⟩ twoProcesses_reads
  exact ⟨inventory, hscan, hlaw⟩

end ServiceLoader
