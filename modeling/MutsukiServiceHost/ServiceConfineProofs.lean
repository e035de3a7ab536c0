import Mathlib.Data.Fintype.EquivFin
import MutsukiServiceHost.LexicalPathProofs
import MutsukiServiceHost.ServiceBootstrapProofs

/-! # Where artifacts are staged

    `stage_artifact` joins the plugin id to `<run>/abi` as it stands in the
    manifest, and neither the scan nor the selection looks at it: separators,
    `..` and a slash in front mean in it what they mean in a path.

    * `staging_confined_iff` — two records are staged as
      `<run>/abi/<one component>/<hash>/<file name>` in every run directory, and
      apart from each other, exactly if each id comes to one component of its
      own below `abi` and different ids do not come to the same file. -/

namespace ServiceLoader

open LexicalPath
open ServiceLoad (PathBuf)
open ServiceBoot (Resolved demoCatalogCfg demoFiles demoRecord resolved_demo scan_demo)

/-- The path without `.` and `..`, as far as that can be seen from it. -/
def normalize (p : PathBuf) : PathBuf := ⟨p.root, walk p.root [] p.parts⟩

/-- A target that `stage_artifact` returns for a record. -/
def StagedAt (runDir : PathBuf) (record : PluginRecord) (source target : PathBuf) : Prop :=
  ∃ bytes files createDir copy,
    (stageArtifact runDir bytes files ⟨record, source, createDir, copy⟩).2 = .ok target

/-- The record is staged as `<run>/abi/<one component>/<hash>/<file name>`. -/
def InsideRun (record : PluginRecord) (source : PathBuf) : Prop :=
  ∀ runDir target, StagedAt runDir record source target →
    ∃ component hash name, stripSha256 record.manifest.sha256 = some hash ∧
      fileName source = some name ∧
      normalize target = ⟨runDir.root,
        (normalize runDir).parts ++ ["abi", component, hash, name]⟩

/-- Two records are staged inside and, with different ids or hashes, apart. -/
structure Confined (a : PluginRecord) (sa : PathBuf) (b : PluginRecord) (sb : PathBuf) : Prop where
  left : InsideRun a sa
  right : InsideRun b sb
  apart : a.manifest.pluginId ≠ b.manifest.pluginId ∨ a.manifest.sha256 ≠ b.manifest.sha256 →
    ∀ runDir ta tb, StagedAt runDir a sa ta → StagedAt runDir b sb tb → normalize ta ≠ normalize tb

/-- The one component below `abi` that a relative plugin id comes to, if its
    path never leaves `abi`'s parent. -/
def soleComponent (pluginId : String) : Option String :=
  if (PathBuf.ofString pluginId).root then none
  else match descend ["abi"] (PathBuf.ofString pluginId).parts with
    | some ["abi", component] => some component
    | _ => none

example : soleComponent "demo" = some "demo" ∧ soleComponent "./demo/" = some "demo" ∧
    soleComponent "demo/extra" = none ∧ soleComponent "/demo" = none := by
  decide

/-! ## Targets -/

theorem child_root (p : PathBuf) (name : String) : (p.child name).root = p.root := by
  simp only [PathBuf.child, PathBuf.join, Bool.false_eq_true, if_false]
  split
  · rename_i hempty
    exact hempty.1.symm
  · rfl

/-- The hash and the file name come after the joined plugin id. -/
theorem normalize_stageTarget {runDir : PathBuf} {pluginId hash name : String} (hhash : Plain hash)
    (hname : Plain name) :
    normalize (stageTarget runDir pluginId hash name) =
      ⟨((runDir.child "abi").join (PathBuf.ofString pluginId)).root,
        (normalize ((runDir.child "abi").join (PathBuf.ofString pluginId))).parts
          ++ [hash, name]⟩ := by
  have hplain : ∀ part ∈ [hash, name], Plain part :=
    List.forall_mem_cons.mpr ⟨hhash, List.forall_mem_singleton.mpr hname⟩
  have hparts : (stageTarget runDir pluginId hash name).parts
      = ((runDir.child "abi").join (PathBuf.ofString pluginId)).parts ++ [hash, name] := by
    rw [stageTarget, child_parts hname.1, child_parts hhash.1, List.append_assoc,
      List.singleton_append]
  have hroot : (stageTarget runDir pluginId hash name).root
      = ((runDir.child "abi").join (PathBuf.ofString pluginId)).root := by
    rw [stageTarget, child_root, child_root]
  rw [normalize, hparts, hroot, walk_append, walk_plain hplain]
  rfl

/-- A relative plugin id goes on from `abi`, -/
theorem join_relative {runDir : PathBuf} {pluginId : String}
    (hid : (PathBuf.ofString pluginId).root = false) :
    ((runDir.child "abi").join (PathBuf.ofString pluginId)).root = runDir.root ∧
      (normalize ((runDir.child "abi").join (PathBuf.ofString pluginId))).parts =
        walk runDir.root ((normalize runDir).parts ++ ["abi"])
          (PathBuf.ofString pluginId).parts := by
  have habi : (runDir.child "abi").parts = runDir.parts ++ ["abi"] := child_parts (by decide)
  have hne : ¬ ((runDir.child "abi").root = false ∧ (runDir.child "abi").parts = []) := by
    rintro ⟨-, hempty⟩
    rw [habi] at hempty
    exact List.append_ne_nil_of_right_ne_nil _ (List.cons_ne_nil _ _) hempty
  have hplain : ∀ part ∈ ["abi"], Plain part :=
    List.forall_mem_singleton.mpr ⟨by decide, by decide⟩
  rw [PathBuf.join, hid, if_neg Bool.false_ne_true, if_neg hne, habi, child_root]
  refine ⟨rfl, ?_⟩
  show walk runDir.root [] (runDir.parts ++ ["abi"]
    ++ (PathBuf.ofString pluginId).parts.filter (· ≠ ".")) = _
  rw [walk_append, walk_filter, walk_append, walk_plain hplain]
  rfl

/-- and an absolute one starts anew. -/
theorem join_absolute {runDir : PathBuf} {pluginId : String}
    (hid : (PathBuf.ofString pluginId).root = true) :
    (runDir.child "abi").join (PathBuf.ofString pluginId) = PathBuf.ofString pluginId := by
  rw [PathBuf.join, if_pos hid]

/-- What an accepted record is staged under. -/
structure Names (record : PluginRecord) (source : PathBuf) (hash name : String) : Prop where
  hashOk : stripSha256 record.manifest.sha256 = some hash
  sha256 : record.manifest.sha256 = "sha256:" ++ hash
  nameOk : fileName source = some name
  plainHash : Plain hash
  plainName : Plain name

theorem Accepted.names {cfg : LoaderCfg} {fs : LoaderFs} {record : PluginRecord} {source : PathBuf}
    (h : Accepted cfg fs record) (hsource : record.resolvedArtifact = some source) :
    ∃ hash name, Names record source hash name := by
  obtain ⟨bytes, name, -, hname, hstrip, hlength, hsha⟩ := h.source hsource
  refine ⟨fs.sha256 bytes, name, hstrip, hsha, hname, ⟨?_, ?_⟩, fileName_ne_dot hname, ?_⟩
  · intro hdot
    rw [hdot] at hlength
    exact absurd hlength (by decide)
  · intro hdots
    rw [hdots] at hlength
    exact absurd hlength (by decide)
  · rintro rfl
    rw [fileName] at hname
    split at hname
    · cases hname
    · split at hname
      · cases hname
      · rename_i hdots
        exact hdots (.inl (Option.some.inj hname))

theorem stagedAt_iff {runDir : PathBuf} {record : PluginRecord} {source target : PathBuf}
    {hash name : String} (h : Names record source hash name) :
    StagedAt runDir record source target ↔
      target = stageTarget runDir record.manifest.pluginId hash name := by
  constructor
  · rintro ⟨bytes, files, createDir, copy, hok⟩
    rw [stageArtifact, h.hashOk] at hok
    dsimp only at hok
    split at hok
    · cases hok
    · rw [h.nameOk] at hok
      dsimp only at hok
      split at hok
      · exact (StageAnswer.ok.inj hok).symm
      · split at hok
        · exact (StageAnswer.ok.inj hok).symm
        · cases hok
        · cases hok
  · rintro rfl
    refine ⟨[], fun _ => none, .ok (), .complete, ?_⟩
    rw [stageArtifact, h.hashOk]
    dsimp only
    rw [h.nameOk]
    rfl

/-! ## One record -/

theorem soleComponent_eq_some_iff {pluginId component : String} :
    soleComponent pluginId = some component ↔ (PathBuf.ofString pluginId).root = false ∧
      descend ["abi"] (PathBuf.ofString pluginId).parts = some ["abi", component] := by
  rw [soleComponent]
  cases (PathBuf.ofString pluginId).root with
  | true =>
      rw [if_pos rfl]
      constructor
      · intro h
        cases h
      · rintro ⟨hrelative, -⟩
        cases hrelative
  | false =>
      rw [if_neg Bool.false_ne_true]
      constructor
      · intro h
        split at h
        · rename_i c hdescend
          rw [hdescend, Option.some.inj h]
          exact ⟨rfl, rfl⟩
        · cases h
      · rintro ⟨-, hdescend⟩
        rw [hdescend]
        rfl

/-- The target of an id with one component. -/
theorem normalize_of_soleComponent {runDir : PathBuf} {pluginId component hash name : String}
    (hsole : soleComponent pluginId = some component) (hhash : Plain hash) (hname : Plain name) :
    normalize (stageTarget runDir pluginId hash name) =
      ⟨runDir.root, (normalize runDir).parts ++ ["abi", component, hash, name]⟩ := by
  obtain ⟨hroot, hdescend⟩ := soleComponent_eq_some_iff.mp hsole
  obtain ⟨hjoinRoot, hjoinParts⟩ := @join_relative runDir _ hroot
  have hplain : ∀ part ∈ ["abi"], Plain part :=
    List.forall_mem_singleton.mpr ⟨by decide, by decide⟩
  rw [normalize_stageTarget hhash hname, hjoinRoot, hjoinParts, walk_of_descend hplain hdescend,
    List.append_assoc]
  rfl

/-- In a run directory with a name of its own, only an id with one component is
    staged inside. -/
theorem soleComponent_of_normalize {dir pluginId component hash name : String} (hdir : Plain dir)
    (habi : dir ≠ "abi") (hfresh : dir ∉ (PathBuf.ofString pluginId).parts) (hhash : Plain hash)
    (hname : Plain name)
    (h : (normalize (stageTarget ⟨true, [dir]⟩ pluginId hash name)).parts =
      [dir, "abi", component, hash, name]) :
    soleComponent pluginId = some component := by
  rw [normalize_stageTarget hhash hname] at h
  have hparts : (normalize ((PathBuf.child ⟨true, [dir]⟩ "abi").join
      (PathBuf.ofString pluginId))).parts = [dir, "abi", component] :=
    @List.append_cancel_right _ _ [hash, name] _ h
  -- the run directory's own name is still there
  have hmem : dir ∈ (normalize ((PathBuf.child ⟨true, [dir]⟩ "abi").join
      (PathBuf.ofString pluginId))).parts := by
    rw [hparts]
    exact List.mem_cons_self
  cases hroot : (PathBuf.ofString pluginId).root with
  | true =>
      rw [join_absolute hroot, normalize, hroot] at hmem
      exact absurd hmem fun hmem => (mem_walk hmem).elim List.not_mem_nil hfresh
  | false =>
      have hrun : (normalize ⟨true, [dir]⟩).parts = [dir] :=
        walk_plain (List.forall_mem_singleton.mpr hdir) []
      have hplain : ∀ part ∈ ["abi"], Plain part :=
        List.forall_mem_singleton.mpr ⟨by decide, by decide⟩
      rw [(join_relative hroot).2, hrun] at hmem hparts
      refine soleComponent_eq_some_iff.mpr ⟨hroot, ?_⟩
      cases hdescend : descend ["abi"] (PathBuf.ofString pluginId).parts with
      | none =>
          have hstack : dir ∉ ["abi"] := fun hin => habi (List.mem_singleton.mp hin)
          exact absurd hmem (not_mem_walk_of_descend_none hdir hstack hfresh hdescend hplain)
      | some result =>
          rw [walk_of_descend hplain hdescend] at hparts
          rw [@List.append_cancel_left _ [dir] _ _ hparts]

/-- **ONE RECORD** is staged inside every run directory exactly if its id comes
    to one component. -/
theorem insideRun_iff {record : PluginRecord} {source : PathBuf} {hash name : String}
    (h : Names record source hash name) :
    InsideRun record source ↔
      ∃ component, soleComponent record.manifest.pluginId = some component := by
  constructor
  · intro hinside
    obtain ⟨dir, hdir⟩ := Infinite.exists_notMem_finset
      ((".." :: "." :: "abi" :: (PathBuf.ofString record.manifest.pluginId).parts).toFinset)
    rw [List.mem_toFinset, List.mem_cons, List.mem_cons, List.mem_cons, not_or, not_or,
      not_or] at hdir
    obtain ⟨hdots, hdot, habi, hfresh⟩ := hdir
    obtain ⟨component, hash', name', hhash', hname', hnormal⟩ :=
      hinside ⟨true, [dir]⟩ _ ((stagedAt_iff h).mpr rfl)
    obtain rfl : hash' = hash := Option.some.inj (hhash'.symm.trans h.hashOk)
    obtain rfl : name' = name := Option.some.inj (hname'.symm.trans h.nameOk)
    have hrun : (normalize ⟨true, [dir]⟩).parts = [dir] :=
      walk_plain (List.forall_mem_singleton.mpr ⟨hdot, hdots⟩) []
    have hparts := congrArg PathBuf.parts hnormal
    rw [hrun] at hparts
    exact ⟨component,
      soleComponent_of_normalize ⟨hdot, hdots⟩ habi hfresh h.plainHash h.plainName hparts⟩
  · rintro ⟨component, hsole⟩ runDir target hstaged
    obtain rfl := (stagedAt_iff h).mp hstaged
    exact ⟨component, hash, name, h.hashOk, h.nameOk,
      normalize_of_soleComponent hsole h.plainHash h.plainName⟩

/-! ## Two records -/

/-- The two files are one. -/
def SameFile (a : PluginRecord) (sa : PathBuf) (b : PluginRecord) (sb : PathBuf) : Prop :=
  soleComponent a.manifest.pluginId = soleComponent b.manifest.pluginId ∧
    a.manifest.sha256 = b.manifest.sha256 ∧ fileName sa = fileName sb

/-- Files of one-component ids are the same in every run directory or in none. -/
theorem normalize_eq_iff {runDir : PathBuf} {a b : PluginRecord} {sa sb : PathBuf}
    {ca cb hash hash' name name' : String} (ha : Names a sa hash name) (hb : Names b sb hash' name')
    (hca : soleComponent a.manifest.pluginId = some ca)
    (hcb : soleComponent b.manifest.pluginId = some cb) :
    normalize (stageTarget runDir a.manifest.pluginId hash name) =
      normalize (stageTarget runDir b.manifest.pluginId hash' name') ↔ SameFile a sa b sb := by
  rw [normalize_of_soleComponent hca ha.plainHash ha.plainName,
    normalize_of_soleComponent hcb hb.plainHash hb.plainName, SameFile, hca, hcb, ha.sha256,
    hb.sha256, ha.nameOk, hb.nameOk]
  constructor
  · intro h
    have hlist := List.append_cancel_left (congrArg PathBuf.parts h)
    simp only [List.cons.injEq, true_and, and_true] at hlist
    obtain ⟨rfl, rfl, rfl⟩ := hlist
    exact ⟨rfl, rfl, rfl⟩
  · rintro ⟨hc, hhash, hname⟩
    obtain rfl := Option.some.inj hc
    obtain rfl := Option.some.inj hname
    have hstrip := ha.hashOk
    rw [ha.sha256, hhash, ← hb.sha256, hb.hashOk] at hstrip
    rw [Option.some.inj hstrip]

/-- **STAGING STAYS INSIDE THE RUN DIRECTORY** exactly for ids of one component,
    and apart exactly if different ids do not come to the same file. -/
theorem staging_confined_iff {cfg : LoaderCfg} {fs : LoaderFs} {a b : PluginRecord}
    {sa sb : PathBuf} (ha : Accepted cfg fs a) (hsa : a.resolvedArtifact = some sa)
    (hb : Accepted cfg fs b)
    (hsb : b.resolvedArtifact = some sb) :
    Confined a sa b sb ↔
      (∃ component, soleComponent a.manifest.pluginId = some component) ∧
      (∃ component, soleComponent b.manifest.pluginId = some component) ∧
      (a.manifest.pluginId ≠ b.manifest.pluginId → ¬ SameFile a sa b sb) := by
  obtain ⟨hash, name, hnames⟩ := ha.names hsa
  obtain ⟨hash', name', hnames'⟩ := hb.names hsb
  constructor
  · intro h
    obtain ⟨ca, hca⟩ := (insideRun_iff hnames).mp h.left
    obtain ⟨cb, hcb⟩ := (insideRun_iff hnames').mp h.right
    refine ⟨⟨ca, hca⟩, ⟨cb, hcb⟩, fun hne hsame => ?_⟩
    exact h.apart (.inl hne) ⟨true, []⟩ _ _ ((stagedAt_iff hnames).mpr rfl)
      ((stagedAt_iff hnames').mpr rfl) ((normalize_eq_iff hnames hnames' hca hcb).mpr hsame)
  · rintro ⟨⟨ca, hca⟩, ⟨cb, hcb⟩, hdistinct⟩
    refine ⟨(insideRun_iff hnames).mpr ⟨ca, hca⟩, (insideRun_iff hnames').mpr ⟨cb, hcb⟩, ?_⟩
    intro hdiffer runDir ta tb hta htb heq
    obtain rfl := (stagedAt_iff hnames).mp hta
    obtain rfl := (stagedAt_iff hnames').mp htb
    have hsame := (normalize_eq_iff hnames hnames' hca hcb).mp heq
    obtain hid | hsha := hdiffer
    · exact hdistinct hid hsame
    · exact hsha hsame.2.1

/-! ### An id that leaves the run directory -/

/-- An ABI plugin with a path for an id. -/
def escapingToml : PluginToml := ⟨{ abiRecord.manifest with pluginId := "../../etc" }, none⟩

/-- Its record. -/
def escapingRecord : PluginRecord :=
  demoRecord escapingToml (some ⟨true, ["plugins", "demo", "lib.so"]⟩)

/-- It is accepted, selected, and staged beside the run directory. -/
theorem escaping_id_leaves_run :
    Accepted hostCfg (demoFiles escapingToml) escapingRecord ∧
      Resolved (demoCatalogCfg "../../etc") ⟨[escapingRecord], []⟩ .default [escapingRecord] ∧
      StagedAt ⟨true, ["srv", "run"]⟩ escapingRecord ⟨true, ["plugins", "demo", "lib.so"]⟩
        ⟨true, ["srv", "run", "abi", "..", "..", "etc",
          "ba7816bf8f01cfea414140de5dae2223b00361a396177a9cb410ff61f20015ad", "lib.so"]⟩ ∧
      normalize ⟨true, ["srv", "run", "abi", "..", "..", "etc",
          "ba7816bf8f01cfea414140de5dae2223b00361a396177a9cb410ff61f20015ad", "lib.so"]⟩
        = ⟨true, ["srv", "etc",
          "ba7816bf8f01cfea414140de5dae2223b00361a396177a9cb410ff61f20015ad", "lib.so"]⟩ ∧
      ¬ Confined escapingRecord ⟨true, ["plugins", "demo", "lib.so"]⟩ escapingRecord
        ⟨true, ["plugins", "demo", "lib.so"]⟩ := by
  have hscan : scan hostCfg (demoFiles escapingToml) [⟨true, ["plugins"]⟩] ⟨true, ["disabled"]⟩ [] =
      .ok ⟨[escapingRecord], []⟩ :=
    scan_demo (by decide +kernel) (by decide +kernel)
  have haccepted : Accepted hostCfg (demoFiles escapingToml) escapingRecord :=
    ⟨_, _, [], [], _, rfl, hscan, List.mem_singleton_self _⟩
  obtain ⟨hash, name, hnames⟩ := haccepted.names rfl
  have hsole : soleComponent escapingRecord.manifest.pluginId = none := by decide
  refine ⟨haccepted, resolved_demo escapingToml _ (by decide +kernel),
    ⟨[], fun _ => none, .ok (), .complete, by decide +kernel⟩, by decide +kernel, fun h => ?_⟩
  obtain ⟨component, hcomponent⟩ := (insideRun_iff hnames).mp h.left
  rw [hsole] at hcomponent
  cases hcomponent

/-- A second plugin beside the first, with the same library. -/
def otherRecord : PluginRecord :=
  { abiRecord with
    manifestPath := ⟨true, ["plugins", "other", "plugin.toml"]⟩
    manifest := { abiRecord.manifest with pluginId := "demo.other" }
    resolvedArtifact := some ⟨true, ["plugins", "other", "lib.so"]⟩ }

/-- `/plugins` with both. -/
def pairHost : LoaderFs :=
  { abiHost with
    present path := path ∈ [⟨true, ["plugins"]⟩, abiRecord.manifestPath, otherRecord.manifestPath]
    isDir path := path ∈ [⟨true, ["plugins", "demo"]⟩, ⟨true, ["plugins", "other"]⟩]
    isFile path := some path ∈ [abiRecord.resolvedArtifact, otherRecord.resolvedArtifact]
    readDir path :=
      if path = ⟨true, ["plugins"]⟩ then
        .ok [.ok ⟨true, ["plugins", "demo"]⟩, .ok ⟨true, ["plugins", "other"]⟩]
      else .error "No such file or directory"
    readText path := .ok (if path = otherRecord.manifestPath then "other" else "demo")
    parse text := .ok ⟨if text = "other" then otherRecord.manifest else abiRecord.manifest, none⟩ }

theorem pairHost_accepted :
    Accepted hostCfg pairHost abiRecord ∧ Accepted hostCfg pairHost otherRecord := by
  have hreads : ReadsSucceed pairHost [⟨true, ["plugins"]⟩] := by
    intro dir hmem _
    obtain rfl := List.mem_singleton.mp hmem
    exact ⟨[⟨true, ["plugins", "demo"]⟩, ⟨true, ["plugins", "other"]⟩], rfl⟩
  have hscan := scan_ok hostCfg hreads ⟨true, ["disabled"]⟩ []
  have hbuiltin : loadAll hostCfg [] = .ok [] := rfl
  have hlaw := scanLaw_of_reads hostCfg_distinctNames hreads hbuiltin hscan
  have hdemo : examine hostCfg pairHost (disabledPlugins pairHost ⟨true, ["disabled"]⟩)
      abiRecord.manifestPath = .ok abiRecord := by decide +kernel
  have hother : examine hostCfg pairHost (disabledPlugins pairHost ⟨true, ["disabled"]⟩)
      otherRecord.manifestPath = .ok otherRecord := by decide +kernel
  have hdiffer : ¬ SameSlot hostCfg abiRecord otherRecord := fun h => absurd h.1 (by decide)
  -- each of the two has its record
  have hcandidate : ∀ (j : Nat) (candidate : Candidate) (record : PluginRecord),
      (candidates pairHost [⟨true, ["plugins"]⟩] [])[j]? = some candidate →
      candidate.Valid hostCfg pairHost ⟨true, ["disabled"]⟩ record →
      j = 0 ∧ record = abiRecord ∨ j = 1 ∧ record = otherRecord := by
    intro j candidate record hj hvalid
    match j with
    | 0 =>
        cases hj
        exact .inl ⟨rfl, Except.ok.inj ((examine_eq_ok_iff.mpr hvalid).symm.trans hdemo)⟩
    | 1 =>
        cases hj
        exact .inr ⟨rfl, Except.ok.inj ((examine_eq_ok_iff.mpr hvalid).symm.trans hother)⟩
    | _ + 2 => cases hj
  constructor
  · refine ⟨_, _, [], [], _, hbuiltin, hscan, (hlaw.kept abiRecord).mpr
      ⟨0, .dynamic abiRecord.manifestPath, rfl, examine_eq_ok_iff.mp hdemo, ?_⟩⟩
    intro j candidate record hj hvalid hsame
    rcases hcandidate j candidate record hj hvalid with ⟨hzero, -⟩ | ⟨-, rfl⟩
    · exact hzero
    · exact absurd ⟨hsame.1.symm, hsame.2.symm⟩ hdiffer
  · refine ⟨_, _, [], [], _, hbuiltin, hscan, (hlaw.kept otherRecord).mpr
      ⟨1, .dynamic otherRecord.manifestPath, rfl, examine_eq_ok_iff.mp hother, ?_⟩⟩
    intro j candidate record hj hvalid hsame
    rcases hcandidate j candidate record hj hvalid with ⟨-, rfl⟩ | ⟨hone, -⟩
    · exact absurd hsame hdiffer
    · exact hone

/-- Ordinary ids are staged inside and apart, also where the libraries are equal. -/
theorem staging_confined_demo :
    Confined abiRecord ⟨true, ["plugins", "demo", "lib.so"]⟩ otherRecord
      ⟨true, ["plugins", "other", "lib.so"]⟩ := by
  refine (staging_confined_iff pairHost_accepted.1 rfl pairHost_accepted.2 rfl).mpr
    ⟨⟨"demo.abi", by decide⟩, ⟨"demo.other", by decide⟩, ?_⟩
  rintro - ⟨hsame, -⟩
  exact absurd hsame (by decide)

end ServiceLoader
