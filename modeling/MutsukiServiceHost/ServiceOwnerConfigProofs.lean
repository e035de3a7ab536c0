import MutsukiServiceHost.ServiceDocumentProofs

/-! # Owner configuration — `ConfiguredPluginStore::replace_config`

    The configuration of one plugin is replaced in the product file: the one
    selection under `plugins.configured` with the plugin's id gets a new
    `config`.

    * `replace_config_law` — the replacement succeeds exactly when there is one
      such selection and TOML can say the value; then the document has changed
      at that `config` and nowhere else.  An error leaves the file alone, and
      the `expect` on the selection is never reached with anything but a
      table. -/

namespace ServiceDocument

open SerdeContent
open ServiceControl
open ServiceLoad (Node PathBuf trim)
open ServiceSecret (SecretDisk)

/-! ## `replace_config` -/

/-- How a call ends; a panic is a failed `expect`. -/
inductive Outcome (α : Type) where
  | ok (a : α)
  | error (e : ManagedError)
  | panicked

/-- The selection has the plugin's id. -/
def idMatches (pluginId : String) (selection : Toml) : Bool :=
  match (selection.get "id").bind Toml.asStr with
  | some id => trim id = trim pluginId
  | none => false

/-- The indices of such selections. -/
def matchingIndices (pluginId : String) (configured : List Toml) : List Nat :=
  (configured.zipIdx.filter fun entry => idMatches pluginId entry.1).map Prod.snd

/-- The document with a new `config` in one selection; the keys on the way to it
    are there, so that each insertion replaces a value. -/
def withConfig (index : Nat) (value : Toml) (root plugins : List (String × Toml))
    (configured : List Toml) (selection : List (String × Toml)) : Toml :=
  .table (insertKey "plugins" (.table (insertKey "configured"
    (.array (configured.set index (.table (insertKey "config" value selection)))) plugins)) root)

/-- `replace_config` between reading the document and printing it. -/
def replaceDocument (pluginId : String) (path : PathBuf) (config : Value) (document : Toml) :
    Outcome Toml :=
  match document with
  | .table root =>
      match root.lookup "plugins" with
      | some (.table plugins) =>
          match plugins.lookup "configured" with
          | some (.array configured) =>
              match matchingIndices pluginId configured with
              | [index] =>
                  match jsonToToml config with
                  | .error detail => .error (.invalidConfiguredPluginValue pluginId detail)
                  | .ok value =>
                      match configured[index]? with
                      | some (.table selection) =>
                          .ok (withConfig index value root plugins configured selection)
                      | _ => .panicked
              | _ => .error (.configuredPluginNotFound pluginId path)
          | _ => .error (.configuredPluginNotFound pluginId path)
      | _ => .error (.configuredPluginNotFound pluginId path)
  | _ => .error (.configuredPluginNotFound pluginId path)

/-- What a call leaves. -/
structure Managed where
  outcome : Outcome Unit
  disk : SecretDisk

/-- `ConfiguredPluginStore::replace_config`. -/
def replaceConfig (format : TomlFormat) (io : ManagedIo) (path : PathBuf) (disk : SecretDisk)
    (pluginId : String) (config : Value) : Managed :=
  match readDocument format io path disk with
  | .error e => ⟨.error e, disk⟩
  | .ok document =>
      match replaceDocument pluginId path config document with
      | .error e => ⟨.error e, disk⟩
      | .panicked => ⟨.panicked, disk⟩
      | .ok document =>
          match format.print document with
          | .error detail => ⟨.error (.invalidConfiguredPluginValue pluginId detail), disk⟩
          | .ok content =>
              match atomicWrite io path content disk with
              | (.error e, disk) => ⟨.error (.write e), disk⟩
              | (.ok (), disk) => ⟨.ok (), disk⟩

/-! ## The selection -/

/-- `plugins.configured` is an array and `index` the one index of a selection
    with the plugin's id. -/
structure Selected (document : Toml) (pluginId : String) (configured : List Toml) (index : Nat) :
    Prop where
  array : document.at [.key "plugins", .key "configured"] = some (.array configured)
  only : ∀ j, (∃ selection, configured[j]? = some selection ∧ idMatches pluginId selection = true) ↔
    j = index

/-- The place of a plugin's configuration. -/
def configPlace (index : Nat) : List Label :=
  [.key "plugins", .key "configured", .index index, .key "config"]

theorem mem_matchingIndices {pluginId : String} {configured : List Toml} {j : Nat} :
    j ∈ matchingIndices pluginId configured ↔
      ∃ selection, configured[j]? = some selection ∧ idMatches pluginId selection = true := by
  rw [matchingIndices, List.mem_map]
  constructor
  · rintro ⟨⟨selection, i⟩, hmem, rfl⟩
    obtain ⟨hzip, hmatch⟩ := List.mem_filter.mp hmem
    exact ⟨selection, List.mem_zipIdx_iff_getElem?.mp hzip, hmatch⟩
  · rintro ⟨selection, hget, hmatch⟩
    exact ⟨(selection, j),
      List.mem_filter.mpr ⟨List.mem_zipIdx_iff_getElem?.mpr hget, hmatch⟩, rfl⟩

theorem matchingIndices_nodup (pluginId : String) (configured : List Toml) :
    (matchingIndices pluginId configured).Nodup := by
  have hall : (configured.zipIdx.map Prod.snd).Nodup := by
    rw [List.zipIdx_map_snd]
    exact List.nodup_range'
  exact hall.sublist (List.filter_sublist.map _)

/-- One matching index, as a list and as a property. -/
theorem matchingIndices_eq_singleton_iff {pluginId : String} {configured : List Toml}
    {index : Nat} :
    matchingIndices pluginId configured = [index] ↔
      ∀ j, (∃ selection, configured[j]? = some selection ∧ idMatches pluginId selection = true) ↔
        j = index := by
  constructor
  · intro h j
    rw [← mem_matchingIndices, h, List.mem_singleton]
  · intro h
    have hperm : (matchingIndices pluginId configured).Perm [index] := by
      refine (List.perm_ext_iff_of_nodup (matchingIndices_nodup _ _)
        (List.nodup_singleton index)).mpr ?_
      intro j
      rw [mem_matchingIndices, h, List.mem_singleton]
    exact List.perm_singleton.mp hperm

/-- A selection with an id is a table. -/
theorem table_of_idMatches {pluginId : String} {selection : Toml}
    (h : idMatches pluginId selection = true) : ∃ entries, selection = .table entries := by
  cases selection with
  | table entries => exact ⟨entries, rfl⟩
  | string _ | integer _ | float _ | boolean _ | datetime _ | array _ => cases h

theorem at_configured_iff {document : Toml} {configured : List Toml} :
    document.at [.key "plugins", .key "configured"] = some (.array configured) ↔
      ∃ root plugins, document = .table root ∧ root.lookup "plugins" = some (.table plugins) ∧
        plugins.lookup "configured" = some (.array configured) := by
  rw [at_key_iff]
  constructor
  · rintro ⟨root, child, rfl, hplugins, h⟩
    obtain ⟨plugins, node, rfl, hconfigured, hnode⟩ := at_key_iff.mp h
    obtain rfl : node = .array configured := Option.some.inj hnode
    exact ⟨root, plugins, rfl, hplugins, hconfigured⟩
  · rintro ⟨root, plugins, rfl, hplugins, hconfigured⟩
    exact ⟨root, _, rfl, hplugins, at_key_iff.mpr ⟨plugins, _, rfl, hconfigured, rfl⟩⟩

section WithConfig

variable {index : Nat} {value : Toml} {root plugins selection : List (String × Toml)}
  {configured : List Toml}

/-- The new configuration is in its place, -/
theorem withConfig_at (hselection : configured[index]? = some (.table selection)) :
    (withConfig index value root plugins configured selection).at (configPlace index)
      = some value := by
  have hlt : index < configured.length := (List.getElem?_eq_some_iff.mp hselection).1
  rw [withConfig, configPlace, at_insertKey, at_insertKey]
  have hindex : (Toml.array (configured.set index (.table (insertKey "config" value selection)))).at
      [.index index, .key "config"]
      = (Toml.table (insertKey "config" value selection)).at [.key "config"] := by
    show TreePath.follow Toml.child
      ((configured.set index (.table (insertKey "config" value selection)))[index]?) _ = _
    rw [List.getElem?_set_self hlt]
    rfl
  rw [hindex, at_insertKey]
  rfl

/-- and everything else is in the places it had. -/
theorem withConfig_sameOff (hplugins : root.lookup "plugins" = some (.table plugins))
    (hconfigured : plugins.lookup "configured" = some (.array configured))
    (hselection : configured[index]? = some (.table selection)) :
    SameOff [configPlace index] (.table root)
      (withConfig index value root plugins configured selection) := by
  have hlt : index < configured.length := (List.getElem?_eq_some_iff.mp hselection).1
  have hitem : TreePath.SameOff Toml.child [[.key "config"]] (some (.table selection))
      (some (.table (insertKey "config" value selection))) :=
    sameOff_insertKey (TreePath.SameOff.root _ _)
  have harray : TreePath.SameOff Toml.child [[.index index, .key "config"]]
      (some (.array configured))
      (some (.array (configured.set index (.table (insertKey "config" value selection))))) := by
    refine TreePath.SameOff.below ?_ ?_
    · intro label hlabel
      cases label with
      | key k => rfl
      | index j =>
          have hne : index ≠ j := fun heq => hlabel (congrArg Label.index heq.symm)
          exact List.getElem?_set_ne hne
    · show TreePath.SameOff Toml.child [[.key "config"]] (configured[index]?)
        ((configured.set index (.table (insertKey "config" value selection)))[index]?)
      rw [hselection, List.getElem?_set_self hlt]
      exact hitem
  have htable := sameOff_insertKey (hconfigured ▸ harray)
  exact sameOff_insertKey (hplugins ▸ htable)

end WithConfig

/-- **ONE REPLACEMENT**: it fails without the one selection or without a TOML
    value, and otherwise changes the configuration only. -/
theorem replaceDocument_cases (pluginId : String) (path : PathBuf) (config : Value)
    (document : Toml) :
    (∃ e, replaceDocument pluginId path config document = .error e ∧
      ¬ ((∃ configured index, Selected document pluginId configured index) ∧
        Representable config)) ∨
    ∃ configured index document' value,
      replaceDocument pluginId path config document = .ok document' ∧
      Selected document pluginId configured index ∧ jsonToToml config = .ok value ∧
      document'.at (configPlace index) = some value ∧
      SameOff [configPlace index] document document' := by
  have hsearch : ∀ configured, document.at [.key "plugins", .key "configured"]
      = some (.array configured) → ∀ index, Selected document pluginId configured index ↔
        matchingIndices pluginId configured = [index] := by
    intro configured harray index
    rw [matchingIndices_eq_singleton_iff]
    exact ⟨fun h => h.only, fun h => ⟨harray, h⟩⟩
  unfold replaceDocument
  split
  · rename_i root
    split
    · rename_i plugins hplugins
      split
      · rename_i configured hconfigured
        have harray : (Toml.table root).at [.key "plugins", .key "configured"]
            = some (.array configured) :=
          at_configured_iff.mpr ⟨root, plugins, rfl, hplugins, hconfigured⟩
        split
        · rename_i index hmatch
          have hselected := (hsearch configured harray index).mpr hmatch
          obtain ⟨selection, hget, hid⟩ := (hselected.only index).mpr rfl
          obtain ⟨entries, rfl⟩ := table_of_idMatches hid
          cases hvalue : jsonToToml config with
          | error detail =>
              refine .inl ⟨_, rfl, fun h => ?_⟩
              obtain ⟨item, hitem⟩ := (jsonToToml_ok_iff config).mpr h.2
              cases hvalue.symm.trans hitem
          | ok value =>
              dsimp only
              rw [hget]
              exact .inr ⟨configured, index, _, value, rfl, hselected, rfl, withConfig_at hget,
                withConfig_sameOff hplugins hconfigured hget⟩
        · rename_i hmany
          refine .inl ⟨_, rfl, ?_⟩
          rintro ⟨⟨configured', index, hselected⟩, -⟩
          have hsame := hselected.array.symm.trans harray
          obtain rfl : configured' = configured := Toml.array.inj (Option.some.inj hsame)
          exact hmany index ((hsearch configured' harray index).mp hselected)
      · rename_i hnone
        refine .inl ⟨_, rfl, ?_⟩
        rintro ⟨⟨configured, index, hselected⟩, -⟩
        obtain ⟨root', plugins', hroot, hplugins', hconfigured⟩ :=
          at_configured_iff.mp hselected.array
        obtain rfl : root = root' := Toml.table.inj hroot
        obtain rfl : plugins = plugins' :=
          Toml.table.inj (Option.some.inj (hplugins.symm.trans hplugins'))
        exact hnone configured hconfigured
    · rename_i hnone
      refine .inl ⟨_, rfl, ?_⟩
      rintro ⟨⟨configured, index, hselected⟩, -⟩
      obtain ⟨root', plugins, hroot, hplugins, -⟩ := at_configured_iff.mp hselected.array
      obtain rfl : root = root' := Toml.table.inj hroot
      exact hnone plugins hplugins
  · rename_i hnone
    refine .inl ⟨_, rfl, ?_⟩
    rintro ⟨⟨configured, index, hselected⟩, -⟩
    obtain ⟨root, plugins, rfl, -⟩ := at_configured_iff.mp hselected.array
    exact hnone root rfl

/-! ## The whole call -/

/-- What the call writes is printed and read back. -/
def TomlFormat.Covers (format : TomlFormat) (pluginId : String) (path : PathBuf) (config : Value)
    (document : Toml) : Prop :=
  ∀ document', replaceDocument pluginId path config document = .ok document' →
    format.Faithful document'

/-- A call leaves the file alone or writes the new document. -/
theorem replaceConfig_cases (format : TomlFormat) (io : ManagedIo) (path : PathBuf)
    (disk : SecretDisk) (pluginId : String) (config : Value) :
    (∃ e, (replaceConfig format io path disk pluginId config).outcome = .error e ∧
      (replaceConfig format io path disk pluginId config).disk.file = disk.file) ∨
    ∃ content document document' text,
      disk.file = .file content ∧ format.parse content = .ok document ∧
      replaceDocument pluginId path config document = .ok document' ∧
      format.print document' = .ok text ∧
      (replaceConfig format io path disk pluginId config).outcome = .ok () ∧
      (replaceConfig format io path disk pluginId config).disk.file = .file text := by
  rw [replaceConfig]
  cases hread : readDocument format io path disk with
  | error e => exact .inl ⟨e, rfl, rfl⟩
  | ok document =>
      obtain ⟨content, hfile, hparse⟩ := readDocument_ok hread
      dsimp only
      obtain ⟨e, hreplace, -⟩ | ⟨-, -, document', -, hreplace, -⟩ :=
        replaceDocument_cases pluginId path config document
      · rw [hreplace]
        exact .inl ⟨e, rfl, rfl⟩
      · rw [hreplace]
        dsimp only
        cases hprint : format.print document' with
        | error detail => exact .inl ⟨_, rfl, rfl⟩
        | ok text =>
            dsimp only
            obtain ⟨e, disk', hwrite, hsame⟩ | hwrite := atomicWrite_cases io path text disk
            · rw [hwrite]
              exact .inl ⟨_, rfl, hsame⟩
            · rw [hwrite]
              exact .inr ⟨content, document, document', text, hfile, hparse, hreplace, hprint,
                rfl, rfl⟩

/-- What `replace_config` does to the file with `document`. -/
structure ReplaceConfigLaw (format : TomlFormat) (path : PathBuf) (disk : SecretDisk)
    (document : Toml) (pluginId : String) (config : Value) : Prop where
  /-- it succeeds exactly with one selection and a value for TOML -/
  succeeds_iff : ∀ io : ManagedIo, io.Succeeds →
    ((replaceConfig format io path disk pluginId config).outcome = .ok () ↔
      (∃ configured index, Selected document pluginId configured index) ∧ Representable config)
  /-- then the file has changed in one place -/
  exact : ∀ io : ManagedIo, (replaceConfig format io path disk pluginId config).outcome = .ok () →
    ∃ configured index text document' value,
      Selected document pluginId configured index ∧
      (replaceConfig format io path disk pluginId config).disk.file = .file text ∧
      format.parse text = .ok document' ∧
      document'.at (configPlace index) = some value ∧ value.toJson = config ∧
      SameOff [configPlace index] document document'
  unchanged : ∀ (io : ManagedIo) (e : ManagedError),
    (replaceConfig format io path disk pluginId config).outcome = .error e →
    (replaceConfig format io path disk pluginId config).disk.file = disk.file
  /-- the `expect` -/
  no_panic : ∀ io : ManagedIo,
    (replaceConfig format io path disk pluginId config).outcome ≠ .panicked

/-- **OWNER CONFIGURATION IS REPLACED EXACTLY.** -/
theorem replace_config_law {format : TomlFormat} {path : PathBuf} {disk : SecretDisk}
    {content : String} {document : Toml} {pluginId : String} {config : Value}
    (hconfig : config.Proper) (hfile : disk.file = .file content)
    (hparse : format.parse content = .ok document)
    (hcovers : format.Covers pluginId path config document) :
    ReplaceConfigLaw format path disk document pluginId config := by
  constructor
  case succeeds_iff =>
    intro io hio
    rw [replaceConfig, readDocument_eq hio.readOk hfile hparse]
    dsimp only
    obtain ⟨e, hreplace, hnot⟩ | ⟨configured, index, document', value, hreplace, hselected,
      hvalue, -⟩ :=
      replaceDocument_cases pluginId path config document
    · rw [hreplace]
      exact ⟨fun h => (nomatch h), fun h => absurd h hnot⟩
    · obtain ⟨text, hprint, -⟩ := hcovers document' hreplace
      rw [hreplace]
      dsimp only
      rw [hprint]
      dsimp only
      rw [atomicWrite_eq hio]
      exact ⟨fun _ => ⟨⟨configured, index, hselected⟩,
        (jsonToToml_ok_iff config).mp ⟨value, hvalue⟩⟩,
        fun _ => rfl⟩
  case exact =>
    intro io hok
    obtain ⟨e, he, -⟩ | ⟨content', found, document', text, hfile', hparse', hreplace, hprint,
      -, hnew⟩ :=
      replaceConfig_cases format io path disk pluginId config
    · exact nomatch he.symm.trans hok
    · obtain rfl : content = content' := Node.file.inj (hfile.symm.trans hfile')
      obtain rfl : document = found := Except.ok.inj (hparse.symm.trans hparse')
      obtain ⟨text', hprint', hreparse⟩ := hcovers document' hreplace
      obtain rfl : text = text' := Except.ok.inj (hprint.symm.trans hprint')
      obtain ⟨e, herror, -⟩ | ⟨configured, index, document'', value, hreplace', hselected, hvalue,
        hat, hoff⟩ := replaceDocument_cases pluginId path config document
      · exact nomatch herror.symm.trans hreplace
      · obtain rfl : document' = document'' := Outcome.ok.inj (hreplace.symm.trans hreplace')
        exact ⟨configured, index, text, document', value, hselected, hnew, hreparse, hat,
          toJson_jsonToToml hconfig hvalue, hoff⟩
  case unchanged =>
    intro io e he
    obtain ⟨-, -, hsame⟩ | ⟨-, -, -, -, -, -, -, -, hok, -⟩ :=
      replaceConfig_cases format io path disk pluginId config
    · exact hsame
    · exact nomatch he.symm.trans hok
  case no_panic =>
    intro io hpanic
    obtain ⟨e, he, -⟩ | ⟨-, -, -, -, -, -, -, -, hok, -⟩ :=
      replaceConfig_cases format io path disk pluginId config
    · exact nomatch he.symm.trans hpanic
    · exact nomatch hok.symm.trans hpanic

/-- A product file with two plugins. -/
def productDocument (mode : String) : Toml :=
  .table [("plugins", .table [("configured", .array [
    .table [("config", .table [("mode", .string mode)]), ("id", .string "mutsuki.bot.bilibili")],
    .table [("id", .string "other.plugin")]])])]

/-- The file as it is printed. -/
def productText (mode : String) : String :=
  "[[plugins.configured]]\nid = \"mutsuki.bot.bilibili\"\n\n[plugins.configured.config]\nmode = \""
    ++ mode ++ "\"\n\n[[plugins.configured]]\nid = \"other.plugin\"\n"

/-- `toml` on such files. -/
def productFormat : TomlFormat where
  parse text :=
    if text = productText "kept" then .ok (productDocument "kept")
    else if text = productText "live" then .ok (productDocument "live")
    else .error "expected a table"
  print document :=
    match document with
    | .table [("plugins", .table [("configured", .array [
        .table [("config", .table [("mode", .string mode)]), ("id", .string "mutsuki.bot.bilibili")],
        .table [("id", .string "other.plugin")]])])] => .ok (productText mode)
    | _ => .error "unsupported value"

/-- The first plugin gets a new mode. -/
theorem replace_config_law_product :
    ReplaceConfigLaw productFormat ⟨true, ["srv", "local.toml"]⟩
      ⟨.file (productText "kept"), .absent⟩ (productDocument "kept") " mutsuki.bot.bilibili"
      (.object [("mode", .string "live")]) := by
  have hkept : productFormat.parse (productText "kept") = .ok (productDocument "kept") := by
    simp only [productFormat, if_true]
  have hlive : productFormat.parse (productText "live") = .ok (productDocument "live") := by
    have hne : productText "live" ≠ productText "kept" := by decide
    simp only [productFormat, if_neg hne, if_true]
  refine replace_config_law ?_ rfl hkept ?_
  · refine .object _ (List.pairwise_singleton _ _) ?_
    intro m hm
    obtain rfl := List.mem_singleton.mp hm
    exact .string "live"
  · intro document' h
    have hreplace : replaceDocument " mutsuki.bot.bilibili" ⟨true, ["srv", "local.toml"]⟩
        (.object [("mode", .string "live")]) (productDocument "kept")
          = .ok (productDocument "live") := by
      rfl
    obtain rfl := Outcome.ok.inj (h.symm.trans hreplace)
    exact ⟨productText "live", rfl, hlive⟩

end ServiceDocument
