import MutsukiServiceHost.ServiceEffectProofs
import MutsukiServiceHost.SortedGroupProofs

/-! # What decides which artifact is selected

    `resolve_catalog` looks at the records of one plugin at a time: at the
    stored deployment, at a sole candidate, at the builtin beside ABI artifacts,
    and it compares the business surface with the builtin's.  With at most one
    record for a plugin and a deployment none of this sees the order of the
    records, and nothing but the text of an error sees the diagnostics. -/

namespace ServiceCatalog

/-- An error without the text taken from the diagnostics: its variant, its
    plugin and the deployment that was asked for. -/
def ServiceRuntimeError.withoutDetail : ServiceRuntimeError → ServiceRuntimeError
  | .pluginUnavailable pluginId _ => .pluginUnavailable pluginId ""
  | .pluginDeploymentUnavailable pluginId deployment _ =>
      .pluginDeploymentUnavailable pluginId deployment ""
  | error => error

/-- The candidates for a selection. -/
def candidates (inventory : PluginInventory) (selection : PluginSelection) : List PluginRecord :=
  inventory.records.filter fun record => record.manifest.pluginId = trim selection.id

namespace CatalogCfg

/-- There is one record at most for a plugin and a deployment. -/
def UniqueKeys (cfg : CatalogCfg) (inventory : PluginInventory) : Prop :=
  inventory.records.Pairwise fun a b =>
    ¬ (a.manifest.pluginId = b.manifest.pluginId ∧ cfg.deploymentFor a = cfg.deploymentFor b)

/-- The outcome of the resolution: the selected records, or the error without
    its detail. -/
def outcome (cfg : CatalogCfg) (inventory : PluginInventory) (preferences : PluginDeploymentState) :
    Except ServiceRuntimeError (List PluginRecord) :=
  ((cfg.resolveCatalog inventory preferences).map (·.records)).mapError (·.withoutDetail)

/-- The choice for one selection, its error without the detail. -/
def choice (cfg : CatalogCfg) (inventory : PluginInventory) (preferences : PluginDeploymentState)
    (selection : PluginSelection) : Except ServiceRuntimeError PluginRecord :=
  (cfg.choose inventory preferences selection).mapError (·.withoutDetail)

section Order

variable {cfg : CatalogCfg} {inventory inventory' : PluginInventory}
  {preferences : PluginDeploymentState} {selection : PluginSelection}

theorem UniqueKeys.candidate_eq (h : cfg.UniqueKeys inventory) {a b : PluginRecord}
    (ha : a ∈ candidates inventory selection) (hb : b ∈ candidates inventory selection)
    (hab : cfg.deploymentFor a = cfg.deploymentFor b) : a = b := by
  by_contra hne
  obtain ⟨ha, hida⟩ := List.mem_filter.mp ha
  obtain ⟨hb, hidb⟩ := List.mem_filter.mp hb
  have hid : a.manifest.pluginId = b.manifest.pluginId :=
    (of_decide_eq_true hida).trans (of_decide_eq_true hidb).symm
  have hsymm : Std.Symm fun a b : PluginRecord =>
      ¬ (a.manifest.pluginId = b.manifest.pluginId ∧ cfg.deploymentFor a = cfg.deploymentFor b) :=
    ⟨fun _ _ h ⟨hid, hkind⟩ => h ⟨hid.symm, hkind.symm⟩⟩
  exact h.forall ha hb hne ⟨hid, hab⟩

/-- The candidate of a deployment does not depend on the order. -/
theorem find?_deployment (h : cfg.UniqueKeys inventory)
    (hperm : (candidates inventory selection).Perm (candidates inventory' selection))
    (kind : PluginDeploymentKind) :
    (candidates inventory selection).find? (fun record => cfg.deploymentFor record = kind) =
      (candidates inventory' selection).find? fun record => cfg.deploymentFor record = kind := by
  refine SortedGroup.find?_eq_of_perm hperm fun a ha b hb hkinda hkindb => ?_
  exact h.candidate_eq ha hb ((of_decide_eq_true hkinda).trans (of_decide_eq_true hkindb).symm)

variable (cfg) in
/-- `chooseDefault` sees how many candidates there are, whether each is builtin
    or ABI, and the builtin one. -/
theorem chooseDefault_congr (pluginId : String) {l l' : List PluginRecord} (hperm : l.Perm l')
    (hbuiltin : (l.find? fun record => cfg.deploymentFor record = .builtin) =
      l'.find? fun record => cfg.deploymentFor record = .builtin) :
    cfg.chooseDefault pluginId l = cfg.chooseDefault pluginId l' := by
  have hall : (l.all fun record =>
      cfg.deploymentFor record = .builtin || cfg.deploymentFor record = .abi) =
      l'.all fun record => cfg.deploymentFor record = .builtin || cfg.deploymentFor record = .abi :=
    hperm.all_eq
  match l, l', hperm with
  | [], l', hperm => rw [hperm.nil_eq]
  | [a], l', hperm => rw [hperm.singleton_eq]
  | a :: b :: l, [], hperm => exact nomatch hperm.eq_nil
  | a :: b :: l, [a'], hperm => exact nomatch hperm.eq_singleton
  | a :: b :: l, a' :: b' :: l', hperm =>
      simp only [chooseDefault]
      rw [hall, hbuiltin]

theorem choice_congr (h : cfg.UniqueKeys inventory)
    (hperm : (candidates inventory selection).Perm (candidates inventory' selection)) :
    cfg.choice inventory preferences selection = cfg.choice inventory' preferences selection := by
  have hfind := find?_deployment h hperm
  have hdefault : cfg.chooseDefault (trim selection.id) (candidates inventory selection) =
      cfg.chooseDefault (trim selection.id) (candidates inventory' selection) :=
    chooseDefault_congr cfg _ hperm (hfind .builtin)
  have hempty : (candidates inventory selection).isEmpty =
      (candidates inventory' selection).isEmpty := by
    rw [Bool.eq_iff_iff, List.isEmpty_iff, List.isEmpty_iff]
    exact ⟨fun hnil => (hnil ▸ hperm).nil_eq.symm, fun hnil => (hnil ▸ hperm).eq_nil⟩
  simp only [choice, choose, bind, Except.bind, pure, Except.pure, throw, throwThe,
    MonadExceptOf.throw]
  simp only [candidates] at hempty hdefault hfind
  rw [hempty]
  split
  · rfl
  · cases preferences.plugins.lookup (trim selection.id) with
    | none => simp only [hdefault, hfind]
    | some preferred =>
        simp only [hfind]
        cases (inventory'.records.filter fun record =>
            record.manifest.pluginId = trim selection.id).find? fun record =>
              cfg.deploymentFor record = preferred with
        | none => rfl
        | some record => rfl

end Order

/-! ## The whole list -/

theorem mapM_mapError {ε ε' α β : Type} (f : α → Except ε β) (g : ε → ε') (l : List α) :
    (l.mapM f).mapError g = l.mapM fun a => (f a).mapError g := by
  induction l with
  | nil => rfl
  | cons a l ih =>
      rw [List.mapM_cons, List.mapM_cons, ← ih]
      cases f a with
      | error e => rfl
      | ok b => cases l.mapM f <;> rfl

theorem mapM_congr {ε α β : Type} {f g : α → Except ε β} {l : List α}
    (h : ∀ a ∈ l, f a = g a) : l.mapM f = l.mapM g := by
  induction l with
  | nil => rfl
  | cons a l ih =>
      obtain ⟨ha, hl⟩ := List.forall_mem_cons.mp h
      rw [List.mapM_cons, List.mapM_cons, ha, ih hl]

/-- The outcome is made of the choices. -/
theorem outcome_eq (cfg : CatalogCfg) (inventory : PluginInventory)
    (preferences : PluginDeploymentState) :
    cfg.outcome inventory preferences =
      (cfg.configured.filter (·.enabled)).mapM (cfg.choice inventory preferences) := by
  have hchoices := mapM_mapError (cfg.choose inventory preferences)
    ServiceRuntimeError.withoutDetail (cfg.configured.filter (·.enabled))
  rw [outcome, resolveCatalog]
  refine Eq.trans ?_ hchoices
  cases (cfg.configured.filter (·.enabled)).mapM (cfg.choose inventory preferences) <;> rfl

/-! ## What is selected -/

/-- A record that may be selected for a selection. -/
structure Sound (cfg : CatalogCfg) (inventory : PluginInventory) (preferences : PluginDeploymentState)
    (selection : PluginSelection) (record : PluginRecord) : Prop where
  found : record ∈ inventory.records
  plugin : record.manifest.pluginId = trim selection.id
  /-- A stored deployment is used. -/
  preferred : ∀ kind, preferences.plugins.lookup (trim selection.id) = some kind →
    cfg.deploymentFor record = kind
  /-- Without one, a builtin beside an ABI artifact is used. -/
  default : preferences.plugins.lookup (trim selection.id) = none → ∀ builtin abi : PluginRecord,
    (candidates inventory selection).Perm [builtin, abi] → cfg.deploymentFor builtin = .builtin →
    cfg.deploymentFor abi = .abi → record = builtin
  /-- What stands in for a builtin has its business surface. -/
  surface : ∀ builtin ∈ candidates inventory selection, cfg.deploymentFor builtin = .builtin →
    record.manifest.businessSurface = builtin.manifest.businessSurface

section Selected

variable {cfg : CatalogCfg} {inventory : PluginInventory} {preferences : PluginDeploymentState}
  {selection : PluginSelection} {record : PluginRecord}

/-- A selected record is one of the candidates. -/
theorem choose_mem (h : cfg.choose inventory preferences selection = .ok record) :
    record ∈ candidates inventory selection := by
  obtain ⟨hchosen, -⟩ := choose_inv h
  split at hchosen
  · exact List.mem_of_find?_eq_some hchosen
  · exact chooseDefault_mem hchosen

/-- The builtin is the one among the candidates that `find` meets. -/
theorem find?_builtin (h : cfg.UniqueKeys inventory) {builtin : PluginRecord}
    (hmem : builtin ∈ candidates inventory selection)
    (hkind : cfg.deploymentFor builtin = .builtin) :
    (candidates inventory selection).find? (fun record => cfg.deploymentFor record = .builtin) =
      some builtin := by
  cases hfind : (candidates inventory selection).find? fun record =>
      cfg.deploymentFor record = .builtin with
  | none => exact absurd (decide_eq_true hkind) (List.find?_eq_none.mp hfind builtin hmem)
  | some found =>
      have hfound : cfg.deploymentFor found = .builtin := by
        simpa using List.find?_some hfind
      rw [h.candidate_eq (List.mem_of_find?_eq_some hfind) hmem (hfound.trans hkind.symm)]

theorem choose_default (hunique : cfg.UniqueKeys inventory)
    (h : cfg.choose inventory preferences selection = .ok record)
    (hnone : preferences.plugins.lookup (trim selection.id) = none) {builtin abi : PluginRecord}
    (hperm : (candidates inventory selection).Perm [builtin, abi])
    (hbuiltin : cfg.deploymentFor builtin = .builtin) (habi : cfg.deploymentFor abi = .abi) :
    record = builtin := by
  have hmem : builtin ∈ candidates inventory selection := hperm.mem_iff.mpr List.mem_cons_self
  have hpair : cfg.chooseDefault (trim selection.id) [builtin, abi] = .ok builtin := by
    simp [chooseDefault, hbuiltin, habi]
  obtain ⟨hchosen, -⟩ := choose_inv h
  rw [hnone] at hchosen
  have hsame := chooseDefault_congr cfg (trim selection.id) hperm
    ((find?_builtin hunique hmem hbuiltin).trans (by simp [hbuiltin]))
  exact Except.ok.inj (hchosen.symm.trans (hsame.trans hpair))

theorem choose_surface (hunique : cfg.UniqueKeys inventory)
    (h : cfg.choose inventory preferences selection = .ok record) {builtin : PluginRecord}
    (hmem : builtin ∈ candidates inventory selection)
    (hbuiltin : cfg.deploymentFor builtin = .builtin) :
    record.manifest.businessSurface = builtin.manifest.businessSurface := by
  obtain ⟨-, hkind | hsurface⟩ := choose_inv h
  · rw [hunique.candidate_eq (choose_mem h) hmem (hkind.trans hbuiltin.symm)]
  · exact (hsurface builtin (find?_builtin hunique hmem hbuiltin)).symm

theorem choose_sound (hunique : cfg.UniqueKeys inventory)
    (h : cfg.choose inventory preferences selection = .ok record) :
    cfg.Sound inventory preferences selection record where
  found := (List.mem_filter.mp (choose_mem h)).1
  plugin := (choose_ok h).1
  preferred := (choose_ok h).2
  default := fun hnone _ _ hperm hbuiltin habi => choose_default hunique h hnone hperm hbuiltin habi
  surface := fun _ hmem hbuiltin => choose_surface hunique h hmem hbuiltin

end Selected

/-- **RESOLUTION**: with one record at most for a plugin and a deployment, what
    is selected, or which error of which plugin ends the resolution, depends only
    on the records of the enabled plugins, not on their order, and not on the
    diagnostics; and what is selected is sound. -/
theorem resolution_sound_and_order_free {cfg : CatalogCfg} {inventory inventory' : PluginInventory}
    {preferences : PluginDeploymentState} (hunique : cfg.UniqueKeys inventory)
    (hperm : ∀ selection ∈ cfg.configured, selection.enabled = true →
      (candidates inventory selection).Perm (candidates inventory' selection)) :
    cfg.outcome inventory preferences = cfg.outcome inventory' preferences ∧
      ∀ catalog, cfg.resolveCatalog inventory preferences = .ok catalog →
        List.Forall₂ (cfg.Sound inventory preferences) (cfg.configured.filter (·.enabled))
          catalog.records := by
  constructor
  · rw [outcome_eq, outcome_eq]
    refine mapM_congr fun selection hmem => ?_
    obtain ⟨hselection, henabled⟩ := List.mem_filter.mp hmem
    exact choice_congr hunique (hperm selection hselection henabled)
  · intro catalog h
    exact (resolveCatalog_ok h).imp fun _ _ hchoose => choose_sound hunique hchoose

/-- The records in another order, a plugin more, and a diagnostic. -/
def otherInventory : PluginInventory :=
  ⟨sampleRecord "tool" .process :: sampleInventory.records.reverse,
    [⟨"plugins/echo", some "echo", none, "not readable"⟩]⟩

theorem otherInventory_resolves :
    sampleCatalogCfg.outcome sampleInventory .default
        = sampleCatalogCfg.outcome otherInventory .default ∧
      ∀ catalog, sampleCatalogCfg.resolveCatalog sampleInventory .default = .ok catalog →
        List.Forall₂ (sampleCatalogCfg.Sound sampleInventory .default)
          (sampleCatalogCfg.configured.filter (·.enabled)) catalog.records :=
  resolution_sound_and_order_free (by unfold UniqueKeys; decide) (by decide)

end CatalogCfg

end ServiceCatalog
