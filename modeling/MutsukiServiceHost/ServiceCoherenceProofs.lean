import MutsukiServiceHost.ServiceDeploymentProofs

/-! # Reload coherence — Core, the catalog and the lock file

    A reload reads the generation, writes the lock file, swaps Core and replaces
    the catalog in four steps, and nothing keeps a second request out between
    them: the `mutate_lock` belongs to a connection.  When reloads do not
    overlap, the three stem from the same reload whenever none is in progress,
    and every prepared generation is one above the current one.  The file states
    that condition and shows two reloads that overlap. -/

namespace ServiceDeployment

open ServiceControl ServiceCatalog ListUpdate Transition

/-- Core is not swapped yet. -/
def Phase.beforeSwap : Phase → Bool
  | .bootstrapping _ | .readLock _ | .writingLock _ _ _ | .reloading _ _ => true
  | _ => false

/-- The request stands between its read of the generation and the replacement
    of the catalog. -/
def Phase.inReload : Phase → Bool
  | .replacing _ _ => true
  | p => p.beforeSwap

/-- The next operation reads the generation. -/
def Phase.readsGeneration : Phase → Bool
  | .readGeneration _ => true
  | _ => false

/-- The next operation reads the lock file. -/
def Phase.readsLock : Phase → Bool
  | .readLock _ => true
  | _ => false

/-- The next operation writes the lock file. -/
def Phase.writesLock : Phase → Bool
  | .writingLock _ _ (.write _) => true
  | _ => false

/-- The steps under which reloads stay coherent: the generation is read while no
    other request is in its reload, and it is not the last one there is; the
    operations on the lock file do not fail, or leave it as it was; and Core is
    not taken away from a reload. -/
def ReloadSafe (s : Runtime) : Event → Prop
  | .task i .ok => ∀ t ∈ s.tasks[i]?, t.phase.readsGeneration = true →
      (∀ u ∈ s.tasks, u.phase.inReload = false) ∧ ∀ h ∈ s.host, h.generation < 2 ^ 64 - 1
  | .task i (.fail _) => ∀ t ∈ s.tasks[i]?, t.phase.readsLock = false
  | .task i (.failLeaving _ left) =>
      ∀ t ∈ s.tasks[i]?, t.phase.writesLock = true → left = s.lockFile
  | .task _ (.reloadFailed _ (.failed _ _)) => False
  | .takeCore => ∀ u ∈ s.tasks, u.phase.beforeSwap = false
  | _ => True

/-- A catalog that a reload put there is the one Core runs, and `lock` is what
    the lock of its plan and generation is written as. -/
def Agrees (cfg : RuntimeCfg) (s : Runtime) (lock : Option Content) : Prop :=
  ∀ i, s.catalogOrigin = some i → ∃ generation bytes,
    (∀ h ∈ s.host, h.generation = generation ∧
      h.profile = cfg.catalog.runtimeProfile s.catalog) ∧
    lock = some bytes ∧
    cfg.writeLock ⟨s.catalog.records.map (·.manifest), cfg.catalog.runtimeProfile s.catalog,
      generation⟩ = .ok bytes

/-- The active generation, the catalog and the lock file stem from the same
    reload. -/
def Coherent (cfg : RuntimeCfg) (s : Runtime) : Prop :=
  s.lockOrigin = s.catalogOrigin ∧ (∀ h ∈ s.host, h.origin = s.catalogOrigin) ∧
    Agrees cfg s s.lockFile

/-- The generation the reload read is the current one. -/
def Current (s : Runtime) (r : Reload) : Prop :=
  ∃ h, s.host = some h ∧ h.generation = r.previousGeneration ∧ r.previousGeneration < 2 ^ 64 - 1

/-- The lock file holds the lock of the reload. -/
def LockWritten (cfg : RuntimeCfg) (s : Runtime) (i : Nat) (r : Reload) : Prop :=
  s.lockOrigin = some i ∧ ∃ bytes, s.lockFile = some bytes ∧ cfg.writeLock (r.lock cfg) = .ok bytes

/-- The bytes of the lock are ready to be written. -/
def LockReady (cfg : RuntimeCfg) (r : Reload) : LockStep → Prop
  | .write bytes => cfg.writeLock (r.lock cfg) = .ok bytes
  | _ => True

/-- How far the reload of request `i` has got. -/
def AtReload (cfg : RuntimeCfg) (s : Runtime) (i : Nat) : Phase → Prop
  | .bootstrapping r | .readLock r => Coherent cfg s ∧ Current s r
  | .writingLock r saved at_ => Coherent cfg s ∧ Current s r ∧ saved.origin = s.lockOrigin ∧
      saved.bytes = s.lockFile ∧ LockReady cfg r at_
  | .reloading r saved => saved.origin = s.catalogOrigin ∧ LockWritten cfg s i r ∧ Current s r ∧
      (∀ h ∈ s.host, h.origin = s.catalogOrigin) ∧ Agrees cfg s saved.bytes
  | .replacing r _ => LockWritten cfg s i r ∧ ∀ h ∈ s.host, h.origin = some i ∧
      h.generation = r.registryGeneration ∧ h.profile = cfg.catalog.runtimeProfile r.work.catalog
  | _ => True

/-- One reload at a time, and coherence between them. -/
structure ReloadInv (cfg : RuntimeCfg) (s : Runtime) : Prop where
  exclusive : ∀ (i j : Nat) (t u : Task), s.tasks[i]? = some t → s.tasks[j]? = some u →
    t.phase.inReload = true → u.phase.inReload = true → i = j
  idle : (∀ t ∈ s.tasks, t.phase.inReload = false) → Coherent cfg s
  busy : ∀ (i : Nat) (t : Task), s.tasks[i]? = some t → AtReload cfg s i t.phase
  handed : ∀ p ∈ s.handed, p.1 = p.2 + 1

theorem atReload_outside {cfg : RuntimeCfg} {s : Runtime} {i : Nat} {p : Phase}
    (h : p.inReload = false) : AtReload cfg s i p := by
  cases p with
  | bootstrapping | readLock | writingLock | reloading | replacing => exact nomatch h
  | queued | scanning | saving | readGeneration | reconciling | committing | done | dropped =>
      trivial

/-- Core, the catalog and the lock file are left alone. -/
structure SameCore (s s' : Runtime) : Prop where
  host : s'.host = s.host
  catalog : s'.catalog = s.catalog
  catalogOrigin : s'.catalogOrigin = s.catalogOrigin
  lockFile : s'.lockFile = s.lockFile
  lockOrigin : s'.lockOrigin = s.lockOrigin

theorem Coherent.congr {cfg : RuntimeCfg} {s s' : Runtime} (h : Coherent cfg s)
    (hsame : SameCore s s') : Coherent cfg s' := by
  simp only [Coherent, Agrees, hsame.host, hsame.catalog, hsame.catalogOrigin, hsame.lockFile,
    hsame.lockOrigin]
  exact h

theorem AtReload.congr {cfg : RuntimeCfg} {s s' : Runtime} {i : Nat} {p : Phase}
    (h : AtReload cfg s i p) (hsame : SameCore s s') : AtReload cfg s' i p := by
  cases p with
  | bootstrapping | readLock | writingLock | reloading | replacing =>
      simp only [AtReload, Coherent, Agrees, Current, LockWritten, hsame.host, hsame.catalog,
        hsame.catalogOrigin, hsame.lockFile, hsame.lockOrigin] at h ⊢
      exact h
  | queued | scanning | saving | readGeneration | reconciling | committing | done | dropped =>
      trivial

/-- Request `i` has moved to phase `p`. -/
theorem ReloadInv.moved {cfg : RuntimeCfg} {s s' : Runtime} (h : ReloadInv cfg s) {i : Nat}
    {t : Task} {p : Phase}
    {f : Task → Task} (ht : s.tasks[i]? = some t) (htasks : s'.tasks = s.tasks.modify i f)
    (hf : (f t).phase = p)
    (hin : p.inReload = true → ∀ (j : Nat) (u : Task), s.tasks[j]? = some u →
      u.phase.inReload = true → i = j)
    (hout : p.inReload = false → (∀ (j : Nat) (u : Task), s.tasks[j]? = some u → i ≠ j →
      u.phase.inReload = false) → Coherent cfg s')
    (hat : AtReload cfg s' i p)
    (hothers : ∀ (j : Nat) (u : Task), s.tasks[j]? = some u → i ≠ j → AtReload cfg s' j u.phase)
    (hhanded : ∀ q ∈ s'.handed, q.1 = q.2 + 1) : ReloadInv cfg s' := by
  -- a task after the step is the moved one or an old one
  have hinv : ∀ {j : Nat} {u : Task}, s'.tasks[j]? = some u →
      (i = j ∧ u.phase = p) ∨ (i ≠ j ∧ s.tasks[j]? = some u) := by
    intro j u hu
    rw [htasks] at hu
    obtain ⟨v, hv, ⟨rfl, rfl⟩ | ⟨hij, rfl⟩⟩ := getElem?_modify_inv hu
    · rw [ht] at hv
      cases hv
      exact .inl ⟨rfl, hf⟩
    · exact .inr ⟨hij, hv⟩
  refine ⟨?_, ?_, ?_, hhanded⟩
  · intro j k u v hu hv hup hvp
    rcases hinv hu with ⟨rfl, hup'⟩ | ⟨hij, hu'⟩
    · rcases hinv hv with ⟨rfl, -⟩ | ⟨-, hv'⟩
      · rfl
      · exact hin (hup' ▸ hup) k v hv' hvp
    · rcases hinv hv with ⟨rfl, hvp'⟩ | ⟨-, hv'⟩
      · exact (hin (hvp' ▸ hvp) j u hu' hup).symm
      · exact h.exclusive j k u v hu' hv' hup hvp
  · intro hall
    have hi : s'.tasks[i]? = some (f t) := by
      rw [htasks]
      exact getElem?_modify_self ht
    refine hout (hf ▸ hall _ (List.mem_of_getElem? hi)) ?_
    intro j u hu hij
    have hu' : s'.tasks[j]? = some u := by
      rw [htasks, getElem?_modify_ne hij]
      exact hu
    exact hall u (List.mem_of_getElem? hu')
  · intro j u hu
    rcases hinv hu with ⟨rfl, hup⟩ | ⟨hij, hu'⟩
    · rw [hup]
      exact hat
    · exact hothers j u hu' hij

/-- A request in its reload moves: no other request is in one. -/
theorem ReloadInv.inside {cfg : RuntimeCfg} {s s' : Runtime} (h : ReloadInv cfg s) {i : Nat}
    {t : Task} {p : Phase}
    {f : Task → Task} (ht : s.tasks[i]? = some t) (hp : t.phase.inReload = true)
    (htasks : s'.tasks = s.tasks.modify i f) (hf : (f t).phase = p)
    (hout : p.inReload = false → Coherent cfg s') (hat : AtReload cfg s' i p)
    (hhanded : ∀ q ∈ s'.handed, q.1 = q.2 + 1) : ReloadInv cfg s' := by
  refine h.moved ht htasks hf ?_ (fun hp' _ => hout hp') hat ?_ hhanded
  · intro _ j u hu hup
    exact h.exclusive i j t u ht hu hp hup
  · intro j u hu hij
    refine atReload_outside ?_
    cases hup : u.phase.inReload with
    | false => rfl
    | true => exact absurd (h.exclusive i j t u ht hu hp hup) hij

/-- A request outside of its reload moves and touches neither Core nor the
    catalog nor the lock file. -/
theorem ReloadInv.outside {cfg : RuntimeCfg} {s s' : Runtime} (h : ReloadInv cfg s) {i : Nat}
    {t : Task} {p : Phase}
    {f : Task → Task} (ht : s.tasks[i]? = some t) (hp : t.phase.inReload = false)
    (htasks : s'.tasks = s.tasks.modify i f) (hf : (f t).phase = p) (hp' : p.inReload = false)
    (hsame : SameCore s s') (hhanded : s'.handed = s.handed) : ReloadInv cfg s' := by
  refine h.moved ht htasks hf ?_ ?_ (atReload_outside hp') ?_ (hhanded ▸ h.handed)
  · intro hbad
    rw [hp'] at hbad
    exact nomatch hbad
  · intro _ hall
    refine (h.idle ?_).congr hsame
    intro u hu
    obtain ⟨j, hj⟩ := List.getElem?_of_mem hu
    by_cases hij : i = j
    · subst hij
      rw [ht] at hj
      cases hj
      exact hp
    · exact hall j u hj hij
  · intro j u hu _
    exact (h.busy j u hu).congr hsame

/-! ## Where a request goes when it is not in its reload -/

theorem inReload_begin (cfg : RuntimeCfg) (s : Runtime) (request : MgmtRequest) :
    (begin cfg s request).inReload = false :=
  begin_cases (P := fun p => p.inReload = false) (fun _ => rfl) (fun _ _ => rfl)

theorem inReload_afterScan (w : Work) : (afterScan w).inReload = false :=
  afterScan_cases (P := fun p => p.inReload = false) (fun _ => rfl) (fun _ => rfl)

theorem inReload_afterFailedReload (w : Work) (response : ControlResponse) :
    (afterFailedReload w response).inReload = false :=
  afterFailedReload_cases (P := fun p => p.inReload = false) (fun _ => rfl) (fun _ => rfl)

theorem inReload_afterReload (w : Work) (response : ControlResponse) :
    (afterReload w response).inReload = false :=
  afterReload_cases (P := fun p => p.inReload = false) (fun _ => rfl) (fun _ => rfl)

theorem inReload_afterFailedSave (error : ServiceRuntimeError)
    (restoring : Option ControlResponse) : (afterFailedSave error restoring).inReload = false :=
  afterFailedSave_cases (P := fun p => p.inReload = false) (fun _ => rfl)

theorem inReload_afterSave (w : Work) (restoring : Option ControlResponse) :
    (afterSave w restoring).inReload = false := by
  cases restoring <;> rfl

/-! ## Coherence along a run -/

/-- A step that writes nothing. -/
theorem ReloadInv.quiet {cfg : RuntimeCfg} {s : Runtime} (h : ReloadInv cfg s) {i : Nat}
    {t : Task} {e : TaskEvent} {p : Phase} (ht : s.tasks[i]? = some t)
    (hsafe : ReloadSafe s (.task i e)) (q : QuietStep cfg s t e p) :
    ReloadInv cfg (s.setPhase i p) := by
  -- inside its reload
  have hinside : t.phase.inReload = true → (p.inReload = false → Coherent cfg s) →
      AtReload cfg (s.setPhase i p) i p → ReloadInv cfg (s.setPhase i p) :=
    fun hp hout hat => h.inside ht hp rfl rfl hout hat h.handed
  -- outside of it
  have houtside : t.phase.inReload = false → p.inReload = false → ReloadInv cfg (s.setPhase i p) :=
    fun hp hp' => h.outside ht hp rfl rfl hp' ⟨rfl, rfl, rfl, rfl, rfl⟩ rfl
  have hat := h.busy i t ht
  cases q with
  | begin hp => exact houtside (by rw [hp]; rfl) (inReload_begin _ _ _)
  | dropQueued hp => exact houtside (by rw [hp]; rfl) rfl
  | resolved change previous next catalog hp =>
      exact houtside (by rw [hp]; rfl) (inReload_afterScan _)
  | saveDir w restoring hp | saveSerialize w restoring bytes hp =>
      exact houtside (by rw [hp]; rfl) rfl
  | reconciled r changes errors hp =>
      exact houtside (by rw [hp]; rfl) (inReload_afterReload _ _)
  | dropReconcile r changes hp => exact houtside (by rw [hp]; rfl) rfl
  | generation w host hp hh =>
      -- nobody else is in a reload, so this one starts from a coherent state
      obtain ⟨halone, hlast⟩ := hsafe t ht (by rw [hp]; rfl)
      have hco := h.idle halone
      refine h.moved ht rfl rfl ?_ ?_ ⟨hco, host, hh, rfl, hlast host hh⟩ ?_ h.handed
      · intro _ j u hu hup
        rw [halone u (List.mem_of_getElem? hu)] at hup
        exact nomatch hup
      · intro hbad
        exact nomatch hbad
      · intro j u hu _
        exact atReload_outside (halone u (List.mem_of_getElem? hu))
  | bootstrapped r hp =>
      rw [hp] at hat
      exact hinside (by rw [hp]; rfl) nofun hat
  | dropBootstrap r hp =>
      rw [hp] at hat
      exact hinside (by rw [hp]; rfl) (fun _ => hat.1) trivial
  | lockRead r hp =>
      rw [hp] at hat
      exact hinside (by rw [hp]; rfl) nofun ⟨hat.1, hat.2, rfl, rfl, trivial⟩
  | lockDir r saved hp =>
      rw [hp] at hat
      exact hinside (by rw [hp]; rfl) nofun hat
  | lockSerialize r saved bytes hp hw =>
      rw [hp] at hat
      obtain ⟨hco, hcur, horigin, hbytes, -⟩ := hat
      exact hinside (by rw [hp]; rfl) nofun ⟨hco, hcur, horigin, hbytes, hw⟩

/-- A step that fails and writes nothing. -/
theorem ReloadInv.quietFail {cfg : RuntimeCfg} {s : Runtime} (h : ReloadInv cfg s) {i : Nat}
    {t : Task} {e : TaskEvent} {fault : Fault} {p : Phase} (ht : s.tasks[i]? = some t)
    (hsafe : ReloadSafe s (.task i e)) (q : QuietFail cfg s i t e fault p) :
    ReloadInv cfg (s.setFailed i [fault] p) := by
  have houtside : t.phase.inReload = false → p.inReload = false →
      ReloadInv cfg (s.setFailed i [fault] p) :=
    fun hp hp' => h.outside ht hp rfl rfl hp' ⟨rfl, rfl, rfl, rfl, rfl⟩ rfl
  have hat := h.busy i t ht
  cases q with
  | scan change previous next detail hp | resolve change previous next error hp =>
      exact houtside (by rw [hp]; rfl) rfl
  | save _ w restoring at_ error hp =>
      exact houtside (by rw [hp]; rfl) (inReload_afterFailedSave _ _)
  | coreGone w hp => exact houtside (by rw [hp]; rfl) (inReload_afterFailedReload _ _)
  | bootstrap r detail hp | lock _ r saved at_ fault error hp =>
      rw [hp] at hat
      refine h.inside ht (by rw [hp]; rfl) rfl rfl (fun _ => hat.1) ?_ h.handed
      exact atReload_outside (inReload_afterFailedReload _ _)
  | lockRead r detail hp =>
      have hread : t.phase.readsLock = false := hsafe t ht
      rw [hp] at hread
      exact nomatch hread
  | coreGoneLate r saved hp hh =>
      -- Core is not taken away from a reload
      rw [hp] at hat
      obtain ⟨-, -, ⟨host, hhost, -⟩, -, -⟩ := hat
      rw [hh] at hhost
      exact nomatch hhost

theorem Current.registryGeneration {s : Runtime} {r : Reload} (h : Current s r) :
    ∀ host ∈ s.host, r.registryGeneration = host.generation + 1 := by
  obtain ⟨host, hhost, hgen, hlast⟩ := h
  intro host' hhost'
  cases hhost.symm.trans hhost'
  show min (r.previousGeneration + 1) (2 ^ 64 - 1) = host.generation + 1
  rw [hgen]
  exact Nat.min_eq_left (by omega)

/-- The prepared generation of a current reload is one above the one it meets. -/
theorem ReloadInv.hand {cfg : RuntimeCfg} {s : Runtime} (h : ReloadInv cfg s) {r : Reload}
    {host : HostRuntime} (hcur : Current s r) (hh : s.host = some host) :
    ∀ q ∈ s.handed ++ [(r.registryGeneration, host.generation)], q.1 = q.2 + 1 := by
  intro q hq
  rcases List.mem_append.mp hq with hq | hq
  · exact h.handed q hq
  · rw [List.mem_singleton.mp hq]
    exact hcur.registryGeneration host hh

theorem ReloadInv.request {cfg : RuntimeCfg} {s : Runtime} (h : ReloadInv cfg s)
    (request : MgmtRequest) :
    ReloadInv cfg { s with tasks := s.tasks ++ [⟨request, .queued, []⟩] } := by
  -- the new request is not in a reload
  have hold : ∀ {j : Nat} {u : Task}, (s.tasks ++ [⟨request, .queued, []⟩])[j]? = some u →
      u.phase.inReload = true → s.tasks[j]? = some u := by
    intro j u hu hup
    rcases getElem?_concat_inv hu with hu | ⟨-, rfl⟩
    · exact hu
    · exact nomatch hup
  refine ⟨?_, ?_, ?_, h.handed⟩
  · intro i j t u ht hu htp hup
    exact h.exclusive i j t u (hold ht htp) (hold hu hup) htp hup
  · intro hall
    exact h.idle fun t ht => hall t (List.mem_append_left _ ht)
  · intro i t ht
    cases htp : t.phase.inReload with
    | false => exact atReload_outside htp
    | true => exact (h.busy i t (hold ht htp)).congr ⟨rfl, rfl, rfl, rfl, rfl⟩

theorem ReloadInv.takeCore {cfg : RuntimeCfg} {s : Runtime} (h : ReloadInv cfg s)
    (hsafe : ReloadSafe s .takeCore) : ReloadInv cfg { s with host := none } := by
  refine ⟨h.exclusive, ?_, ?_, h.handed⟩
  · intro hall
    obtain ⟨hlock, -, hagree⟩ := h.idle hall
    refine ⟨hlock, nofun, ?_⟩
    intro i hi
    obtain ⟨generation, bytes, -, hbytes, hw⟩ := hagree i hi
    exact ⟨generation, bytes, nofun, hbytes, hw⟩
  · intro i t ht
    have hbefore := hsafe t (List.mem_of_getElem? ht)
    have hat := h.busy i t ht
    cases hp : t.phase with
    | bootstrapping | readLock | writingLock | reloading =>
        rw [hp] at hbefore
        exact nomatch hbefore
    | replacing r changes =>
        rw [hp] at hat
        exact ⟨hat.1, nofun⟩
    | queued | scanning | saving | readGeneration | reconciling | committing | done | dropped =>
        trivial

theorem ReloadInv.preserved {cfg : RuntimeCfg} {s s' : Runtime} {e : Event} (h : ReloadInv cfg s)
    (hsafe : ReloadSafe s e) (hs : step cfg s e = some s') : ReloadInv cfg s' := by
  cases step_move hs with
  | request request => exact h.request request
  | takeCore => exact h.takeCore hsafe
  | inventory inventory =>
      exact ⟨h.exclusive, h.idle,
        fun i t ht => (h.busy i t ht).congr ⟨rfl, rfl, rfl, rfl, rfl⟩, h.handed⟩
  | task i t te _ ht m =>
      have hat := h.busy i t ht
      cases m with
      | quiet _ p q => exact h.quiet ht hsafe q
      | quietFail _ fault p q => exact h.quietFail ht hsafe q
      | writePending w restoring bytes hp | removeOld w restoring hp | commit w response hp =>
          exact h.outside ht (by rw [hp]; rfl) rfl rfl rfl ⟨rfl, rfl, rfl, rfl, rfl⟩ rfl
      | leavePending w restoring bytes detail left error hp =>
          exact h.outside ht (by rw [hp]; rfl) rfl rfl (inReload_afterFailedSave _ _)
            ⟨rfl, rfl, rfl, rfl, rfl⟩ rfl
      | rename w restoring bytes hp =>
          exact h.outside ht (by rw [hp]; rfl) rfl rfl (inReload_afterSave _ _)
            ⟨rfl, rfl, rfl, rfl, rfl⟩ rfl
      | writeLock r saved bytes hp =>
          rw [hp] at hat
          obtain ⟨⟨hlock, hhost, hagree⟩, hcur, horigin, hbytes, hw⟩ := hat
          refine h.inside ht (by rw [hp]; rfl) rfl rfl nofun ?_ h.handed
          exact ⟨horigin.trans hlock, ⟨rfl, bytes, rfl, hw⟩, hcur, hhost, hbytes ▸ hagree⟩
      | leaveLock r saved bytes detail left error hp =>
          -- the failed write has left the file as it was
          have hleft : left = s.lockFile := hsafe t ht (by rw [hp]; rfl)
          rw [hp] at hat
          have hco : Coherent cfg (s.leaveLock i left) :=
            hat.1.congr ⟨rfl, rfl, rfl, hleft, if_pos hleft⟩
          refine h.inside ht (by rw [hp]; rfl) rfl rfl (fun _ => hco) ?_ h.handed
          exact atReload_outside (inReload_afterFailedReload _ _)
      | install r saved host changes hp hh =>
          rw [hp] at hat
          obtain ⟨-, hlock, hcur, -, -⟩ := hat
          refine h.inside ht (by rw [hp]; rfl) rfl rfl nofun ⟨hlock, ?_⟩ (h.hand hcur hh)
          rintro host' ⟨⟩
          exact ⟨rfl, rfl, rfl⟩
      | reloadFail r saved host detail hp hh =>
          rw [hp] at hat
          obtain ⟨horigin, -, hcur, hhost, hagree⟩ := hat
          refine h.inside ht (by rw [hp]; rfl) rfl rfl (fun _ => ⟨horigin, hhost, hagree⟩) ?_
            (h.hand hcur hh)
          exact atReload_outside (inReload_afterFailedReload _ _)
      | restoreFail => exact absurd hsafe id
      | replace r changes hp =>
          rw [hp] at hat
          obtain ⟨⟨hlock, bytes, hbytes, hw⟩, hhost⟩ := hat
          refine h.inside ht (by rw [hp]; rfl) rfl rfl (fun _ => ⟨hlock, ?_, ?_⟩) trivial h.handed
          · exact fun host hh => (hhost host hh).1
          · intro j _
            exact ⟨r.registryGeneration, bytes, fun host hh => (hhost host hh).2, hbytes, hw⟩

/-- **RELOAD COHERENCE**: in every run from a coherent state in which reloads do
    not overlap, the active generation, the catalog and the lock file stem from
    the same reload whenever no request is in progress, and every prepared
    generation is one above the one it met. -/
theorem reloads_coherent {cfg : RuntimeCfg} {s₀ s : Runtime} (htasks : s₀.tasks = [])
    (hco : Coherent cfg s₀) (hhanded : s₀.handed = []) (h : Reaches (step cfg) ReloadSafe s₀ s) :
    (s.Quiet → Coherent cfg s) ∧ ∀ p ∈ s.handed, p.1 = p.2 + 1 := by
  have hinv : ReloadInv cfg s := by
    refine h.invariant (P := ReloadInv cfg) ?_ ?_
    · refine ⟨?_, fun _ => hco, ?_, ?_⟩
      · intro i j t u ht
        rw [htasks] at ht
        exact nomatch ht
      · intro i t ht
        rw [htasks] at ht
        exact nomatch ht
      · intro p hp
        rw [hhanded] at hp
        exact nomatch hp
    · intro s e s' hinv hsafe hs
      exact hinv.preserved hsafe hs
  refine ⟨?_, hinv.handed⟩
  intro hquiet
  refine hinv.idle ?_
  intro t ht
  have hover := hquiet t ht
  cases hp : t.phase with
  | done | dropped => rfl
  | queued | scanning | saving | readGeneration | bootstrapping | readLock | writingLock
  | reloading | replacing | reconciling | committing =>
      rw [hp] at hover
      exact nomatch hover

/-! ## A reload alone, and two that overlap -/

instance (s : Runtime) (e : Event) : Decidable (ReloadSafe s e) :=
  match e with
  | .task i .ok => inferInstanceAs (Decidable (∀ t ∈ s.tasks[i]?,
      t.phase.readsGeneration = true → (∀ u ∈ s.tasks, u.phase.inReload = false) ∧
        ∀ h ∈ s.host, h.generation < 2 ^ 64 - 1))
  | .task i (.fail _) =>
      inferInstanceAs (Decidable (∀ t ∈ s.tasks[i]?, t.phase.readsLock = false))
  | .task i (.failLeaving _ left) => inferInstanceAs (Decidable (∀ t ∈ s.tasks[i]?,
      t.phase.writesLock = true → left = s.lockFile))
  | .task _ (.reloadFailed _ (.failed _ _)) => inferInstanceAs (Decidable False)
  | .takeCore => inferInstanceAs (Decidable (∀ u ∈ s.tasks, u.phase.beforeSwap = false))
  | .task _ (.reloaded _) | .task _ (.reloadFailed _ .ok) | .task _ (.reconciled _)
  | .task _ .drop | .request _ | .inventory _ => inferInstanceAs (Decidable True)

theorem sampleRuntime_coherent : Coherent sampleCfg sampleRuntime := by
  refine ⟨rfl, ?_, nofun⟩
  rintro host ⟨⟩
  rfl

/-- One `plugin_reload` from its arrival to its response. -/
def reloadedRuntime : Runtime :=
  (run (step sampleCfg) ReloadSafe sampleRuntime
    ([.request .pluginReload] ++ oks 0 3 ++ swappedBy 0 ++
      [.task 0 .ok, .task 0 (.reconciled [])])).getD sampleRuntime

theorem reloads_coherent_sample :
    Reaches (step sampleCfg) ReloadSafe sampleRuntime reloadedRuntime ∧
      reloadedRuntime.catalogOrigin = some 0 ∧ Coherent sampleCfg reloadedRuntime ∧
      reloadedRuntime.handed = [(2, 1)] ∧ ∀ p ∈ reloadedRuntime.handed, p.1 = p.2 + 1 := by
  have hrun : Reaches (step sampleCfg) ReloadSafe sampleRuntime reloadedRuntime :=
    reaches_getD (by decide)
  have hquiet : reloadedRuntime.Quiet := by
    simp only [Runtime.Quiet]
    decide
  obtain ⟨hco, hhanded⟩ := reloads_coherent rfl sampleRuntime_coherent rfl hrun
  exact ⟨hrun, by decide, hco hquiet, by decide, hhanded⟩

/-- Two changes that both read generation 1: the first swaps Core, then the
    second, which also replaces the catalog before the first one does. -/
def overlappedRuntime : Runtime :=
  (run (step sampleCfg) Free sampleRuntime
    ([.request (.pluginDeploymentSet (abiParams "echo")),
        .request (.pluginDeploymentSet (abiParams "clock"))] ++
      savedBy 0 ++ savedBy 1 ++ swappedBy 0 ++ swappedBy 1 ++
      [.task 1 .ok, .task 0 .ok, .task 0 (.reconciled []), .task 1 (.reconciled []),
        .task 0 .ok, .task 1 .ok])).getD sampleRuntime

/-- **OVERLAPPING RELOADS**: Core and the lock file are left with the reload of
    the second request, the catalog with that of the first, and the second
    prepared generation is the current one. -/
theorem overlapping_reloads_incoherent :
    Coherent sampleCfg sampleRuntime ∧
      Reaches (step sampleCfg) Free sampleRuntime overlappedRuntime ∧ overlappedRuntime.Quiet ∧
      overlappedRuntime.host.map (·.origin) = some (some 1) ∧
      overlappedRuntime.lockOrigin = some 1 ∧ overlappedRuntime.catalogOrigin = some 0 ∧
      overlappedRuntime.host.map (·.profile) ≠
        some (sampleCfg.catalog.runtimeProfile overlappedRuntime.catalog) ∧
      ¬ Coherent sampleCfg overlappedRuntime ∧ overlappedRuntime.handed = [(2, 1), (2, 2)] := by
  have hlock : overlappedRuntime.lockOrigin = some 1 := by decide
  have hcatalog : overlappedRuntime.catalogOrigin = some 0 := by decide
  refine ⟨sampleRuntime_coherent, reaches_getD (by decide), ?_, by decide, hlock, hcatalog,
    by decide, ?_, by decide⟩
  · simp only [Runtime.Quiet]
    decide
  · intro hco
    have hsame := hco.1
    rw [hlock, hcatalog] at hsame
    exact nomatch hsame

end ServiceDeployment
