import MutsukiServiceHost.ServiceServerLogProofs

/-! # `pending` of a connection mirrors its tasks

    A CANCEL frame and the closing drain find a request task only through its
    entry in `pending`, and the drain waits until the map is empty.  The entry
    is inserted by the loop after the task is spawned and removed by the task
    itself, by a CANCEL and by the drain, always under the id the client chose.

    * `Mirrors` — every running task has exactly one entry, every entry is that
      of a running task.
    * `pending_mirrors_tasks` — that holds whenever the loop waits for a frame,
      as long as a task is still alive and its id free when its entry goes in,
      no task removes the entry of another, and no handler panics under its
      entry.

    On the code none of this is given: a task can end before its entry goes in. -/

namespace ServiceServer

open ServiceControl ServiceFrame ListUpdate Transition

/-- The task has not ended and nobody has aborted it. -/
def Task.running (t : Task) : Bool := t.phase.live && !t.aborted

theorem Task.running_eq {t : Task} :
    t.running = true ↔ t.phase.live = true ∧ t.aborted = false := by
  simp [Task.running]

/-- The entries of `pending` and the running tasks correspond. -/
def Mirrors (s : ServerConn) : Prop :=
  (∀ (i : Nat) (t : Task), s.tasks[i]? = some t → t.running = true →
    ∃! id, s.pending.lookup id = some i) ∧
    ∀ (id i : Nat), s.pending.lookup id = some i →
      ∃ t, s.tasks[i]? = some t ∧ t.requestId = id ∧ t.running = true

/-- `Mirrors` at every point of the loop: the task it has just spawned has its
    entry in the loop's hands. -/
structure Mirroring (s : ServerConn) : Prop where
  entry : ∀ (id i : Nat), s.pending.lookup id = some i →
    ∃ t, s.tasks[i]? = some t ∧ t.requestId = id ∧ t.running = true
  task : ∀ (i : Nat) (t : Task), s.tasks[i]? = some t → t.running = true →
    s.pending.lookup t.requestId = some i ∨ s.loop = .inserting i t.requestId
  inserting : ∀ (i id : Nat), s.loop = .inserting i id →
    ∃ t, s.tasks[i]? = some t ∧ t.requestId = id ∧ t.aborted = false

theorem mirroring_start (cfg : ServerCfg) : Mirroring (.start cfg) where
  entry := by intro id i h; exact nomatch h
  task := by intro i t h; exact nomatch h
  inserting := by intro i id h; exact nomatch h

theorem Mirroring.mirrors {s : ServerConn} (h : Mirroring s) (hw : s.loop = .waiting) :
    Mirrors s := by
  refine ⟨?_, h.entry⟩
  intro i t ht hrun
  rcases h.task i t ht hrun with hlook | hins
  · refine ⟨t.requestId, hlook, ?_⟩
    intro id hid
    obtain ⟨u, hu, huid, -⟩ := h.entry id i hid
    rw [ht] at hu
    cases hu
    exact huid.symm
  · rw [hw] at hins
    exact nomatch hins

/-- What has to hold before a step for the mirror to survive it. -/
def MirrorSafe (s : ServerConn) : ServerEvent → Prop
  | .loop .insertPending =>
      match s.loop with
      | .inserting i id =>
          (s.tasks[i]?).any (·.phase.live) = true ∧ s.pending.lookup id = none
      | _ => True
  | .task i .remove => ∀ t ∈ s.tasks[i]?, s.pending.lookup t.requestId = none ∨
      s.pending.lookup t.requestId = some i
  | .task i .handlerPanic => ∀ t ∈ s.tasks[i]?, s.pending.lookup t.requestId ≠ some i
  | _ => True

/-! ## How the mirror survives -/

/-- Task `i` moves on without ending. -/
theorem Mirroring.move {s s' : ServerConn} (h : Mirroring s) {i : Nat} {t : Task}
    {f : Task → Task} (ht : s.tasks[i]? = some t) (htasks : s'.tasks = s.tasks.modify i f)
    (hpend : s'.pending = s.pending) (hloop : s'.loop = s.loop)
    (hid : (f t).requestId = t.requestId) (hab : (f t).aborted = t.aborted)
    (hlive : (f t).phase.live = t.phase.live) : Mirroring s' := by
  have hrun : (f t).running = t.running := by
    rw [Task.running, Task.running, hab, hlive]
  -- every task keeps what the mirror reads of it
  have hback : ∀ {j : Nat} {u : Task}, s'.tasks[j]? = some u → ∃ v, s.tasks[j]? = some v ∧
      u.requestId = v.requestId ∧ u.running = v.running ∧ u.aborted = v.aborted := by
    intro j u hu
    rw [htasks] at hu
    obtain ⟨v, hv, ⟨rfl, rfl⟩ | ⟨-, rfl⟩⟩ := getElem?_modify_inv hu
    · rw [ht] at hv
      cases hv
      exact ⟨t, ht, hid, hrun, hab⟩
    · exact ⟨u, hv, rfl, rfl, rfl⟩
  have hforth : ∀ {j : Nat} {v : Task}, s.tasks[j]? = some v → ∃ u, s'.tasks[j]? = some u ∧
      u.requestId = v.requestId ∧ u.running = v.running ∧ u.aborted = v.aborted := by
    intro j v hv
    rw [htasks]
    by_cases hij : i = j
    · subst hij
      rw [ht] at hv
      cases hv
      exact ⟨f t, getElem?_modify_self ht, hid, hrun, hab⟩
    · exact ⟨v, (getElem?_modify_ne hij).trans hv, rfl, rfl, rfl⟩
  constructor
  · intro id j hlook
    rw [hpend] at hlook
    obtain ⟨v, hv, hvid, hvrun⟩ := h.entry id j hlook
    obtain ⟨u, hu, huid, hurun, -⟩ := hforth hv
    exact ⟨u, hu, huid.trans hvid, hurun.trans hvrun⟩
  · intro j u hu hurun
    obtain ⟨v, hv, huid, hrunv, -⟩ := hback hu
    rw [hpend, hloop, huid]
    exact h.task j v hv (hrunv ▸ hurun)
  · intro j id hins
    rw [hloop] at hins
    obtain ⟨v, hv, hvid, hvab⟩ := h.inserting j id hins
    obtain ⟨u, hu, huid, -, huab⟩ := hforth hv
    exact ⟨u, hu, huid.trans hvid, huab.trans hvab⟩

/-- Task `i` stops running and the entry it may have goes with it. -/
theorem Mirroring.stop {s s' : ServerConn} (h : Mirroring s) {i : Nat} {t : Task}
    {f : Task → Task} (ht : s.tasks[i]? = some t) (htasks : s'.tasks = s.tasks.modify i f)
    (hpend : ∀ (id j : Nat), s'.pending.lookup id = some j ↔
      s.pending.lookup id = some j ∧ j ≠ i)
    (hrun : (f t).running = false)
    (hloop : ∀ (j id : Nat), s.loop = .inserting j id → s'.loop = .inserting j id)
    (hins : ∀ (j id : Nat), s'.loop = .inserting j id → s.loop = .inserting j id ∧
      (f t).requestId = t.requestId ∧ (f t).aborted = t.aborted) : Mirroring s' := by
  constructor
  · intro id j hlook
    obtain ⟨hlook, hji⟩ := (hpend id j).mp hlook
    obtain ⟨v, hv, hvid, hvrun⟩ := h.entry id j hlook
    exact ⟨v, by rw [htasks]; exact (getElem?_modify_ne (Ne.symm hji)).trans hv, hvid, hvrun⟩
  · intro j u hu hurun
    rw [htasks] at hu
    obtain ⟨v, hv, ⟨rfl, rfl⟩ | ⟨hij, rfl⟩⟩ := getElem?_modify_inv hu
    · rw [ht] at hv
      cases hv
      rw [hrun] at hurun
      exact nomatch hurun
    · rcases h.task j u hv hurun with hlook | hl
      · exact .inl ((hpend _ j).mpr ⟨hlook, Ne.symm hij⟩)
      · exact .inr (hloop j _ hl)
  · intro j id hl
    obtain ⟨hl, hfid, hfab⟩ := hins j id hl
    obtain ⟨v, hv, hvid, hvab⟩ := h.inserting j id hl
    rw [htasks]
    by_cases hij : i = j
    · subst hij
      rw [ht] at hv
      cases hv
      exact ⟨f t, getElem?_modify_self ht, hfid.trans hvid, hfab.trans hvab⟩
    · exact ⟨v, (getElem?_modify_ne hij).trans hv, hvid, hvab⟩

/-- The loop moves between two points at which it holds no new task. -/
theorem Mirroring.loop {s s' : ServerConn} (h : Mirroring s) (htasks : s'.tasks = s.tasks)
    (hpend : s'.pending = s.pending) (hs : ∀ j id, s.loop ≠ .inserting j id)
    (hs' : ∀ j id, s'.loop ≠ .inserting j id) : Mirroring s' where
  entry := by rw [htasks, hpend]; exact h.entry
  task := by
    intro i t ht hrun
    rw [htasks] at ht
    rw [hpend]
    exact .inl ((h.task i t ht hrun).resolve_right (hs i _))
  inserting := fun i id hl => absurd hl (hs' i id)

/-- Erasing the entry of a task erases that task's entry alone. -/
theorem Mirroring.erase_own {s : ServerConn} (h : Mirroring s) {i : Nat} {t : Task}
    (ht : s.tasks[i]? = some t) (hown : s.pending.lookup t.requestId = none ∨
      s.pending.lookup t.requestId = some i) (id j : Nat) :
    (s.pending.erase t.requestId).lookup id = some j ↔ s.pending.lookup id = some j ∧ j ≠ i := by
  by_cases hid : id = t.requestId
  · subst hid
    rw [Finmap.lookup_erase]
    refine ⟨nofun, ?_⟩
    rintro ⟨hlook, hji⟩
    rcases hown with hown | hown <;> rw [hown] at hlook
    · exact nomatch hlook
    · exact absurd (Option.some.inj hlook).symm hji
  · rw [Finmap.lookup_erase_ne hid]
    refine ⟨fun hlook => ⟨hlook, ?_⟩, And.left⟩
    rintro rfl
    obtain ⟨u, hu, huid, -⟩ := h.entry id j hlook
    rw [ht] at hu
    cases hu
    exact hid huid.symm

/-- The phase of task `i` changes and nothing else the mirror reads. -/
theorem Mirroring.setPhase {s s' : ServerConn} (h : Mirroring s) {i : Nat} {t : Task}
    {p : TaskPhase} (ht : s.tasks[i]? = some t) (hp : p.live = t.phase.live)
    (htasks : s'.tasks = (s.setPhase i p).tasks) (hpend : s'.pending = s.pending)
    (hloop : s'.loop = s.loop) : Mirroring s' :=
  h.move ht htasks hpend hloop rfl rfl hp

/-- Task `i` ends without touching `pending`, where it has no entry. -/
theorem Mirroring.release {s : ServerConn} (h : Mirroring s) {i : Nat} {t : Task} {p : TaskPhase}
    (ht : s.tasks[i]? = some t) (hp : p.live = false)
    (hnone : ∀ id, s.pending.lookup id ≠ some i) : Mirroring (s.release i p) := by
  refine h.stop (f := fun t => { t with phase := p }) ht rfl ?_ ?_ (fun _ _ hl => hl)
    (fun _ _ hl => ⟨hl, rfl, rfl⟩)
  · intro id j
    refine ⟨fun hlook => ⟨hlook, ?_⟩, And.left⟩
    rintro rfl
    exact hnone id hlook
  · simp [Task.running, hp]

theorem Mirroring.taskMove {cfg : ServerCfg} {s s' : ServerConn} {i : Nat} {t : Task}
    {te : TaskEvent} (h : Mirroring s) (hok : MirrorSafe s (.task i te))
    (ht : s.tasks[i]? = some t) (m : TaskMove cfg s i t te s') : Mirroring s' := by
  cases m with
  | pollLock hp | pollInvoke hp => exact h.setPhase ht (by rw [hp]; rfl) rfl rfl rfl
  | acquire hp | handlerReturn _ hp | abortSeen hp | encodeFail _ _ hp | encode _ _ hp
  | lockWriter _ _ hp | flush _ _ hp | writeFail _ _ _ hp =>
      exact h.setPhase ht (by rw [hp]; rfl) rfl rfl rfl
  | write response frame written n hp =>
      exact h.setPhase (p := .writing response frame (written + n)) ht (by rw [hp]; rfl) rfl rfl rfl
  | handlerPanic hp =>
      refine h.release ht rfl ?_
      intro id hlook
      obtain ⟨u, hu, huid, -⟩ := h.entry id i hlook
      rw [ht] at hu
      cases hu
      exact hok t ht (huid ▸ hlook)
  | drop hab =>
      refine h.release ht rfl ?_
      intro id hlook
      obtain ⟨u, hu, -, hrun⟩ := h.entry id i hlook
      rw [ht] at hu
      cases hu
      rw [Task.running_eq, hab] at hrun
      exact nomatch hrun.2
  | remove hp =>
      have hown := hok t ht
      -- the entry that goes is the task's own, so no other task hears of it
      have htasks : (s.removePending i t.requestId).tasks = s.tasks := by
        simp only [ServerConn.removePending]
        rcases hown with hnone | hsome
        · rw [hnone]
        · rw [hsome]
          simp
      have hl : (s.removePending i t.requestId).loop = s.loop := loop_removePending _ _ _
      refine h.stop (f := fun t => { t with phase := .finished }) ht ?_ ?_ rfl ?_ ?_
      · show (s.removePending i t.requestId).tasks.modify i _ = _
        rw [htasks]
      · intro id j
        show (s.removePending i t.requestId).pending.lookup id = some j ↔ _
        rw [pending_removePending]
        exact h.erase_own ht hown id j
      · intro j id hj
        exact hl.trans hj
      · intro j id hj
        exact ⟨hl.symm.trans hj, rfl, rfl⟩

theorem Mirroring.loopMove {cfg : ServerCfg} {s s' : ServerConn} {le : LoopEvent}
    (h : Mirroring s) (hok : MirrorSafe s (.loop le)) (m : LoopMove cfg s le s') :
    Mirroring s' := by
  -- a move between points at which the loop holds no new task
  have hmove : ∀ {s' : ServerConn}, s'.tasks = s.tasks → s'.pending = s.pending →
      (∀ j id, s.loop ≠ .inserting j id) → (∀ j id, s'.loop ≠ .inserting j id) →
      Mirroring s' := fun h₁ h₂ h₃ h₄ => h.loop h₁ h₂ h₃ h₄
  cases m with
  | beginDrain => exact ⟨h.entry, h.task, h.inserting⟩
  | stopReading hl | headerFailed _ hl | toDiscarding _ _ _ hl | toReading _ _ hl
  | toCancelling _ _ _ hl | notRequest _ _ _ hl | discardFailed _ _ _ _ hl | readFailed _ _ _ hl
  | cancelMiss _ hl | rejectLock _ _ _ hl | rejectWrite _ _ _ _ _ hl | rejectFlush _ _ _ hl
  | rejectFail _ _ _ _ _ hl =>
      exact hmove rfl rfl (by simp [hl]) (by simp)
  | abandon _ _ _ _ hl | reject _ _ _ _ _ _ hl =>
      refine hmove rfl rfl ?_ (by simp)
      rcases hl with ⟨_, hl⟩ | ⟨_, _, hl⟩ <;> simp [hl]
  | spawn declared header bytes method body hl =>
      constructor
      · intro id i hlook
        obtain ⟨t, ht, hentry⟩ := h.entry id i hlook
        exact ⟨t, getElem?_concat_of_some ht, hentry⟩
      · intro i t ht hrun
        rcases getElem?_concat_inv ht with ht | ⟨rfl, rfl⟩
        · refine .inl ((h.task i t ht hrun).resolve_right ?_)
          simp [hl]
        · exact .inr rfl
      · intro i id hins
        cases hins
        exact ⟨_, getElem?_concat_self, rfl, rfl⟩
  | cancelHit id j hl hlook =>
      obtain ⟨t, ht, rfl, hrun⟩ := h.entry id j hlook
      refine h.stop ht rfl (h.erase_own ht (.inr hlook)) ?_ ?_ (by simp)
      · simp [Task.running, Task.abort]
      · intro k id hk
        rw [hl] at hk
        cases hk
  | insert i id hl =>
      simp only [MirrorSafe, hl] at hok
      obtain ⟨hlive, hfree⟩ := hok
      obtain ⟨t, ht, rfl, hab⟩ := h.inserting i id hl
      have hrun : t.running = true := by
        rw [ht] at hlive
        exact Task.running_eq.mpr ⟨hlive, hab⟩
      have htasks : (s.removePending i t.requestId).tasks = s.tasks := by
        simp only [ServerConn.removePending, hfree]
      constructor
      · intro id j hlook
        show ∃ u, (s.removePending i t.requestId).tasks[j]? = some u ∧ _
        rw [htasks]
        by_cases hid : id = t.requestId
        · subst hid
          rw [Finmap.lookup_insert] at hlook
          cases hlook
          exact ⟨t, ht, rfl, hrun⟩
        · rw [Finmap.lookup_insert_of_ne _ hid] at hlook
          exact h.entry id j hlook
      · intro j u hu hurun
        refine .inl ?_
        change (s.removePending i t.requestId).tasks[j]? = some u at hu
        rw [htasks] at hu
        show (s.pending.insert t.requestId i).lookup u.requestId = some j
        rcases h.task j u hu hurun with hlook | hins
        · -- the new entry stands under an id that was free
          have hid : u.requestId ≠ t.requestId := by
            intro heq
            rw [heq, hfree] at hlook
            cases hlook
          rw [Finmap.lookup_insert_of_ne _ hid]
          exact hlook
        · rw [hl] at hins
          obtain ⟨rfl, -⟩ := LoopPhase.inserting.inj hins
          rw [ht] at hu
          cases hu
          exact Finmap.lookup_insert _
      · intro j id hj
        cases hj
  | drainSweep hl =>
      constructor
      · intro id i hlook
        cases hlook
      · intro i u hu hrun
        rw [List.getElem?_mapIdx] at hu
        obtain ⟨t, ht, rfl⟩ := Option.map_eq_some_iff.mp hu
        split at hrun
        · simp [Task.running, Task.abort] at hrun
        · rename_i hlook
          -- a running task has its entry, so the sweep has aborted it
          rcases h.task i t ht hrun with h₁ | h₁
          · exact absurd h₁ hlook
          · rw [hl] at h₁
            cases h₁
      · intro i id hi
        cases hi

theorem Mirroring.preserved {cfg : ServerCfg} {s s' : ServerConn} {e : ServerEvent}
    (h : Mirroring s) (hok : MirrorSafe s e) (hs : step cfg s e = some s') : Mirroring s' := by
  rcases step_move hs with ⟨le, rfl, m⟩ | ⟨i, t, te, rfl, ht, m⟩
  · exact h.loopMove hok m
  · exact h.taskMove hok ht m

/-- **`pending` MIRRORS THE TASKS**: in every run whose steps are `MirrorSafe`,
    whenever the loop waits for a frame, every running task has exactly one
    entry and every entry is that of a running task. -/
theorem pending_mirrors_tasks {cfg : ServerCfg} {s : ServerConn}
    (h : Reaches (step cfg) MirrorSafe (.start cfg) s) (hw : s.loop = .waiting) : Mirrors s := by
  have hinv : Mirroring s := by
    refine h.invariant (P := Mirroring) (mirroring_start cfg) ?_
    intro s e s' hinv hok hs
    exact hinv.preserved hok hs
  exact hinv.mirrors hw

instance (s : ServerConn) : (e : ServerEvent) → Decidable (MirrorSafe s e)
  | .loop le =>
      match le with
      | .insertPending =>
          match h : s.loop with
          | .inserting i id =>
              decidable_of_iff ((s.tasks[i]?).any (·.phase.live) = true ∧
                s.pending.lookup id = none) (by simp only [MirrorSafe, h])
          | .waiting | .discarding _ _ _ | .reading _ _ | .cancelling _ | .rejecting _ _ _
          | .rejectWriting _ _ _ _ | .draining | .done _ =>
              isTrue (by simp only [MirrorSafe, h])
      | .beginDrain | .stopReading | .headerFailed _ | .header _ _ | .payload _
      | .payloadFailed _ | .cancelPending | .rejectLock | .rejectWrite _ | .rejectFlush
      | .rejectFail _ | .drainSweep => inferInstanceAs (Decidable True)
  | .task i te =>
      match te with
      | .remove => inferInstanceAs (Decidable (∀ t ∈ s.tasks[i]?,
          s.pending.lookup t.requestId = none ∨ s.pending.lookup t.requestId = some i))
      | .handlerPanic => inferInstanceAs (Decidable (∀ t ∈ s.tasks[i]?,
          s.pending.lookup t.requestId ≠ some i))
      | .poll | .acquire | .handlerReturn _ | .abortSeen | .encode | .lockWriter | .write _
      | .flush | .writeFail | .drop => inferInstanceAs (Decidable True)

/-- Task `i` is polled, its handler returns and its answer of `n` bytes is written. -/
def sampleAnswer (i n : Nat) : List ServerEvent :=
  [.task i .poll, .task i (.handlerReturn .emptyOk), .task i .encode, .task i .lockWriter,
    .task i (.write n), .task i .flush, .task i .remove]

/-- Two requests, the first of which is answered and gone. -/
def mirroredState : ServerConn :=
  (run (step sampleCfg) MirrorSafe (.start sampleCfg)
    (sampleRequest .healthCheck 1 ++ sampleRequest .coreStatus 2 ++ sampleAnswer 0 41)).getD
      (.start sampleCfg)

theorem pending_mirrors_tasks_sample :
    Reaches (step sampleCfg) MirrorSafe (.start sampleCfg) mirroredState ∧
      Mirrors mirroredState ∧ mirroredState.pending.keys = {2} := by
  have hrun : Reaches (step sampleCfg) MirrorSafe (.start sampleCfg) mirroredState :=
    reaches_getD (by decide)
  exact ⟨hrun, pending_mirrors_tasks hrun rfl, by decide⟩

/-- The task is answered and gone before the loop has its entry in. -/
def staleState : ServerConn :=
  (run (step sampleCfg) Free (.start sampleCfg)
    ((sampleRequest .healthCheck 1).take 2 ++ sampleAnswer 0 41 ++
      [.loop .insertPending])).getD (.start sampleCfg)

/-- A task that ends before its entry goes in leaves an entry nobody removes. -/
theorem ended_task_gets_entry :
    ∃ s, Reaches (step sampleCfg) Free (.start sampleCfg) s ∧ s.loop = .waiting ∧ ¬ Mirrors s := by
  refine ⟨staleState, reaches_getD (by decide), rfl, ?_⟩
  intro h
  obtain ⟨t, ht, -, hrun⟩ := h.2 1 0 (by decide)
  have hended : (staleState.tasks[0]?).map Task.running = some false := by decide
  rw [ht, Option.map_some, hrun] at hended
  exact nomatch hended

end ServiceServer
