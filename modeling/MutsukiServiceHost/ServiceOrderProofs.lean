import MutsukiServiceHost.ServiceServerLogProofs

/-! # The order of mutating requests

    `dispatch_request` takes `mutate_lock` before it calls the handler of a
    mutating request, and the lock is fair: it is granted in the order of the
    lock calls (`mutateQueue`).  The calls are made by the spawned tasks, so
    the order of the calls is the order of the first polls.  When every
    mutating task makes its call after the mutating tasks spawned before it,
    the handlers run one after another in the order of arrival; the scheduler
    does not promise that. -/

namespace ServiceServer

open ServiceControl ServiceFrame ListUpdate Transition

/-! ## Who hears an abort signal -/

/-- Where the signal of task `j` comes from: kept, sent by an abort, closed by
    another task's removal or by a second entry under the same id. -/
inductive SignalOrigin (s : ServerConn) (e : ServerEvent) (j : Nat) (u : Task) : Prop where
  | kept (t : Task) : s.tasks[j]? = some t → u.signal = t.signal → u.aborted = t.aborted →
      SignalOrigin s e j u
  | sent : u.signal = .sent → u.aborted = true → SignalOrigin s e j u
  | removed (k : Nat) (t v : Task) : s.tasks[k]? = some v → v.phase = .removing → k ≠ j →
      s.tasks[j]? = some t → s.pending.lookup v.requestId = some j →
      t.phase.dispatching = true → u.aborted = t.aborted → SignalOrigin s e j u
  | displaced (k requestId : Nat) (t : Task) : s.loop = .inserting k requestId → k ≠ j →
      s.tasks[j]? = some t → s.pending.lookup requestId = some j →
      t.phase.dispatching = true → u.aborted = t.aborted → SignalOrigin s e j u
  | fresh : j = s.tasks.length → u.signal = .quiet → SignalOrigin s e j u

/-- Removing an entry keeps every signal but that of the task it points to. -/
theorem removePending_signal {s : ServerConn} {self requestId j : Nat} {u : Task}
    (hu : (s.removePending self requestId).tasks[j]? = some u) :
    ∃ t, s.tasks[j]? = some t ∧ u.aborted = t.aborted ∧ (u.signal = t.signal ∨
      (self ≠ j ∧ s.pending.lookup requestId = some j ∧ t.phase.dispatching = true)) := by
  simp only [ServerConn.removePending] at hu
  split at hu
  · exact ⟨u, hu, rfl, .inl rfl⟩
  · rename_i k hk
    by_cases hself : k = self
    · rw [if_pos hself] at hu
      exact ⟨u, hu, rfl, .inl rfl⟩
    · rw [if_neg hself] at hu
      obtain ⟨t, ht, ⟨rfl, rfl⟩ | ⟨-, rfl⟩⟩ := getElem?_modify_inv hu
      · refine ⟨t, ht, t.disconnect_same.2.2, ?_⟩
        simp only [Task.disconnect]
        split
        · rename_i hc
          exact .inr ⟨fun h => hself h.symm, hk, hc.1⟩
        · exact .inl rfl
      · exact ⟨_, ht, rfl, .inl rfl⟩

/-- Moving a task to another phase keeps the signals. -/
theorem setPhase_signal {s : ServerConn} {e : ServerEvent} {i j : Nat} {p : TaskPhase} {u : Task}
    (hu : (s.setPhase i p).tasks[j]? = some u) : SignalOrigin s e j u := by
  obtain ⟨t, ht, ⟨-, rfl⟩ | ⟨-, rfl⟩⟩ := getElem?_modify_inv hu
  · exact .kept t ht rfl rfl
  · exact .kept _ ht rfl rfl

theorem step_signal {cfg : ServerCfg} {s s' : ServerConn} {e : ServerEvent}
    (hs : step cfg s e = some s') {j : Nat} {u : Task} (hu : s'.tasks[j]? = some u) :
    SignalOrigin s e j u := by
  rcases step_move hs with ⟨le, rfl, m⟩ | ⟨i, t, te, rfl, ht, m⟩
  · cases m with
    | beginDrain | stopReading | headerFailed | toDiscarding | toReading | toCancelling
    | notRequest | abandon | reject | discardFailed | readFailed | cancelMiss | rejectLock
    | rejectWrite | rejectFlush | rejectFail => exact .kept u hu rfl rfl
    | spawn =>
        rcases getElem?_concat_inv hu with hu | ⟨hj, rfl⟩
        · exact .kept u hu rfl rfl
        · exact .fresh hj rfl
    | cancelHit requestId k =>
        obtain ⟨t, ht, ⟨-, rfl⟩ | ⟨-, rfl⟩⟩ := getElem?_modify_inv hu
        · exact .sent rfl rfl
        · exact .kept _ ht rfl rfl
    | insert k requestId hl =>
        obtain ⟨t, ht, hab, hsig | ⟨hne, hk, hd⟩⟩ := removePending_signal hu
        · exact .kept t ht hsig hab
        · exact .displaced k requestId t hl hne ht hk hd hab
    | drainSweep =>
        rw [List.getElem?_mapIdx] at hu
        obtain ⟨t, ht, rfl⟩ := Option.map_eq_some_iff.mp hu
        by_cases hp : s.pending.lookup t.requestId = some j
        · exact .sent (by rw [if_pos hp]; rfl) (by rw [if_pos hp]; rfl)
        · exact .kept t ht (by rw [if_neg hp]) (by rw [if_neg hp])
  · cases m with
    | pollLock | pollInvoke | acquire | handlerReturn | handlerPanic | abortSeen | encodeFail
    | encode | lockWriter | write | flush | writeFail | drop => exact setPhase_signal hu
    | remove hp =>
        obtain ⟨u₁, hu₁, hcase⟩ := getElem?_modify_inv hu
        have hu' : u.signal = u₁.signal ∧ u.aborted = u₁.aborted := by
          rcases hcase with ⟨-, rfl⟩ | ⟨-, rfl⟩ <;> exact ⟨rfl, rfl⟩
        obtain ⟨t₀, ht₀, hab, hsig | ⟨hne, hk, hd⟩⟩ := removePending_signal hu₁
        · exact .kept t₀ ht₀ (hu'.1.trans hsig) (hu'.2.trans hab)
        · exact .removed i t₀ t ht hp hne ht₀ hk hd (hu'.2.trans hab)

/-! ## Ids in use -/

/-- The id of the request whose payload the loop is reading. -/
def LoopPhase.readingId : LoopPhase → Option Nat
  | .reading _ header => some header.requestId
  | _ => none

/-- No REQUEST frame reuses the id of a task that is still alive. -/
def FreshId (s : ServerConn) : ServerEvent → Prop
  | .loop (.payload _) =>
      ∀ requestId ∈ s.loop.readingId, ∀ t ∈ s.tasks, t.phase.live = true → t.requestId ≠ requestId
  | _ => True

/-- What fresh ids give: an entry of `pending` points to a task with that id,
    an id is not given to a second task while the first is alive, and so a task
    that is dispatching never sees its channel closed. -/
structure IdsInUse (s : ServerConn) : Prop where
  distinct : ∀ (i j : Nat) (t u : Task), i < j → s.tasks[i]? = some t → s.tasks[j]? = some u →
    t.phase.live = true → t.requestId ≠ u.requestId
  pending : ∀ requestId j : Nat, s.pending.lookup requestId = some j →
    ∃ t, s.tasks[j]? = some t ∧ t.requestId = requestId
  inserting : ∀ i requestId : Nat, s.loop = .inserting i requestId →
    i + 1 = s.tasks.length ∧ ∃ t, s.tasks[i]? = some t ∧ t.requestId = requestId
  signal : ∀ (i : Nat) (t : Task), s.tasks[i]? = some t → t.phase.dispatching = true →
    t.aborted = false → t.signal = .quiet

theorem idsInUse_start (cfg : ServerCfg) : IdsInUse (.start cfg) where
  distinct := by intro i j t u _ h; exact nomatch h
  pending := by intro requestId j h; exact nomatch h
  inserting := by intro i requestId h; exact nomatch h
  signal := by intro i t h; exact nomatch h

/-- A task that dispatches has not ended. -/
theorem TaskPhase.live_of_dispatching {p : TaskPhase} (h : p.dispatching = true) :
    p.live = true := by
  cases p <;> first | rfl | exact nomatch h

/-- A dead task stays dead, and a task that dispatches did so before. -/
theorem PhaseStep.live {cfg : ServerCfg} {t : Task} {te : TaskEvent} {p : TaskPhase}
    (h : PhaseStep cfg t te p) : t.phase.live = true ∧
      (p.dispatching = true → t.phase.dispatching = true) := by
  cases h with
  | drop _ hl => exact ⟨hl, nofun⟩
  | lock hp | invoke hp | acquire hp | handled _ hp | panicked hp | abortSeen hp
  | encodeFail _ _ hp | encode _ _ hp | lockWriter _ _ hp | write _ _ _ _ hp | flush _ _ hp
  | writeFail _ _ _ hp | remove hp =>
      rw [hp]
      exact ⟨rfl, by first | exact fun _ => rfl | exact nofun⟩

/-- Entries of `pending` are old, or the one the loop inserts. -/
theorem step_pending {cfg : ServerCfg} {s s' : ServerConn} {e : ServerEvent}
    (hs : step cfg s e = some s') {requestId j : Nat}
    (h : s'.pending.lookup requestId = some j) :
    s.pending.lookup requestId = some j ∨ s.loop = .inserting j requestId := by
  rcases step_move hs with ⟨le, rfl, m⟩ | ⟨i, t, te, rfl, ht, m⟩
  · cases m with
    | beginDrain | stopReading | headerFailed | toDiscarding | toReading | toCancelling
    | notRequest | abandon | reject | spawn | discardFailed | readFailed | cancelMiss | rejectLock
    | rejectWrite | rejectFlush | rejectFail => exact .inl h
    | cancelHit k => exact .inl (lookup_erase_inv h).1
    | insert i k hl =>
        by_cases hne : requestId = k
        · subst hne
          rw [Finmap.lookup_insert] at h
          cases h
          exact .inr hl
        · exact .inl (by rwa [Finmap.lookup_insert_of_ne _ hne] at h)
    | drainSweep => exact nomatch h
  · cases m with
    | pollLock | pollInvoke | acquire | handlerReturn | handlerPanic | abortSeen | encodeFail
    | encode | lockWriter | write | flush | writeFail | drop => exact .inl h
    | remove =>
        have h' : (s.removePending i t.requestId).pending.lookup requestId = some j := h
        rw [pending_removePending] at h'
        exact .inl (lookup_erase_inv h').1

/-- A task keeps its id, and there is a task for every task before the step. -/
theorem step_keeps_task {cfg : ServerCfg} {s s' : ServerConn} {e : ServerEvent}
    (hs : step cfg s e = some s') {j : Nat} {t : Task} (ht : s.tasks[j]? = some t) :
    ∃ u, s'.tasks[j]? = some u ∧ u.tag = t.tag := by
  have htag := tags_getElem? ht
  have hnew : s'.tags[j]? = some t.tag := by
    cases step_log hs with
    | spawn _ _ htags _ _ _ =>
        rw [htags]
        exact getElem?_concat_of_some htag
    | keep htags _ _ | abandon _ htags _ _ _ | reject _ htags _ _ _
    | settle _ _ _ _ _ _ _ htags => rwa [htags]
  rw [ServerConn.tags, List.getElem?_map] at hnew
  exact Option.map_eq_some_iff.mp hnew

/-- The task the loop is about to enter into `pending` is the last one. -/
theorem IdsInUse.step_inserting {cfg : ServerCfg} {s s' : ServerConn} {e : ServerEvent}
    (h : IdsInUse s) (hs : step cfg s e = some s') {i requestId : Nat}
    (hl' : s'.loop = .inserting i requestId) :
    i + 1 = s'.tasks.length ∧ ∃ t, s'.tasks[i]? = some t ∧ t.requestId = requestId := by
  have hkeep : s.loop = .inserting i requestId → s'.tasks.length = s.tasks.length →
      i + 1 = s'.tasks.length ∧ ∃ t, s'.tasks[i]? = some t ∧ t.requestId = requestId := by
    intro hl hlen
    obtain ⟨hi, t, ht, hid⟩ := h.inserting i requestId hl
    obtain ⟨u, hu, htag⟩ := step_keeps_task hs ht
    have huid : u.requestId = t.requestId := Task.requestId_of_tag htag
    exact ⟨hi.trans hlen.symm, u, hu, huid.trans hid⟩
  rcases step_move hs with ⟨le, rfl, m⟩ | ⟨k, t, te, rfl, ht, m⟩
  · cases m with
    | beginDrain => exact hkeep hl' rfl
    | spawn declared header bytes method body =>
        cases hl'
        refine ⟨by simp, _, getElem?_concat_self, rfl⟩
    | stopReading | headerFailed | toDiscarding | toReading | toCancelling | notRequest | abandon
    | reject | discardFailed | readFailed | cancelMiss | cancelHit | insert | rejectLock
    | rejectWrite | rejectFlush | rejectFail | drainSweep => exact nomatch hl'
  · refine hkeep ((taskMove_loop m).1 ▸ hl') ?_
    rw [← length_tags, ← length_tags]
    have hreq := (taskMove_loop m).2
    cases taskMove_log m with
    | keep htags _ _ | settle _ _ _ _ _ _ _ htags => rw [htags]
    | abandon _ _ hr _ _ | reject _ _ hr _ _ | spawn _ _ _ hr _ _ =>
        rw [hreq] at hr
        have := congrArg List.length hr
        simp [ServerConn.record] at this

theorem IdsInUse.step_distinct {cfg : ServerCfg} {s s' : ServerConn} {e : ServerEvent}
    (h : IdsInUse s) (hok : FreshId s e) (hs : step cfg s e = some s') {i j : Nat} {t u : Task}
    (hij : i < j) (ht : s'.tasks[i]? = some t) (hu : s'.tasks[j]? = some u)
    (hlive : t.phase.live = true) : t.requestId ≠ u.requestId := by
  -- an old task: alive before, same id
  have hold : ∀ k v, s'.tasks[k]? = some v → k < s.tasks.length →
      ∃ v₀, s.tasks[k]? = some v₀ ∧ v.requestId = v₀.requestId ∧
        (v.phase.live = true → v₀.phase.live = true) := by
    intro k v hv hk
    cases step_origin hs hv with
    | same v₀ _ hv₀ htag hp _ =>
        exact ⟨v₀, hv₀, Task.requestId_of_tag htag, fun hl => hp ▸ hl⟩
    | moved v₀ te _ hv₀ htag hp _ =>
        exact ⟨v₀, hv₀, Task.requestId_of_tag htag, fun _ => hp.live.1⟩
    | fresh hk' _ => omega
  rcases Nat.lt_or_ge j s.tasks.length with hj | hj
  · obtain ⟨t₀, ht₀, htid, htl⟩ := hold i t ht (by omega)
    obtain ⟨u₀, hu₀, huid, -⟩ := hold j u hu hj
    rw [htid, huid]
    exact h.distinct i j t₀ u₀ hij ht₀ hu₀ (htl hlive)
  · -- `j` was spawned by this step: the condition speaks about its header
    cases step_origin hs hu with
    | same v₀ _ hv₀ _ _ _ =>
        have := lt_length_of_getElem? hv₀
        omega
    | moved v₀ _ _ hv₀ _ _ _ =>
        have := lt_length_of_getElem? hv₀
        omega
    | fresh hj' _ hspawn =>
        obtain ⟨t₀, ht₀, htid, htl⟩ := hold i t ht (by omega)
        obtain ⟨declared, header, bytes, rfl, hl, huid, -⟩ := hspawn
        rw [FreshId, hl] at hok
        rw [htid, huid]
        exact hok header.requestId rfl t₀ (List.mem_of_getElem? ht₀) (htl hlive)

theorem IdsInUse.step_quiet {cfg : ServerCfg} {s s' : ServerConn} {e : ServerEvent}
    (h : IdsInUse s) (hs : step cfg s e = some s') {j : Nat} {u : Task}
    (hu : s'.tasks[j]? = some u) (hd : u.phase.dispatching = true) (hab : u.aborted = false) :
    u.signal = .quiet := by
  -- two tasks of one id, the earlier one alive, do not occur
  have hclash : ∀ k v t, k ≠ j → s.tasks[k]? = some v → s.tasks[j]? = some t →
      v.requestId = t.requestId → t.phase.dispatching = true →
      (v.phase.live = true ∨ j < k) → False := by
    intro k v t hne hv ht hid htd hcase
    rcases Nat.lt_or_gt_of_ne hne with hlt | hgt
    · rcases hcase with hlive | hlt'
      · exact h.distinct k j v t hlt hv ht hlive hid
      · omega
    · exact h.distinct j k t v hgt ht hv (TaskPhase.live_of_dispatching htd) hid.symm
  cases step_signal hs hu with
  | kept t ht hsig habt =>
      rw [hsig]
      refine h.signal j t ht ?_ (habt ▸ hab)
      cases step_origin hs hu with
      | same t' _ ht' _ hp _ =>
          rw [ht] at ht'
          cases ht'
          exact hp ▸ hd
      | moved t' te _ ht' _ hp _ =>
          rw [ht] at ht'
          cases ht'
          exact hp.live.2 hd
      | fresh hj =>
          have := lt_length_of_getElem? ht
          omega
  | sent _ habt =>
      rw [habt] at hab
      exact nomatch hab
  | removed k t v hv hvp hne ht hk htd =>
      obtain ⟨t', ht', hid⟩ := h.pending _ j hk
      rw [ht] at ht'
      cases ht'
      exact (hclash k v t hne hv ht hid.symm htd (.inl (by rw [hvp]; rfl))).elim
  | displaced k requestId t hl hne ht hk htd =>
      obtain ⟨t', ht', hid⟩ := h.pending _ j hk
      rw [ht] at ht'
      cases ht'
      obtain ⟨hlast, v, hv, hvid⟩ := h.inserting k requestId hl
      have hj := lt_length_of_getElem? ht
      exact (hclash k v t hne hv ht (hvid.trans hid.symm) htd (.inr (by omega))).elim
  | fresh _ hsig => exact hsig

theorem IdsInUse.preserved {cfg : ServerCfg} {s s' : ServerConn} {e : ServerEvent}
    (h : IdsInUse s) (hok : FreshId s e) (hs : step cfg s e = some s') : IdsInUse s' where
  distinct := by
    intro i j t u
    exact h.step_distinct hok hs
  pending := by
    intro requestId j hj
    have hkeep : ∀ t, s.tasks[j]? = some t → t.requestId = requestId →
        ∃ u, s'.tasks[j]? = some u ∧ u.requestId = requestId := by
      intro t ht hid
      obtain ⟨u, hu, htag⟩ := step_keeps_task hs ht
      have huid : u.requestId = t.requestId := Task.requestId_of_tag htag
      exact ⟨u, hu, huid.trans hid⟩
    rcases step_pending hs hj with hj | hl
    · obtain ⟨t, ht, hid⟩ := h.pending requestId j hj
      exact hkeep t ht hid
    · obtain ⟨-, t, ht, hid⟩ := h.inserting j requestId hl
      exact hkeep t ht hid
  inserting := by
    intro i requestId
    exact h.step_inserting hs
  signal := by
    intro j u
    exact h.step_quiet hs

/-! ## The queue on `mutate_lock` -/

/-- The request of the task takes `mutate_lock`. -/
def Task.mutating (t : Task) : Bool := t.request.method.isMutating

theorem Task.mutating_of_tag {t u : Task} (h : u.tag = t.tag) : u.mutating = t.mutating :=
  congrArg (fun a => a.2.2.method.isMutating) h

/-- The task has not run yet. -/
def TaskPhase.unpolled : TaskPhase → Bool
  | .spawned => true
  | _ => false

/-- The task waits for `mutate_lock` or holds it. -/
def Task.queued (t : Task) : Bool :=
  t.mutating && match t.phase with
    | .locking | .handling => true
    | _ => false

/-- The steps under which mutating requests stay in order: a mutating task
    makes its lock call after every mutating task spawned before it has made
    its own or has ended, a mutating handler does not panic, and ids are fresh. -/
def OrderSafe (s : ServerConn) (e : ServerEvent) : Prop :=
  FreshId s e ∧
    match e with
    | .task i .poll => ∀ t ∈ s.tasks[i]?, t.mutating = true →
        ∀ u ∈ s.tasks.take i, u.mutating = true → u.phase.unpolled = false
    | .task i .handlerPanic => ∀ t ∈ s.tasks[i]?, t.mutating = false
    | _ => True

/-- What a step does to the queue and to the handler histories. -/
inductive OrderMove (s : ServerConn) (e : ServerEvent) (s' : ServerConn) : Prop where
  | quiet : (∀ i te t, e = .task i te → s.tasks[i]? = some t → t.phase.dispatching = false) →
      s'.mutateQueue = s.mutateQueue → s'.invoked = s.invoked → s'.returned = s.returned →
      OrderMove s e s'
  | lock (i : Nat) (t : Task) : e = .task i .poll → s.tasks[i]? = some t → t.mutating = true →
      t.phase = .spawned → s'.mutateQueue = s.mutateQueue ++ [i] → s'.invoked = s.invoked →
      s'.returned = s.returned → OrderMove s e s'
  | invoke (i : Nat) (t : Task) : e = .task i .poll → s.tasks[i]? = some t → t.mutating = false →
      s'.mutateQueue = s.mutateQueue → s'.invoked = s.invoked ++ [t.req] →
      s'.returned = s.returned → OrderMove s e s'
  | acquire (i : Nat) (t : Task) : e = .task i .acquire → s.tasks[i]? = some t →
      t.phase = .locking → s.mutateQueue.head? = some i → s'.mutateQueue = s.mutateQueue →
      s'.invoked = s.invoked ++ [t.req] → s'.returned = s.returned → OrderMove s e s'
  | returned (i : Nat) (t : Task) (response : ControlResponse) :
      e = .task i (.handlerReturn response) → s.tasks[i]? = some t →
      s'.mutateQueue = s.mutateQueue.filter (· ≠ i) → s'.invoked = s.invoked →
      s'.returned = s.returned ++ [(t.req, response)] → OrderMove s e s'
  | gone (i : Nat) (t : Task) (te : TaskEvent) : e = .task i te → s.tasks[i]? = some t →
      (te = .handlerPanic ∨ (te = .abortSeen ∧ t.phase = .handling ∧ t.signal ≠ .quiet) ∨
        (te = .drop ∧ t.aborted = true)) →
      s'.mutateQueue = s.mutateQueue.filter (· ≠ i) → s'.invoked = s.invoked →
      s'.returned = s.returned → OrderMove s e s'

theorem mutateQueue_removePending (s : ServerConn) (self requestId : Nat) :
    (s.removePending self requestId).mutateQueue = s.mutateQueue ∧
      (s.removePending self requestId).invoked = s.invoked ∧
      (s.removePending self requestId).returned = s.returned := by
  refine ⟨?_, ?_, returned_removePending s self requestId⟩
  · exact removePending_keeps (g := ServerConn.mutateQueue) (fun _ _ _ => rfl) s self requestId
  · exact removePending_keeps (g := ServerConn.invoked) (fun _ _ _ => rfl) s self requestId

theorem step_order {cfg : ServerCfg} {s s' : ServerConn} {e : ServerEvent}
    (hs : step cfg s e = some s') : OrderMove s e s' := by
  rcases step_move hs with ⟨le, rfl, m⟩ | ⟨i, t, te, rfl, ht, m⟩
  · have hno : ∀ i te t, ServerEvent.loop le = .task i te → s.tasks[i]? = some t →
        t.phase.dispatching = false := by
      intro i te t h
      exact nomatch h
    cases m with
    | beginDrain | stopReading | headerFailed | toDiscarding | toReading | toCancelling
    | notRequest | abandon | reject | spawn | discardFailed | readFailed | cancelMiss | cancelHit
    | rejectLock | rejectWrite | rejectFlush | rejectFail | drainSweep =>
        exact .quiet hno rfl rfl rfl
    | insert k requestId =>
        obtain ⟨hq, hi, hr⟩ := mutateQueue_removePending s k requestId
        exact .quiet hno hq hi hr
  · -- a task outside `dispatch_request`
    have hq : ∀ p, t.phase = p → p.dispatching = false →
        ∀ k te' u, ServerEvent.task i te = .task k te' → s.tasks[k]? = some u →
          u.phase.dispatching = false := by
      rintro p hp hd k te' u ⟨⟩ hu
      rw [ht] at hu
      cases hu
      rw [hp]
      exact hd
    cases m with
    | pollLock hp hm => exact .lock i t rfl ht hm hp rfl rfl rfl
    | pollInvoke hp hm => exact .invoke i t rfl ht hm rfl rfl rfl
    | acquire hp hhead => exact .acquire i t rfl ht hp hhead rfl rfl rfl
    | handlerReturn response hp => exact .returned i t response rfl ht rfl rfl rfl
    | handlerPanic hp => exact .gone i t _ rfl ht (.inl rfl) rfl rfl rfl
    | abortSeen hp hsig => exact .gone i t _ rfl ht (.inr (.inl ⟨rfl, hp, hsig⟩)) rfl rfl rfl
    | drop ha hl => exact .gone i t _ rfl ht (.inr (.inr ⟨rfl, ha⟩)) rfl rfl rfl
    | encodeFail _ _ hp | encode _ _ hp | lockWriter _ _ hp | write _ _ _ _ hp | flush _ _ hp
    | writeFail _ _ _ hp => exact .quiet (hq _ hp rfl) rfl rfl rfl
    | remove hp =>
        obtain ⟨h₁, h₂, h₃⟩ := mutateQueue_removePending s i t.requestId
        exact .quiet (hq _ hp rfl) h₁ h₂ h₃

/-- A task that does not step keeps its place. -/
theorem OrderMove.mem_queue {s s' : ServerConn} {e : ServerEvent} (m : OrderMove s e s') {j : Nat}
    (hj : ∀ te, e ≠ .task j te) : j ∈ s'.mutateQueue ↔ j ∈ s.mutateQueue := by
  have hne : ∀ i te, e = .task i te → j ≠ i := by
    rintro i te he rfl
    exact hj te he
  cases m with
  | quiet _ hq | invoke _ _ _ _ _ hq | acquire _ _ _ _ _ _ hq => rw [hq]
  | lock i t he _ _ _ hq =>
      rw [hq, List.mem_append, List.mem_singleton]
      exact or_iff_left (hne i _ he)
  | returned i t response he _ hq =>
      rw [hq, List.mem_filter]
      exact and_iff_left (by simpa using hne i _ he)
  | gone i t te he _ _ hq =>
      rw [hq, List.mem_filter]
      exact and_iff_left (by simpa using hne i _ he)

/-- Results are never forgotten. -/
theorem OrderMove.returned_mono {s s' : ServerConn} {e : ServerEvent} (m : OrderMove s e s')
    {p : Nat × ControlResponse} (h : p ∈ s.returned) : p ∈ s'.returned := by
  cases m with
  | quiet _ _ _ hr | lock _ _ _ _ _ _ _ _ hr | invoke _ _ _ _ _ _ _ hr
  | acquire _ _ _ _ _ _ _ _ hr | gone _ _ _ _ _ _ _ _ hr => exact hr ▸ h
  | returned _ _ _ _ _ _ _ hr => exact hr ▸ List.mem_append_left _ h

/-! ## First come, first served -/

/-- The handler of a mutating request is called only when the handlers of the
    mutating requests read before it have returned, cancelled ones aside. -/
def MutationsOrdered (s : ServerConn) : Prop :=
  ∀ (i j : Nat) (t u : Task), s.tasks[i]? = some t → s.tasks[j]? = some u → t.req < u.req →
    t.mutating = true → u.mutating = true → t.aborted = false → u.aborted = false →
    u.req ∈ s.invoked → ∃ response, (t.req, response) ∈ s.returned

/-- Tasks stand in the order of their requests, and so do the lock calls. -/
structure InOrder (s : ServerConn) : Prop where
  reqs : ∀ (i j : Nat) (t u : Task), i < j → s.tasks[i]? = some t → s.tasks[j]? = some u →
    t.req < u.req
  called : ∀ r ∈ s.invoked, r < s.requests.length
  sorted : s.mutateQueue.Pairwise (· < ·)
  queued : ∀ (i : Nat) (t : Task), s.tasks[i]? = some t → (i ∈ s.mutateQueue ↔ t.queued = true)
  bound : ∀ i ∈ s.mutateQueue, i < s.tasks.length
  waiting : ∀ (i j : Nat) (t u : Task), i < j → s.tasks[i]? = some t → s.tasks[j]? = some u →
    t.mutating = true → u.mutating = true → t.phase.unpolled = true →
    u.queued = false ∧ u.req ∉ s.invoked
  settled : ∀ (i : Nat) (t : Task), s.tasks[i]? = some t → t.mutating = true → t.aborted = false →
    t.phase.dispatching = false → ∃ response, (t.req, response) ∈ s.returned
  result : ∀ (i j : Nat) (t u : Task), i < j → s.tasks[i]? = some t → s.tasks[j]? = some u →
    t.mutating = true → u.mutating = true → t.aborted = false → u.req ∈ s.invoked →
    ∃ response, (t.req, response) ∈ s.returned

theorem inOrder_start (cfg : ServerCfg) : InOrder (.start cfg) where
  reqs := by intro i j t u _ h; exact nomatch h
  called := by intro r h; exact nomatch h
  sorted := .nil
  queued := by intro i t h; exact nomatch h
  bound := by intro i h; exact nomatch h
  waiting := by intro i j t u _ h; exact nomatch h
  settled := by intro i t h; exact nomatch h
  result := by intro i j t u _ h; exact nomatch h

/-- A task outside `dispatch_request` has no place in the queue. -/
theorem Task.queued_false {t : Task} (h : t.phase.dispatching = false) : t.queued = false := by
  simp only [Task.queued]
  cases hp : t.phase with
  | spawned | locking | handling =>
      rw [hp] at h
      exact nomatch h
  | responding | encoded | writing | removing | finished | panicked | dropped =>
      exact Bool.and_false _

/-- A task kept by a step keeps what the order depends on. -/
theorem Task.queued_congr {t u : Task} (htag : u.tag = t.tag) (hp : u.phase = t.phase) :
    u.queued = t.queued ∧ u.mutating = t.mutating ∧ u.req = t.req := by
  have hrq : u.request = t.request := Task.request_of_tag htag
  have hr : u.req = t.req := Task.req_of_tag htag
  simp only [Task.queued, Task.mutating]
  rw [hrq, hp]
  exact ⟨rfl, rfl, hr⟩

/-- Where a task of the state after a step stood before it: old with the same
    tag, or the last one, spawned for the request just read. -/
theorem task_before {cfg : ServerCfg} {s s' : ServerConn} {e : ServerEvent}
    (hs : step cfg s e = some s') {j : Nat} {u : Task} (hu : s'.tasks[j]? = some u) :
    (∃ t, s.tasks[j]? = some t ∧ u.tag = t.tag ∧ (t.aborted = true → u.aborted = true)) ∨
      (j = s.tasks.length ∧ u.req = s.requests.length ∧ u.phase = .spawned ∧ u.aborted = false ∧
        ∀ i te, e ≠ .task i te) := by
  cases step_origin hs hu with
  | same t _ ht htag _ hab => exact .inl ⟨t, ht, htag, hab⟩
  | moved t te _ ht htag _ hab => exact .inl ⟨t, ht, htag, fun h => hab.trans h⟩
  | fresh hj hp hspawn =>
      obtain ⟨declared, header, bytes, rfl, -, -, hreq, hab⟩ := hspawn
      exact .inr ⟨hj, hreq, hp, hab, fun i te => nofun⟩

/-- A task's request has been read. -/
theorem Tagged.req_lt {s : ServerConn} (h : Tagged s) {i : Nat} {t : Task}
    (ht : s.tasks[i]? = some t) : t.req < s.requests.length := by
  obtain ⟨q, hq, -⟩ := h.task_logged i _ (tags_getElem? ht)
  exact lt_length_of_getElem? hq

theorem InOrder.req_inj {s : ServerConn} (h : InOrder s) {i j : Nat} {t u : Task}
    (ht : s.tasks[i]? = some t) (hu : s.tasks[j]? = some u) (hreq : t.req = u.req) : i = j := by
  rcases Nat.lt_trichotomy i j with hlt | heq | hgt
  · have := h.reqs i j t u hlt ht hu
    omega
  · exact heq
  · have := h.reqs j i u t hgt hu ht
    omega

theorem InOrder.step_reqs {cfg : ServerCfg} {s s' : ServerConn} {e : ServerEvent}
    (htag : Tagged s) (h : InOrder s) (hs : step cfg s e = some s') {i j : Nat} {t u : Task}
    (hij : i < j) (ht : s'.tasks[i]? = some t) (hu : s'.tasks[j]? = some u) : t.req < u.req := by
  rcases task_before hs ht with ⟨t₀, ht₀, htt, -⟩ | ⟨hi, -⟩
  · have hreq : t.req = t₀.req := Task.req_of_tag htt
    rw [hreq]
    rcases task_before hs hu with ⟨u₀, hu₀, hut, -⟩ | ⟨-, hreq', -⟩
    · rw [Task.req_of_tag hut]
      exact h.reqs i j t₀ u₀ hij ht₀ hu₀
    · rw [hreq']
      exact htag.req_lt ht₀
  · rcases task_before hs hu with ⟨u₀, hu₀, -⟩ | ⟨hj, -⟩
    · have := lt_length_of_getElem? hu₀
      omega
    · omega

theorem InOrder.step_sorted {cfg : ServerCfg} {s s' : ServerConn} {e : ServerEvent}
    (h : InOrder s) (hs : step cfg s e = some s') : s'.mutateQueue.Pairwise (· < ·) := by
  cases step_order hs with
  | quiet _ hq | invoke _ _ _ _ _ hq | acquire _ _ _ _ _ _ hq =>
      rw [hq]
      exact h.sorted
  | returned _ _ _ _ _ hq | gone _ _ _ _ _ _ hq =>
      rw [hq]
      exact h.sorted.filter _
  | lock i t _ ht hm hp hq =>
      rw [hq, List.pairwise_append]
      refine ⟨h.sorted, List.pairwise_singleton _ _, ?_⟩
      intro k hk i' hi'
      rw [List.mem_singleton.mp hi']
      -- a queued task spawned later would have overtaken `i`
      obtain ⟨v, hv⟩ : ∃ v, s.tasks[k]? = some v := ⟨_, List.getElem?_eq_getElem (h.bound k hk)⟩
      have hvq := (h.queued k v hv).mp hk
      have hvm : v.mutating = true := (Bool.and_eq_true_iff.mp hvq).1
      rcases Nat.lt_trichotomy k i with hlt | rfl | hgt
      · exact hlt
      · rw [ht] at hv
        cases hv
        rw [Task.queued, hp, Bool.and_false] at hvq
        exact nomatch hvq
      · have := (h.waiting i k t v hgt ht hv hm hvm (by rw [hp]; rfl)).1
        rw [hvq] at this
        exact nomatch this

theorem InOrder.step_bound {cfg : ServerCfg} {s s' : ServerConn} {e : ServerEvent}
    (h : InOrder s) (hs : step cfg s e = some s') : ∀ i ∈ s'.mutateQueue, i < s'.tasks.length := by
  intro k hk
  refine Nat.lt_of_lt_of_le ?_ (step_length hs)
  cases step_order hs with
  | quiet _ hq | invoke _ _ _ _ _ hq | acquire _ _ _ _ _ _ hq => exact h.bound k (hq ▸ hk)
  | returned _ _ _ _ _ hq | gone _ _ _ _ _ _ hq =>
      rw [hq] at hk
      exact h.bound k (List.mem_filter.mp hk).1
  | lock i t _ ht _ _ hq =>
      rw [hq] at hk
      rcases List.mem_append.mp hk with hk | hk
      · exact h.bound k hk
      · rw [List.mem_singleton.mp hk]
        exact lt_length_of_getElem? ht

theorem InOrder.step_queued {cfg : ServerCfg} {s s' : ServerConn} {e : ServerEvent}
    (h : InOrder s) (hs : step cfg s e = some s') {j : Nat} {u : Task}
    (hu : s'.tasks[j]? = some u) : j ∈ s'.mutateQueue ↔ u.queued = true := by
  have m := step_order hs
  cases step_origin hs hu with
  | same t hne ht htag hp _ =>
      rw [m.mem_queue hne, (Task.queued_congr htag hp).1]
      exact h.queued j t ht
  | fresh hj hp hspawn =>
      obtain ⟨declared, header, bytes, rfl, -⟩ := hspawn
      rw [m.mem_queue (fun te => nofun), Task.queued, hp, Bool.and_false]
      refine ⟨?_, nofun⟩
      intro hk
      have := h.bound j hk
      omega
  | moved t te he ht htag hp _ =>
      subst he
      have hmut : u.mutating = t.mutating := Task.mutating_of_tag htag
      -- a task that leaves `dispatch_request` leaves the queue
      have hleave : s'.mutateQueue = s.mutateQueue.filter (· ≠ j) → u.phase.dispatching = false →
          (j ∈ s'.mutateQueue ↔ u.queued = true) := by
        intro hq hd
        rw [hq, Task.queued_false hd, List.mem_filter]
        simp
      cases m with
      | quiet hd hq _ _ =>
          have htd := hd j te t rfl ht
          have hud : u.phase.dispatching = false := by
            cases hud : u.phase.dispatching with
            | false => rfl
            | true => rw [hp.live.2 hud] at htd; exact nomatch htd
          rw [hq, h.queued j t ht, Task.queued_false htd, Task.queued_false hud]
      | lock i t' he ht' hm _ hq =>
          cases he
          rw [ht] at ht'
          cases ht'
          have hup : u.phase = .locking := by
            generalize hup : u.phase = up at hp
            cases hp with
            | lock => rfl
            | invoke _ hm' => rw [Task.mutating, hm'] at hm; exact nomatch hm
          rw [hq, Task.queued, hmut, hm, hup]
          simp
      | invoke i t' he ht' hm hq =>
          cases he
          rw [ht] at ht'
          cases ht'
          rw [hq, h.queued j t ht, Task.queued, Task.queued, hmut, hm]
          simp
      | acquire i t' he ht' htp _ hq =>
          cases he
          rw [ht] at ht'
          cases ht'
          have hup : u.phase = .handling := by
            generalize hup : u.phase = up at hp
            cases hp with
            | acquire => rfl
          rw [hq, h.queued j t ht, Task.queued, Task.queued, hmut, htp, hup]
      | returned i t' response he _ hq =>
          cases he
          refine hleave hq ?_
          generalize hup : u.phase = up at hp
          cases hp with
          | handled => rfl
      | gone i t' te' he _ hte hq =>
          cases he
          refine hleave hq ?_
          generalize hup : u.phase = up at hp
          rcases hte with rfl | ⟨rfl, -⟩ | ⟨rfl, -⟩ <;> cases hp <;> rfl

/-- A handler call after a step is an old one, or the call of the task that moved. -/
theorem OrderMove.invoked_inv {s s' : ServerConn} {e : ServerEvent} (m : OrderMove s e s')
    {r : Nat} (hr : r ∈ s'.invoked) : r ∈ s.invoked ∨
      ∃ i t te, e = .task i te ∧ s.tasks[i]? = some t ∧ t.req = r ∧
        (t.mutating = true → te = .acquire ∧ t.phase = .locking ∧
          s.mutateQueue.head? = some i) := by
  cases m with
  | quiet _ _ hi _ | lock _ _ _ _ _ _ _ hi _ | returned _ _ _ _ _ _ hi _
  | gone _ _ _ _ _ _ _ hi _ => exact .inl (hi ▸ hr)
  | invoke i t he ht hm _ hi =>
      rw [hi] at hr
      rcases List.mem_append.mp hr with hr | hr
      · exact .inl hr
      · refine .inr ⟨i, t, _, he, ht, (List.mem_singleton.mp hr).symm, ?_⟩
        intro hm'
        rw [hm] at hm'
        exact nomatch hm'
  | acquire i t he ht htp hq _ hi =>
      rw [hi] at hr
      rcases List.mem_append.mp hr with hr | hr
      · exact .inl hr
      · exact .inr ⟨i, t, _, he, ht, (List.mem_singleton.mp hr).symm, fun _ => ⟨rfl, htp, hq⟩⟩

theorem InOrder.step_waiting {cfg : ServerCfg} {s s' : ServerConn} {e : ServerEvent}
    (h : InOrder s) (hok : OrderSafe s e) (hs : step cfg s e = some s')
    {i j : Nat} {t u : Task} (hij : i < j) (ht : s'.tasks[i]? = some t)
    (hu : s'.tasks[j]? = some u) (htm : t.mutating = true) (hum : u.mutating = true)
    (htp : t.phase.unpolled = true) : u.queued = false ∧ u.req ∉ s'.invoked := by
  have m := step_order hs
  -- `i` was there before, and had not run
  obtain ⟨t₀, ht₀, htm₀, htp₀⟩ : ∃ t₀, s.tasks[i]? = some t₀ ∧ t₀.mutating = true ∧
      t₀.phase.unpolled = true := by
    cases step_origin hs ht with
    | same t₀ _ ht₀ htag hp _ =>
        exact ⟨t₀, ht₀, (Task.queued_congr htag hp).2.1 ▸ htm, hp ▸ htp⟩
    | moved t₀ te _ _ _ hp _ =>
        generalize hpp : t.phase = p at hp
        rw [hpp] at htp
        cases hp <;> exact nomatch htp
    | fresh hi _ _ =>
        rcases task_before hs hu with ⟨u₀, hu₀, -⟩ | ⟨hj, -⟩
        · have := lt_length_of_getElem? hu₀
          omega
        · omega
  cases step_origin hs hu with
  | same u₀ hne hu₀ htag hp _ =>
      obtain ⟨hq, hm, hr⟩ := Task.queued_congr htag hp
      have hwait := h.waiting i j t₀ u₀ hij ht₀ hu₀ htm₀ (hm ▸ hum) htp₀
      rw [hq, hr]
      refine ⟨hwait.1, ?_⟩
      intro hin
      rcases m.invoked_inv hin with hin | ⟨k, v, te, he, hv, hvr, -⟩
      · exact hwait.2 hin
      · have := h.req_inj hv hu₀ hvr
        subst this
        exact hne te he
  | fresh hj hp hspawn =>
      obtain ⟨declared, header, bytes, rfl, -, -, hreq, -⟩ := hspawn
      rw [Task.queued, hp, hreq]
      refine ⟨Bool.and_false _, ?_⟩
      intro hin
      rcases m.invoked_inv hin with hin | ⟨_, _, _, he, _⟩
      · have := h.called _ hin
        omega
      · exact nomatch he
  | moved u₀ te he hu₀ htag hp _ =>
      subst he
      have hmut : u.mutating = u₀.mutating := Task.mutating_of_tag htag
      have hr : u.req = u₀.req := Task.req_of_tag htag
      have hwait := h.waiting i j t₀ u₀ hij ht₀ hu₀ htm₀ (hmut ▸ hum) htp₀
      -- `j` has no place in the queue, so it is not called now
      have hcall : u.req ∉ s'.invoked := by
        rw [hr]
        intro hin
        rcases m.invoked_inv hin with hin | ⟨k, v, te', he, hv, hvr, hacq⟩
        · exact hwait.2 hin
        · cases he
          rw [hu₀] at hv
          cases hv
          obtain ⟨-, hlock, -⟩ := hacq (hmut ▸ hum)
          have hq := hwait.1
          rw [Task.queued, ← hmut, hum, hlock] at hq
          exact nomatch hq
      refine ⟨?_, hcall⟩
      cases hq : u.queued with
      | false => rfl
      | true =>
          -- the only way into the queue is a lock call, which waits for `i`
          have hin := (h.step_queued hs hu).mpr hq
          have hnot : j ∉ s.mutateQueue := by
            rw [h.queued j u₀ hu₀, hwait.1]
            exact nofun
          cases m with
          | quiet _ hq _ _ | invoke _ _ _ _ _ hq | acquire _ _ _ _ _ _ hq =>
              exact absurd (hq ▸ hin) hnot
          | returned _ _ _ _ _ hq | gone _ _ _ _ _ _ hq =>
              rw [hq] at hin
              exact absurd (List.mem_filter.mp hin).1 hnot
          | lock k v he hv hvm _ _ =>
              cases he
              have hbefore : t₀ ∈ s.tasks.take j := by
                rw [List.mem_take_iff_getElem]
                obtain ⟨hlt, hget⟩ := List.getElem?_eq_some_iff.mp ht₀
                exact ⟨i, by omega, hget⟩
              rw [hok.2 v hv hvm t₀ hbefore htm₀] at htp₀
              exact nomatch htp₀

theorem InOrder.step_over {cfg : ServerCfg} {s s' : ServerConn} {e : ServerEvent}
    (hids : IdsInUse s) (h : InOrder s) (hok : OrderSafe s e) (hs : step cfg s e = some s')
    {i : Nat} {t : Task} (ht : s'.tasks[i]? = some t) (htm : t.mutating = true)
    (hab : t.aborted = false) (hd : t.phase.dispatching = false) :
    ∃ response, (t.req, response) ∈ s'.returned := by
  have m := step_order hs
  -- a task that was already through
  have hold : ∀ t₀, s.tasks[i]? = some t₀ → t.tag = t₀.tag → t₀.aborted = false →
      t₀.phase.dispatching = false → ∃ response, (t.req, response) ∈ s'.returned := by
    intro t₀ ht₀ htag hab₀ hd₀
    have hmut : t.mutating = t₀.mutating := Task.mutating_of_tag htag
    have hr : t.req = t₀.req := Task.req_of_tag htag
    obtain ⟨response, hmem⟩ := h.settled i t₀ ht₀ (hmut ▸ htm) hab₀ hd₀
    exact ⟨response, hr ▸ m.returned_mono hmem⟩
  cases step_origin hs ht with
  | same t₀ _ ht₀ htag hp hkeep =>
      refine hold t₀ ht₀ htag ?_ (hp ▸ hd)
      cases hab₀ : t₀.aborted with
      | false => rfl
      | true => rw [hkeep hab₀] at hab; exact nomatch hab
  | fresh _ hp _ =>
      rw [hp] at hd
      exact nomatch hd
  | moved t₀ te he ht₀ htag hp hkeep =>
      subst he
      have hmut : t.mutating = t₀.mutating := Task.mutating_of_tag htag
      have hr : t.req = t₀.req := Task.req_of_tag htag
      rw [hkeep] at hab
      generalize htp : t.phase = p at hp
      rw [htp] at hd
      cases m with
      | quiet hq _ _ _ => exact hold t₀ ht₀ htag hab (hq i te t₀ rfl ht₀)
      | lock k v he _ _ _ _ _ _ =>
          cases he
          cases hp <;> exact nomatch hd
      | invoke k v he _ _ _ _ _ =>
          cases he
          cases hp <;> exact nomatch hd
      | acquire k v he _ _ _ _ _ _ =>
          cases he
          cases hp
          exact nomatch hd
      | returned k v response he hv _ _ hret =>
          cases he
          rw [ht₀] at hv
          cases hv
          refine ⟨response, ?_⟩
          rw [hret, hr]
          exact List.mem_append_right _ (List.mem_singleton_self _)
      | gone k v te' he hv hte _ _ _ =>
          cases he
          rw [ht₀] at hv
          cases hv
          rcases hte with rfl | ⟨rfl, hph, hsig⟩ | ⟨rfl, hab'⟩
          · rw [hok.2 t₀ ht₀] at hmut
            rw [hmut] at htm
            exact nomatch htm
          · exact absurd (hids.signal i t₀ ht₀ (by rw [hph]; rfl) hab) hsig
          · rw [hab'] at hab
            exact nomatch hab

theorem InOrder.step_result {cfg : ServerCfg} {s s' : ServerConn} {e : ServerEvent}
    (h : InOrder s) (hs : step cfg s e = some s') {i j : Nat} {t u : Task}
    (hij : i < j) (ht : s'.tasks[i]? = some t) (hu : s'.tasks[j]? = some u)
    (htm : t.mutating = true) (hum : u.mutating = true) (hab : t.aborted = false)
    (hin : u.req ∈ s'.invoked) : ∃ response, (t.req, response) ∈ s'.returned := by
  have m := step_order hs
  rcases task_before hs hu with ⟨u₀, hu₀, hut, -⟩ | ⟨hj, hreq, -, -, hloop⟩
  · have hum₀ : u.mutating = u₀.mutating := Task.mutating_of_tag hut
    have hur : u.req = u₀.req := Task.req_of_tag hut
    rcases task_before hs ht with ⟨t₀, ht₀, htt, hkeep⟩ | ⟨hi, -⟩
    · have htm₀ : t.mutating = t₀.mutating := Task.mutating_of_tag htt
      have htr : t.req = t₀.req := Task.req_of_tag htt
      have hab₀ : t₀.aborted = false := by
        cases hab₀ : t₀.aborted with
        | false => rfl
        | true => rw [hkeep hab₀] at hab; exact nomatch hab
      rw [htm₀] at htm
      rw [hum₀] at hum
      rw [hur] at hin
      rw [htr]
      rcases m.invoked_inv hin with hin | ⟨k, v, te, he, hv, hvr, hacq⟩
      · obtain ⟨response, hmem⟩ := h.result i j t₀ u₀ hij ht₀ hu₀ htm hum hab₀ hin
        exact ⟨response, m.returned_mono hmem⟩
      · -- the lock is granted to `j`: nobody before it is still in the queue
        have := h.req_inj hv hu₀ hvr
        subst this
        rw [hu₀] at hv
        cases hv
        obtain ⟨-, hlock, hhead⟩ := hacq hum
        have huq : u₀.queued = true := by
          rw [Task.queued, hum, hlock]
          rfl
        have hnq : t₀.queued = false := by
          cases hq : t₀.queued with
          | false => rfl
          | true =>
              have hmem := (h.queued i t₀ ht₀).mpr hq
              have hsorted := h.sorted
              cases hqueue : s.mutateQueue with
              | nil =>
                  rw [hqueue] at hmem
                  exact nomatch hmem
              | cons a rest =>
                  rw [hqueue] at hmem hsorted hhead
                  cases hhead
                  rcases List.mem_cons.mp hmem with rfl | hrest
                  · omega
                  · have := (List.pairwise_cons.mp hsorted).1 i hrest
                    omega
        have hd : t₀.phase.dispatching = false := by
          cases hp : t₀.phase with
          | spawned =>
              have := (h.waiting i k t₀ u₀ hij ht₀ hu₀ htm hum (by rw [hp]; rfl)).1
              rw [huq] at this
              exact nomatch this
          | locking | handling =>
              rw [Task.queued, htm, hp] at hnq
              exact nomatch hnq
          | responding | encoded | writing | removing | finished | panicked | dropped => rfl
        obtain ⟨response, hmem⟩ := h.settled i t₀ ht₀ htm hab₀ hd
        exact ⟨response, m.returned_mono hmem⟩
    · have := lt_length_of_getElem? hu₀
      omega
  · rcases m.invoked_inv hin with hin | ⟨k, _, te, he, _⟩
    · have := h.called _ hin
      omega
    · exact absurd he (hloop k te)

theorem InOrder.preserved {cfg : ServerCfg} {s s' : ServerConn} {e : ServerEvent}
    (htag : Tagged s) (hids : IdsInUse s) (h : InOrder s) (hok : OrderSafe s e)
    (hs : step cfg s e = some s') : InOrder s' where
  reqs := by
    intro i j t u
    exact h.step_reqs htag hs
  called := by
    intro r hr
    refine Nat.lt_of_lt_of_le ?_ (step_requests hs)
    rcases (step_order hs).invoked_inv hr with hr | ⟨i, t, te, he, ht, rfl, -⟩
    · exact h.called r hr
    · exact htag.req_lt ht
  sorted := h.step_sorted hs
  queued := by
    intro i t
    exact h.step_queued hs
  bound := h.step_bound hs
  waiting := by
    intro i j t u
    exact h.step_waiting hok hs
  settled := by
    intro i t
    exact h.step_over hids hok hs
  result := by
    intro i j t u
    exact h.step_result hs

/-- **MUTATING REQUESTS STAY IN ORDER** in every run whose tasks make their
    lock calls in the order they were spawned. -/
theorem mutations_ordered {cfg : ServerCfg} {s : ServerConn}
    (h : Reaches (step cfg) OrderSafe (.start cfg) s) : MutationsOrdered s := by
  have hinv : Tagged s ∧ IdsInUse s ∧ InOrder s := by
    refine h.invariant (P := fun s => Tagged s ∧ IdsInUse s ∧ InOrder s)
      ⟨tagged_start cfg, idsInUse_start cfg, inOrder_start cfg⟩ ?_
    rintro s e s' ⟨htag, hids, hord⟩ hok hs
    exact ⟨htag.preserved hs, hids.preserved hok.1 hs, hord.preserved htag hids hok hs⟩
  obtain ⟨-, -, hord⟩ := hinv
  intro i j t u ht hu hreq htm hum hab _ hin
  -- the tasks stand in the order of their requests
  have hij : i < j := by
    rcases Nat.lt_trichotomy i j with hlt | rfl | hgt
    · exact hlt
    · rw [ht] at hu
      cases hu
      omega
    · have := hord.reqs j i u t hgt hu ht
      omega
  exact hord.result i j t u hij ht hu htm hum hab hin

instance (s : ServerConn) (e : ServerEvent) : Decidable (FreshId s e) :=
  match e with
  | .loop (.payload _) => inferInstanceAs (Decidable (∀ requestId ∈ s.loop.readingId,
      ∀ t ∈ s.tasks, t.phase.live = true → t.requestId ≠ requestId))
  | .loop .beginDrain | .loop .stopReading | .loop (.headerFailed _) | .loop (.header _ _)
  | .loop (.payloadFailed _) | .loop .cancelPending | .loop .insertPending | .loop .rejectLock
  | .loop (.rejectWrite _) | .loop .rejectFlush | .loop (.rejectFail _) | .loop .drainSweep
  | .task _ _ => inferInstanceAs (Decidable True)

instance (s : ServerConn) (e : ServerEvent) : Decidable (OrderSafe s e) :=
  match e with
  | .task i .poll => inferInstanceAs (Decidable (FreshId s (.task i .poll) ∧
      ∀ t ∈ s.tasks[i]?, t.mutating = true →
        ∀ u ∈ s.tasks.take i, u.mutating = true → u.phase.unpolled = false))
  | .task i .handlerPanic => inferInstanceAs (Decidable (FreshId s (.task i .handlerPanic) ∧
      ∀ t ∈ s.tasks[i]?, t.mutating = false))
  | .loop le => inferInstanceAs (Decidable (FreshId s (.loop le) ∧ True))
  | .task _ .acquire | .task _ (.handlerReturn _) | .task _ .abortSeen | .task _ .encode
  | .task _ .lockWriter | .task _ (.write _) | .task _ .flush | .task _ .writeFail
  | .task _ .remove | .task _ .drop => inferInstanceAs (Decidable (True ∧ True))

/-- Two mutating requests, the second polled after the first: both handlers run. -/
def orderedState : ServerConn :=
  (run (step sampleCfg) OrderSafe (.start sampleCfg)
    (sampleRequest .pluginReload 1 ++ sampleRequest .pluginReload 2 ++
      [.task 0 .poll, .task 1 .poll, .task 0 .acquire, .task 0 (.handlerReturn .emptyOk),
        .task 1 .acquire])).getD (.start sampleCfg)

theorem mutations_ordered_sample :
    Reaches (step sampleCfg) OrderSafe (.start sampleCfg) orderedState ∧
      MutationsOrdered orderedState ∧ orderedState.invoked = [0, 1] :=
  ⟨reaches_getD (by decide), mutations_ordered (reaches_getD (by decide)), by decide⟩

/-- Two mutating requests, the second polled first. -/
def overtakenState : ServerConn :=
  (run (step sampleCfg) Free (.start sampleCfg)
    (sampleRequest .pluginReload 1 ++ sampleRequest .pluginReload 2 ++
      [.task 1 .poll, .task 1 .acquire])).getD (.start sampleCfg)

/-- **AN OVERTAKEN REQUEST**: the runtime polls the second task first, and its
    handler is called while the first request has not started. -/
theorem later_mutation_overtakes :
    ∃ s, Reaches (step sampleCfg) Free (.start sampleCfg) s ∧ ¬ MutationsOrdered s := by
  refine ⟨overtakenState, reaches_getD (by decide), ?_⟩
  intro h
  obtain ⟨response, hmem⟩ := h 0 1 _ _ rfl rfl (by decide) (by decide) (by decide) (by decide)
    (by decide) (by decide)
  have hnone : overtakenState.returned = [] := rfl
  rw [hnone] at hmem
  exact nomatch hmem

end ServiceServer
