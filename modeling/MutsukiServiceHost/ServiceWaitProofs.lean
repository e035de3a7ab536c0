import MutsukiServiceHost.ServiceTaskProofs
import MutsukiServiceHost.TransitionProofs

/-! # Waiting for tasks

    `task_wait` reads the completion revision, then the states of its tasks, and
    blocks until the revision has moved or the time is over.  It holds no lock
    between these steps, so tasks complete between any two of them: an event is
    a step of the handler or a change of the runtime host.

    The revision is read before the states it guards, so no completion is
    missed.  When the wait times out the states are read once more, and the
    response says so whatever they are. -/

namespace ServiceTask

open ServiceControl Transition

/-! ## The handler and its host -/

/-- The runtime host, and the revision of its completions. -/
structure Host where
  runtime : Option HostRuntime
  revision : Nat

/-- `is_terminal_task_status`. -/
def isTerminalTaskStatus : Option TaskStatus → Bool
  | some .completed | some .failed | some .cancelled | some .expired | some .deadLetter => true
  | some .created | some .ready | some .running | some .waiting | some .blocked | none => false

/-- Every task of a snapshot is terminal. -/
def allTerminal (states : List HostTaskState) : Bool :=
  states.all fun state => isTerminalTaskStatus state.status

/-- `TaskWaitResponse`. -/
structure TaskWaitResponse where
  outcomes : List TaskOutcomeView
  timedOut : Bool

/-- `task_wait_response`. -/
def taskWaitResponse (states : List HostTaskState) (timedOut : Bool) : TaskWaitResponse :=
  ⟨states.map (·.view), timedOut⟩

/-- Where `task_wait` stands. -/
inductive Phase where
  /-- before the handles are resolved -/
  | start
  /-- subscribed to the completions, the lock released -/
  | subscribed (handles : List TaskHandle)
  /-- at the head of the loop -/
  | polling (handles : List TaskHandle) (revision : Nat)
  /-- with a snapshot of the states, the lock released -/
  | checked (handles : List TaskHandle) (revision : Nat) (states : List HostTaskState)
  /-- in `wait_after_timeout` -/
  | waiting (handles : List TaskHandle) (revision : Nat)
  /-- the wait has timed out -/
  | expired (handles : List TaskHandle)
  /-- answered with an error, or from a snapshot and the flag -/
  | done (result : Except ControlError (List HostTaskState × Bool))

/-- A `task_wait` for some ids. -/
structure Wait where
  taskIds : List String
  host : Host
  phase : Phase

/-- A step of the handler or of its surroundings. -/
inductive Event where
  /-- the runtime host changes -/
  | host (host : Host)
  /-- the handler goes on, `late` when it finds the deadline passed -/
  | next (late : Bool)
  /-- the wait returns a later revision -/
  | wake (revision : Nat)
  /-- the wait returns without one -/
  | timeOut

/-- The states of the tasks, read under the lock. -/
def readStates (host : Host) (handles : List TaskHandle) :
    Except ControlError (List HostTaskState) :=
  match host.runtime with
  | none => .error notRunning
  | some runtime =>
      match runtime.taskStates handles with
      | .error detail => .error (.failed detail)
      | .ok states => .ok states

/-- The next step of the handler, where it does not wait. -/
def goOn (taskIds : List String) (host : Host) (late : Bool) : Phase → Option Phase
  | .start =>
      if taskIds = [] then
        some (.done (.error (.badRequest "task wait requires at least one id")))
      else match host.runtime with
        | none => some (.done (.error notRunning))
        | some runtime =>
            match resolveTaskHandles runtime taskIds with
            | .error error => some (.done (.error error))
            | .ok handles => some (.subscribed handles)
  -- the revision is read before the states that it guards
  | .subscribed handles => some (.polling handles host.revision)
  | .polling handles revision =>
      match readStates host handles with
      | .error error => some (.done (.error error))
      | .ok states => some (.checked handles revision states)
  | .checked handles revision states =>
      if allTerminal states then some (.done (.ok (states, false)))
      else if late then some (.done (.ok (states, true)))
      else some (.waiting handles revision)
  -- `timed_out` is true whatever is read now
  | .expired handles =>
      match readStates host handles with
      | .error error => some (.done (.error error))
      | .ok states => some (.done (.ok (states, true)))
  | .waiting _ _ | .done _ => none

/-- One event. -/
def step (s : Wait) : Event → Option Wait
  | .host host => some { s with host := host }
  | .next late => (goOn s.taskIds s.host late s.phase).map fun phase => { s with phase := phase }
  | .wake next =>
      match s.phase with
      | .waiting handles revision =>
          if revision < next ∧ next ≤ s.host.revision then
            some { s with phase := .polling handles next }
          else none
      | _ => none
  | .timeOut =>
      match s.phase with
      | .waiting handles _ => some { s with phase := .expired handles }
      | _ => none

/-- A request for some ids. -/
def request (taskIds : List String) (host : Host) : Wait := ⟨taskIds, host, .start⟩

/-- The handler's steps, read backwards. -/
theorem step_next {s s' : Wait} {late : Bool} (h : step s (.next late) = some s') :
    ∃ phase, goOn s.taskIds s.host late s.phase = some phase ∧ s' = { s with phase := phase } := by
  obtain ⟨phase, hphase, heq⟩ := Option.map_eq_some_iff.mp h
  exact ⟨phase, hphase, heq.symm⟩

theorem step_wake {s s' : Wait} {next : Nat} (h : step s (.wake next) = some s') :
    ∃ handles revision, s.phase = .waiting handles revision ∧ revision < next ∧
      next ≤ s.host.revision ∧ s' = { s with phase := .polling handles next } := by
  rw [step] at h
  split at h
  · rename_i handles revision hphase
    split at h
    · rename_i hnext
      exact ⟨handles, revision, hphase, hnext.1, hnext.2, (Option.some.inj h).symm⟩
    · exact nomatch h
  · exact nomatch h

theorem step_timeOut {s s' : Wait} (h : step s .timeOut = some s') :
    ∃ handles revision, s.phase = .waiting handles revision ∧
      s' = { s with phase := .expired handles } := by
  rw [step] at h
  split at h
  · rename_i handles revision hphase
    exact ⟨handles, revision, hphase, (Option.some.inj h).symm⟩
  · exact nomatch h

/-! ## The flag and the snapshot -/

/-- A response does not say "timed out" exactly when its snapshot is terminal. -/
def Consistent (s : Wait) : Prop :=
  ∀ states timedOut, s.phase = .done (.ok (states, timedOut)) →
    ((taskWaitResponse states timedOut).timedOut = false ↔ allTerminal states = true)

/-- When the states are read after a wait that timed out, some task is still not
    terminal. -/
def StaysPending (s : Wait) (e : Event) : Prop :=
  ∀ late handles states, e = .next late → s.phase = .expired handles →
    readStates s.host handles = .ok states → allTerminal states = false

section Flag

variable {taskIds : List String} {host : Host} {late : Bool} {phase : Phase}
  {states : List HostTaskState} {timedOut : Bool}

/-- A response is made at three places, two of which look at its snapshot. -/
theorem goOn_done (h : goOn taskIds host late phase = some (.done (.ok (states, timedOut)))) :
    (∃ handles revision, phase = .checked handles revision states ∧ timedOut = !allTerminal states) ∨
      ∃ handles, phase = .expired handles ∧ readStates host handles = .ok states ∧
        timedOut = true := by
  cases phase with
  | start =>
      rw [goOn] at h
      split at h
      · exact nomatch h
      · split at h
        · exact nomatch h
        · split at h
          · exact nomatch h
          · exact nomatch h
  | subscribed handles => exact nomatch h
  | polling handles revision =>
      rw [goOn] at h
      split at h
      · exact nomatch h
      · exact nomatch h
  | checked handles revision snapshot =>
      rw [goOn] at h
      split at h
      · rename_i hterminal
        cases h
        exact Or.inl ⟨handles, revision, rfl, by rw [hterminal]; rfl⟩
      · rename_i hterminal
        split at h
        · cases h
          exact Or.inl ⟨handles, revision, rfl, by rw [Bool.eq_false_of_not_eq_true hterminal]; rfl⟩
        · exact nomatch h
  | waiting handles revision => exact nomatch h
  | expired handles =>
      rw [goOn] at h
      split at h
      · exact nomatch h
      · rename_i snapshot hsnapshot
        cases h
        exact Or.inr ⟨handles, rfl, hsnapshot, rfl⟩
  | done result => exact nomatch h

theorem consistent_step {s s' : Wait} {e : Event} (h : Consistent s) (hpending : StaysPending s e)
    (hstep : step s e = some s') : Consistent s' := by
  cases e with
  | host host =>
      rw [← Option.some.inj hstep]
      exact h
  | next late =>
      obtain ⟨phase, hphase, rfl⟩ := step_next hstep
      rintro states timedOut rfl
      rw [taskWaitResponse]
      obtain ⟨handles, revision, -, rfl⟩ | ⟨handles, hexpired, hread, rfl⟩ := goOn_done hphase
      · rw [Bool.not_eq_false']
      · rw [hpending late handles states rfl hexpired hread]
        exact iff_of_false nofun nofun
  | wake next =>
      obtain ⟨handles, revision, -, -, -, rfl⟩ := step_wake hstep
      exact fun _ _ hdone => nomatch hdone
  | timeOut =>
      obtain ⟨handles, revision, -, rfl⟩ := step_timeOut hstep
      exact fun _ _ hdone => nomatch hdone

end Flag

/-- **THE FLAG**: in every run in which some task is still not terminal whenever
    the states are read after a timeout, a response says "timed out" exactly when
    its own snapshot is not terminal. -/
theorem response_consistent {taskIds : List String} {host : Host} {s : Wait}
    (h : Reaches step StaysPending (request taskIds host) s) : Consistent s := by
  refine h.invariant ?_ fun _ _ _ hconsistent hpending hstep =>
    consistent_step hconsistent hpending hstep
  intro states timedOut hdone
  exact nomatch hdone

/-- One task. -/
def demoTask : HostTaskSnapshot := ⟨"t", "demo", none, none, none⟩

/-- A runtime host with that task, which has a status and an outcome. -/
def demoRuntime (status : TaskStatus) (outcome : Option TaskOutcome) : HostRuntime where
  taskSnapshots := .ok [demoTask]
  taskStates handles := .ok (handles.map fun handle => ⟨handle, some status, outcome⟩)
  dispatchTaskOutcome _ := .ok (.taskOutcome outcome)

def demoHost (status : TaskStatus) (outcome : Option TaskOutcome) (revision : Nat) : Host :=
  ⟨some (demoRuntime status outcome), revision⟩

/-- The task runs, and has completed. -/
def runningHost : Host := demoHost .running none 0

def completedHost : Host := demoHost .completed (some (.completed "t" none none)) 1

/-- The wait for the running task, as far as its timeout. -/
def expiredWait : Wait := ⟨["t"], runningHost, .expired [demoTask.handle]⟩

theorem expiredWait_reached :
    run step Free (request ["t"] runningHost)
      [.next false, .next false, .next false, .next false, .timeOut] = some expiredWait := rfl

/-- The task is still running when it is read again. -/
theorem expiredWait_consistent :
    Consistent
      { expiredWait with
        phase := .done (.ok ([⟨demoTask.handle, some .running, none⟩], true)) } := by
  have hstart : ∀ {s : Wait} {e : Event}, (∀ handles, s.phase ≠ .expired handles) →
      StaysPending s e :=
    fun hphase _ handles _ _ hexpired => absurd hexpired (hphase handles)
  have h₁ : Reaches step StaysPending (request ["t"] runningHost) _ :=
    Reaches.step (.next false) Reaches.init (hstart nofun) rfl
  have h₂ := Reaches.step (.next false) h₁ (hstart nofun) rfl
  have h₃ := Reaches.step (.next false) h₂ (hstart nofun) rfl
  have h₄ := Reaches.step (.next false) h₃ (hstart nofun) rfl
  have h₅ := Reaches.step .timeOut h₄ (hstart nofun) rfl
  refine response_consistent (Reaches.step (.next false) h₅ ?_ rfl)
  intro late handles states _ hexpired hread
  cases hexpired
  rw [← Except.ok.inj hread]
  rfl

/-- **TOO LATE FOR THE FLAG**: the task completes between the timeout and the last
    read, and the response says "timed out" with the outcome of the task. -/
theorem late_completion_times_out :
    Reaches step Free (request ["t"] runningHost)
        { expiredWait with
          host := completedHost
          phase := .done (.ok
            ([⟨demoTask.handle, some .completed, some (.completed "t" none none)⟩], true)) } ∧
      ¬ Consistent
        { expiredWait with
          host := completedHost
          phase := .done (.ok
            ([⟨demoTask.handle, some .completed, some (.completed "t" none none)⟩], true)) } := by
  constructor
  · refine Reaches.step (.next false) (Reaches.step (.host completedHost)
      (reaches_of_run expiredWait_reached) trivial rfl) trivial rfl
  · intro h
    exact absurd ((h _ _ rfl).mpr rfl) nofun

/-! ## No completion is missed -/

/-- The status of a task, as the host tells it. -/
def Host.status (host : Host) (handle : TaskHandle) : Option TaskStatus :=
  match host.runtime with
  | none => none
  | some runtime =>
      match runtime.taskStates [handle] with
      | .ok [state] => state.status
      | _ => none

/-- `task_states` tells the status of each of its handles. -/
def Host.TellsEach (host : Host) : Prop :=
  ∀ handles states, readStates host handles = .ok states →
    states.map (·.status) = handles.map host.status

/-- A task that becomes terminal moves the revision in the same step, and the
    revision never goes back. -/
def CompletesAtomically (s : Wait) (e : Event) : Prop :=
  ∀ host, e = .host host → host.TellsEach ∧ s.host.revision ≤ host.revision ∧
    (host.revision = s.host.revision → ∀ handle, isTerminalTaskStatus (host.status handle) = true →
      isTerminalTaskStatus (s.host.status handle) = true)

/-- Some task is not terminal. -/
def Host.Pending (host : Host) (handles : List TaskHandle) : Prop :=
  ∃ handle ∈ handles, isTerminalTaskStatus (host.status handle) = false

/-- What the handler remembers: its revision is not ahead of the host's, and as
    long as the host is at that revision, a task that was not terminal in the
    snapshot is still not terminal. -/
def Guarded (s : Wait) : Prop :=
  match s.phase with
  | .polling _ revision => revision ≤ s.host.revision
  | .checked handles revision states => revision ≤ s.host.revision ∧
      (s.host.revision = revision → allTerminal states = false → s.host.Pending handles)
  | .waiting handles revision => revision ≤ s.host.revision ∧
      (s.host.revision = revision → s.host.Pending handles)
  | .start | .subscribed _ | .expired _ | .done _ => True

section Wakeup

variable {s s' : Wait} {host : Host} {handles : List TaskHandle}

/-- A snapshot that is not terminal shows a task that is not. -/
theorem pending_of_states (htells : host.TellsEach) {states : List HostTaskState}
    (hread : readStates host handles = .ok states) (h : allTerminal states = false) :
    host.Pending handles := by
  obtain ⟨state, hmem, hstate⟩ := List.all_eq_false.mp h
  have hstatus : state.status ∈ handles.map host.status := by
    rw [← htells handles states hread]
    exact List.mem_map_of_mem hmem
  obtain ⟨handle, hhandle, heq⟩ := List.mem_map.mp hstatus
  refine ⟨handle, hhandle, ?_⟩
  rw [heq]
  exact Bool.eq_false_of_not_eq_true hstate

/-- Without a completion a pending task stays pending. -/
theorem pending_of_pending {before after : Host} (h : before.Pending handles)
    (hterminal : ∀ handle, isTerminalTaskStatus (after.status handle) = true →
      isTerminalTaskStatus (before.status handle) = true) : after.Pending handles := by
  obtain ⟨handle, hmem, hpending⟩ := h
  refine ⟨handle, hmem, Bool.eq_false_of_not_eq_true fun hstatus => ?_⟩
  exact absurd ((hterminal handle hstatus).symm.trans hpending) nofun

/-- The host changes: either the revision moves on, or nothing has completed. -/
theorem guarded_host (h : Guarded s) (hcompletes : CompletesAtomically s (.host host)) :
    Guarded { s with host := host } := by
  obtain ⟨-, hrevision, hterminal⟩ := hcompletes host rfl
  obtain ⟨taskIds, before, phase⟩ := s
  cases phase with
  | start | subscribed | expired | done => trivial
  | polling handles revision => exact Nat.le_trans h hrevision
  | checked handles revision states =>
      obtain ⟨hle, hpending⟩ := h
      refine ⟨Nat.le_trans hle hrevision, fun heq hstates => ?_⟩
      have hsame : before.revision = revision := Nat.le_antisymm (heq ▸ hrevision) hle
      exact pending_of_pending (hpending hsame hstates) (hterminal (heq.trans hsame.symm))
  | waiting handles revision =>
      obtain ⟨hle, hpending⟩ := h
      refine ⟨Nat.le_trans hle hrevision, fun heq => ?_⟩
      have hsame : before.revision = revision := Nat.le_antisymm (heq ▸ hrevision) hle
      exact pending_of_pending (hpending hsame) (hterminal (heq.trans hsame.symm))

theorem guarded_next {late : Bool} {phase : Phase} (h : Guarded s) (htells : s.host.TellsEach)
    (hnext : goOn s.taskIds s.host late s.phase = some phase) :
    Guarded { s with phase := phase } := by
  obtain ⟨taskIds, host, before⟩ := s
  cases before with
  | start =>
      rw [goOn] at hnext
      split at hnext
      · cases hnext
        trivial
      · split at hnext
        · cases hnext
          trivial
        · split at hnext
          · cases hnext
            trivial
          · cases hnext
            trivial
  | subscribed handles =>
      cases hnext
      exact Nat.le_refl _
  | polling handles revision =>
      rw [goOn] at hnext
      split at hnext
      · cases hnext
        trivial
      · rename_i states hread
        cases hnext
        exact ⟨h, fun _ hstates => pending_of_states htells hread hstates⟩
  | checked handles revision states =>
      rw [goOn] at hnext
      split at hnext
      · cases hnext
        trivial
      · rename_i hterminal
        split at hnext
        · cases hnext
          trivial
        · cases hnext
          exact ⟨h.1, fun heq => h.2 heq (Bool.eq_false_of_not_eq_true hterminal)⟩
  | expired handles =>
      rw [goOn] at hnext
      split at hnext
      · cases hnext
        trivial
      · cases hnext
        trivial
  | waiting handles revision => exact nomatch hnext
  | done result => exact nomatch hnext

theorem guarded_step {e : Event} (h : s.host.TellsEach ∧ Guarded s)
    (hcompletes : CompletesAtomically s e) (hstep : step s e = some s') :
    s'.host.TellsEach ∧ Guarded s' := by
  obtain ⟨htells, hguarded⟩ := h
  cases e with
  | host host =>
      rw [← Option.some.inj hstep]
      exact ⟨(hcompletes host rfl).1, guarded_host hguarded hcompletes⟩
  | next late =>
      obtain ⟨phase, hphase, rfl⟩ := step_next hstep
      exact ⟨htells, guarded_next hguarded htells hphase⟩
  | wake next =>
      obtain ⟨handles, revision, -, -, hnext, rfl⟩ := step_wake hstep
      exact ⟨htells, hnext⟩
  | timeOut =>
      obtain ⟨handles, revision, -, rfl⟩ := step_timeOut hstep
      exact ⟨htells, trivial⟩

end Wakeup

/-- **NO LOST WAKEUP**: whenever `task_wait` is blocked, that is, waits for a
    revision behind the host's, some task it waits for is not terminal. -/
theorem blocked_on_pending {taskIds : List String} {host : Host} {s : Wait}
    (htells : host.TellsEach) (h : Reaches step CompletesAtomically (request taskIds host) s)
    {handles : List TaskHandle} {revision : Nat} (hphase : s.phase = .waiting handles revision)
    (hblocked : s.host.revision ≤ revision) : s.host.Pending handles := by
  have hstart : Guarded (request taskIds host) := trivial
  have hguarded : s.host.TellsEach ∧ Guarded s :=
    h.invariant (P := fun s => s.host.TellsEach ∧ Guarded s) ⟨htells, hstart⟩
      fun _ _ _ hguarded hcompletes hstep => guarded_step hguarded hcompletes hstep
  have hwaiting := hguarded.2
  rw [Guarded, hphase] at hwaiting
  exact hwaiting.2 (Nat.le_antisymm hblocked hwaiting.1)

/-- A runtime host with three tasks, whose statuses and outcomes it is told. -/
def severalRuntime (tell : String → TaskStatus × Option TaskOutcome) : HostRuntime where
  taskSnapshots := .ok [demoTask, { demoTask with taskId := "u" }, { demoTask with taskId := "v" }]
  taskStates handles := .ok (handles.map fun handle =>
    ⟨handle, some (tell handle.taskId).1, (tell handle.taskId).2⟩)
  dispatchTaskOutcome handle := .ok (.taskOutcome (tell handle.taskId).2)

/-- No task has completed. -/
def beforeCompletion (status : TaskStatus) : Host :=
  ⟨some (severalRuntime fun _ => (status, none)), 0⟩

/-- The first one has, and the others run. -/
def halfDone (taskId : String) : TaskStatus × Option TaskOutcome :=
  if taskId = "t" then (.completed, some (.completed "t" none none)) else (.running, none)

def halfDoneHost : Host := ⟨some (severalRuntime halfDone), 1⟩

theorem severalRuntime_tellsEach (tell : String → TaskStatus × Option TaskOutcome)
    (revision : Nat) : Host.TellsEach ⟨some (severalRuntime tell), revision⟩ := by
  intro handles states hread
  rw [← Except.ok.inj hread, List.map_map]
  rfl

/-- One of two tasks is waited for in vain: the tasks go from ready to running
    while the handler reads them, the first one completes before it waits, and it
    waits for the second one when it has seen that. -/
theorem halfDoneHost_pending :
    isTerminalTaskStatus (halfDoneHost.status demoTask.handle) = true ∧
      halfDoneHost.Pending [{ demoTask.handle with taskId := "u" }, demoTask.handle] := by
  have hnext : ∀ {s : Wait} {late : Bool}, CompletesAtomically s (.next late) :=
    fun _ h => nomatch h
  have hready : Reaches step CompletesAtomically (request ["u", "t"] (beforeCompletion .ready)) _ :=
    Reaches.step (.next false) Reaches.init hnext rfl
  have hpolling := hready.step (.next false) hnext rfl
  have hrunning := hpolling.step (.host (beforeCompletion .running)) (by
    rintro host ⟨⟩
    refine ⟨severalRuntime_tellsEach _ _, Nat.le_refl _, ?_⟩
    rintro - handle ⟨⟩) rfl
  have hchecked := hrunning.step (.next false) hnext rfl
  have hcompleted := hchecked.step (.host halfDoneHost) (by
    rintro host ⟨⟩
    refine ⟨severalRuntime_tellsEach _ _, Nat.zero_le _, ?_⟩
    rintro ⟨⟩) rfl
  have hwaiting := hcompleted.step (.next false) hnext rfl
  have hwoken := hwaiting.step (.wake 1) (fun _ h => nomatch h) rfl
  have hagain := hwoken.step (.next false) hnext rfl
  have hblocked := hagain.step (.next false) hnext rfl
  exact ⟨rfl, blocked_on_pending (severalRuntime_tellsEach _ _) hblocked rfl (Nat.le_refl _)⟩

/-! ## One id and many -/

/-- The host does not change. -/
def SameHost (s : Wait) (e : Event) : Prop := ∀ host, e = .host host → host = s.host

/-- The views of a result. -/
def viewsOf (result : Except ControlError (List HostTaskState × Bool)) :
    Except ControlError (List TaskOutcomeView) :=
  result.map fun response => (taskWaitResponse response.1 response.2).outcomes

/-- A list of ids is resolved id by id: it succeeds when every id has a snapshot,
    each handle is made of the snapshot of its id, and the outcomes of the list
    are the outcomes of its ids. -/
structure PointwiseTasks (runtime : HostRuntime) (snapshots : List HostTaskSnapshot)
    (taskIds : List String) : Prop where
  resolves : (∃ handles, resolveTaskHandles runtime taskIds = .ok handles) ↔
    ∀ taskId ∈ taskIds, ∃ snapshot ∈ snapshots, snapshot.taskId = taskId
  handles : ∀ handles, resolveTaskHandles runtime taskIds = .ok handles →
    List.Forall₂ (HandleOf snapshots) taskIds handles
  batch : Agrees runtime taskIds (taskOutcomesBatch (some runtime) taskIds)
  wait : ∀ revision s result,
    Reaches step SameHost (request taskIds ⟨some runtime, revision⟩) s → s.phase = .done result →
      Agrees runtime taskIds (viewsOf result)

section Pointwise

variable {runtime : HostRuntime} {snapshots : List HostTaskSnapshot} {taskIds : List String}

/-- Every id is resolved, when each has a snapshot. -/
def Resolvable (runtime : HostRuntime) (snapshots : List HostTaskSnapshot) (taskIds : List String) :
    Prop :=
  (∀ taskId ∈ taskIds, ∃ snapshot ∈ snapshots, snapshot.taskId = taskId) →
    ∃ handles, resolveTaskHandles runtime taskIds = .ok handles

/-- An error agrees when some id has no view of its own. -/
theorem agrees_error {error : ControlError}
    (h : taskIds ≠ [] → (∀ taskId ∈ taskIds, ∃ view, taskOutcome (some runtime) taskId = .ok view) →
      False) : Agrees runtime taskIds (.error error) where
  views := fun _ hviews => nomatch hviews
  total := fun hne hall => (h hne hall).elim

/-- Resolved handles and their states agree. -/
theorem agrees_states (hlawful : runtime.Lawful)
    (hsnapshots : runtime.taskSnapshots = .ok snapshots)
    (hdistinct : DistinctIds snapshots) {handles : List TaskHandle} {states : List HostTaskState}
    (hhandles : resolveTaskHandles runtime taskIds = .ok handles)
    (hstates : runtime.taskStates handles = .ok states) :
    Agrees runtime taskIds (.ok (states.map (·.view))) where
  views := by
    intro views hviews
    rw [← Except.ok.inj hviews]
    exact views_agree hlawful hsnapshots hdistinct
      (resolveTaskHandles_inv hsnapshots hdistinct hhandles).2 hstates
  total := fun _ _ => ⟨_, rfl⟩

/-- Handles without states belong to an id without a view. -/
theorem agrees_no_states (hlawful : runtime.Lawful)
    (hsnapshots : runtime.taskSnapshots = .ok snapshots) (hdistinct : DistinctIds snapshots)
    {handles : List TaskHandle} {detail : String} {error : ControlError}
    (hhandles : resolveTaskHandles runtime taskIds = .ok handles)
    (hstates : runtime.taskStates handles = .error detail) :
    Agrees runtime taskIds (.error error) := by
  refine agrees_error fun _ hall => ?_
  obtain ⟨states, hok⟩ := states_total hlawful hsnapshots hdistinct
    (resolveTaskHandles_inv hsnapshots hdistinct hhandles).2 hall
  exact nomatch hok.symm.trans hstates

/-- Ids that are not resolved have one without a view among them. -/
theorem agrees_unresolved (hsnapshots : runtime.taskSnapshots = .ok snapshots)
    (hdistinct : DistinctIds snapshots) (hresolvable : Resolvable runtime snapshots taskIds)
    {error error' : ControlError} (h : resolveTaskHandles runtime taskIds = .error error') :
    Agrees runtime taskIds (.error error) := by
  refine agrees_error fun _ hall => ?_
  obtain ⟨handles, hok⟩ := hresolvable fun taskId hmem => by
    obtain ⟨view, hview⟩ := hall taskId hmem
    exact exists_snapshot hsnapshots hdistinct hview
  exact nomatch hok.symm.trans h

theorem batch_agrees (hlawful : runtime.Lawful) (hsnapshots : runtime.taskSnapshots = .ok snapshots)
    (hdistinct : DistinctIds snapshots) (hresolvable : Resolvable runtime snapshots taskIds) :
    Agrees runtime taskIds (taskOutcomesBatch (some runtime) taskIds) := by
  rw [taskOutcomesBatch]
  split
  · rename_i hnil
    exact agrees_error fun hne _ => hne hnil
  · split
    · rename_i error hresolve
      exact agrees_unresolved hsnapshots hdistinct hresolvable hresolve
    · rename_i handles hresolve
      split
      · rename_i detail hstates
        exact agrees_no_states hlawful hsnapshots hdistinct hresolve hstates
      · rename_i states hstates
        exact agrees_states hlawful hsnapshots hdistinct hresolve hstates

/-- What `task_wait` holds while the host stays as it is. -/
def Holds (runtime : HostRuntime) (taskIds : List String) : Phase → Prop
  | .start => True
  | .subscribed handles | .polling handles _ | .waiting handles _ | .expired handles =>
      resolveTaskHandles runtime taskIds = .ok handles
  | .checked handles _ states =>
      resolveTaskHandles runtime taskIds = .ok handles ∧ runtime.taskStates handles = .ok states
  | .done result => Agrees runtime taskIds (viewsOf result)

/-- Reading the states of resolved handles. -/
theorem readStates_cases (hlawful : runtime.Lawful)
    (hsnapshots : runtime.taskSnapshots = .ok snapshots) (hdistinct : DistinctIds snapshots)
    {host : Host} (hhost : host.runtime = some runtime) {handles : List TaskHandle}
    (hhandles : resolveTaskHandles runtime taskIds = .ok handles) :
    (∃ error, readStates host handles = .error error ∧ Agrees runtime taskIds (.error error)) ∨
      ∃ states, readStates host handles = .ok states ∧ runtime.taskStates handles = .ok states := by
  rw [readStates, hhost]
  dsimp only
  cases hstates : runtime.taskStates handles with
  | error detail =>
      exact Or.inl ⟨_, rfl, agrees_no_states hlawful hsnapshots hdistinct hhandles hstates⟩
  | ok states => exact Or.inr ⟨states, rfl, rfl⟩

theorem holds_next (hlawful : runtime.Lawful) (hsnapshots : runtime.taskSnapshots = .ok snapshots)
    (hdistinct : DistinctIds snapshots) (hresolvable : Resolvable runtime snapshots taskIds)
    {host : Host} (hhost : host.runtime = some runtime) {late : Bool} {before phase : Phase}
    (h : Holds runtime taskIds before) (hnext : goOn taskIds host late before = some phase) :
    Holds runtime taskIds phase := by
  cases before with
  | start =>
      rw [goOn] at hnext
      split at hnext
      · rename_i hnil
        cases hnext
        exact agrees_error fun hne _ => hne hnil
      · rw [hhost] at hnext
        dsimp only at hnext
        split at hnext
        · rename_i error hresolve
          cases hnext
          exact agrees_unresolved hsnapshots hdistinct hresolvable hresolve
        · rename_i handles hresolve
          cases hnext
          exact hresolve
  | subscribed handles =>
      cases hnext
      exact h
  | polling handles revision =>
      rw [goOn] at hnext
      obtain ⟨error, hread, hagrees⟩ | ⟨states, hread, hstates⟩ :=
        readStates_cases hlawful hsnapshots hdistinct hhost h
      · rw [hread] at hnext
        cases hnext
        exact hagrees
      · rw [hread] at hnext
        cases hnext
        exact ⟨h, hstates⟩
  | checked handles revision states =>
      obtain ⟨hresolve, hstates⟩ := h
      have hagrees := agrees_states hlawful hsnapshots hdistinct hresolve hstates
      rw [goOn] at hnext
      split at hnext
      · cases hnext
        exact hagrees
      · split at hnext
        · cases hnext
          exact hagrees
        · cases hnext
          exact hresolve
  | expired handles =>
      rw [goOn] at hnext
      obtain ⟨error, hread, hagrees⟩ | ⟨states, hread, hstates⟩ :=
        readStates_cases hlawful hsnapshots hdistinct hhost h
      · rw [hread] at hnext
        cases hnext
        exact hagrees
      · rw [hread] at hnext
        cases hnext
        exact agrees_states hlawful hsnapshots hdistinct h hstates
  | waiting handles revision => exact nomatch hnext
  | done result => exact nomatch hnext

theorem holds_step (hlawful : runtime.Lawful) (hsnapshots : runtime.taskSnapshots = .ok snapshots)
    (hdistinct : DistinctIds snapshots) (hresolvable : Resolvable runtime snapshots taskIds)
    {s s' : Wait} {e : Event}
    (h : s.taskIds = taskIds ∧ s.host.runtime = some runtime ∧ Holds runtime taskIds s.phase)
    (hsame : SameHost s e) (hstep : step s e = some s') :
    s'.taskIds = taskIds ∧ s'.host.runtime = some runtime ∧ Holds runtime taskIds s'.phase := by
  obtain ⟨hids, hhost, hholds⟩ := h
  cases e with
  | host host =>
      rw [← Option.some.inj hstep]
      refine ⟨hids, ?_, hholds⟩
      rw [hsame host rfl]
      exact hhost
  | next late =>
      obtain ⟨phase, hphase, rfl⟩ := step_next hstep
      rw [hids] at hphase
      exact ⟨hids, hhost, holds_next hlawful hsnapshots hdistinct hresolvable hhost hholds hphase⟩
  | wake next =>
      obtain ⟨handles, revision, hphase, -, -, rfl⟩ := step_wake hstep
      rw [hphase] at hholds
      exact ⟨hids, hhost, hholds⟩
  | timeOut =>
      obtain ⟨handles, revision, hphase, rfl⟩ := step_timeOut hstep
      rw [hphase] at hholds
      exact ⟨hids, hhost, hholds⟩

theorem wait_agrees (hlawful : runtime.Lawful) (hsnapshots : runtime.taskSnapshots = .ok snapshots)
    (hdistinct : DistinctIds snapshots) (hresolvable : Resolvable runtime snapshots taskIds)
    {revision : Nat} {s : Wait} {result : Except ControlError (List HostTaskState × Bool)}
    (h : Reaches step SameHost (request taskIds ⟨some runtime, revision⟩) s)
    (hdone : s.phase = .done result) : Agrees runtime taskIds (viewsOf result) := by
  have hstart : Holds runtime taskIds (request taskIds ⟨some runtime, revision⟩).phase := trivial
  have hholds :
    s.taskIds = taskIds ∧ s.host.runtime = some runtime ∧ Holds runtime taskIds s.phase :=
    h.invariant
      (P := fun s => s.taskIds = taskIds ∧ s.host.runtime = some runtime ∧
        Holds runtime taskIds s.phase)
      ⟨rfl, rfl, hstart⟩ fun _ _ _ hholds hsame hstep =>
        holds_step hlawful hsnapshots hdistinct hresolvable hholds hsame hstep
  rw [hdone] at hholds
  exact hholds.2.2

end Pointwise

/-- **MANY AS ONE BY ONE**: a list of ids is resolved id by id exactly when no id
    comes twice, or some id has no snapshot. -/
theorem pointwise_iff {runtime : HostRuntime} {snapshots : List HostTaskSnapshot}
    {taskIds : List String} (hlawful : runtime.Lawful)
    (hsnapshots : runtime.taskSnapshots = .ok snapshots) (hdistinct : DistinctIds snapshots) :
    PointwiseTasks runtime snapshots taskIds ↔
      taskIds.Nodup ∨ ∃ taskId ∈ taskIds, ∀ snapshot ∈ snapshots, snapshot.taskId ≠ taskId := by
  constructor
  · intro h
    by_cases hall : ∀ taskId ∈ taskIds, ∃ snapshot ∈ snapshots, snapshot.taskId = taskId
    · obtain ⟨handles, hhandles⟩ := h.resolves.mpr hall
      exact Or.inl (resolveTaskHandles_inv hsnapshots hdistinct hhandles).1
    · push Not at hall
      exact Or.inr hall
  · intro h
    have hresolvable : Resolvable runtime snapshots taskIds := by
      intro hall
      obtain hnodup | ⟨taskId, hmem, hmissing⟩ := h
      · exact resolveTaskHandles_of_nodup hsnapshots hdistinct hnodup hall
      · obtain ⟨snapshot, hsnapshot, hid⟩ := hall taskId hmem
        exact absurd hid (hmissing snapshot hsnapshot)
    constructor
    · refine ⟨fun ⟨handles, hhandles⟩ taskId hmem => ?_, hresolvable⟩
      obtain ⟨handle, -, snapshot, hsnapshot, hid, -⟩ := ListUpdate.exists_partner
        (resolveTaskHandles_inv hsnapshots hdistinct hhandles).2 hmem
      exact ⟨snapshot, hsnapshot, hid⟩
    · intro handles hhandles
      exact (resolveTaskHandles_inv hsnapshots hdistinct hhandles).2
    · exact batch_agrees hlawful hsnapshots hdistinct hresolvable
    · intro revision s result hreaches hdone
      exact wait_agrees hlawful hsnapshots hdistinct hresolvable hreaches hdone

theorem severalRuntime_lawful (tell : String → TaskStatus × Option TaskOutcome) :
    (severalRuntime tell).Lawful where
  states := by
    intro handles states hstates
    rw [← Except.ok.inj hstates, List.forall₂_map_right_iff]
    exact List.forall₂_same.mpr fun _ _ => ⟨rfl, rfl⟩
  total := fun _ _ => ⟨_, rfl⟩

/-- Two of the three tasks, in another order. -/
theorem severalTasks_pointwise :
    PointwiseTasks (severalRuntime halfDone)
        [demoTask, { demoTask with taskId := "u" }, { demoTask with taskId := "v" }] ["v", "t"] ∧
      (taskOutcomesBatch (some (severalRuntime halfDone)) ["v", "t"]).map
        (fun views => views.map fun view => (view.taskId, view.status))
          = .ok [("v", "pending"), ("t", "completed")] := by
  constructor
  · refine (pointwise_iff (severalRuntime_lawful _) rfl ?_).mpr (Or.inl (by decide))
    simp [DistinctIds, demoTask]
  · decide +kernel

/-- **ASKED TWICE**: a task that is there is not found when its id comes twice. -/
theorem repeated_id_not_found :
    (taskOutcome (some (demoRuntime .running none)) "t").isOk = true ∧
      resolveTaskHandles (demoRuntime .running none) ["t", "t"] =
        .error (.failed "task t was not found") ∧
      ¬ PointwiseTasks (demoRuntime .running none) [demoTask] ["t", "t"] := by
  have hresolve : resolveTaskHandles (demoRuntime .running none) ["t", "t"] =
      .error (.failed "task t was not found") := by decide +kernel
  refine ⟨by decide +kernel, hresolve, fun h => ?_⟩
  obtain ⟨handles, hhandles⟩ := h.resolves.mpr fun taskId hmem =>
    ⟨demoTask, List.mem_singleton_self _, by simpa [demoTask, eq_comm] using hmem⟩
  exact nomatch hhandles.symm.trans hresolve

end ServiceTask
