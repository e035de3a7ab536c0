import Std.Data.ExtTreeMap.Lemmas
import MutsukiServiceHost.ListUpdateProofs
import MutsukiServiceHost.ServiceControlProofs

/-! # Task handles and outcomes

    `task_outcome`, `task_outcomes_batch` and `task_wait` are asked for tasks by
    id.  They build a handle from the snapshot of each id, and ask the runtime
    host for what the handles stand for.  The runtime host is not part of the
    repository: a `HostRuntime` is what its calls answer.

    `resolve_task_handles` takes each snapshot out of its map as it goes, so an
    id is found once. -/

namespace ServiceTask

open ServiceControl

/-! ## Tasks -/

/-- `TaskStatus`. -/
inductive TaskStatus where
  | created
  | ready
  | running
  | waiting
  | blocked
  | completed
  | failed
  | cancelled
  | expired
  | deadLetter
  deriving DecidableEq, Repr

/-- `CancelPolicy`, as far as the host uses it. -/
inductive CancelPolicy where
  | cascade
  deriving DecidableEq, Repr

/-- What a handle takes from a `HostTaskSnapshot`. -/
structure HostTaskSnapshot where
  taskId : String
  protocolId : String
  targetBindingId : Option String
  traceId : Option String
  correlationId : Option String
  deriving DecidableEq, Repr

/-- `TaskHandle`. -/
structure TaskHandle where
  taskId : String
  protocolId : String
  targetBindingId : Option String
  cancelPolicy : CancelPolicy
  traceId : Option String
  correlationId : Option String
  deriving DecidableEq, Repr

/-- The error of a failed task; a value of its evidence stands as what
    `serde_json::to_value` makes of it. -/
structure RuntimeError where
  code : String
  route : String
  evidence : List (String × Option Value)

/-- `TaskOutcome`. -/
inductive TaskOutcome where
  | completed (taskId : String) (output : Option Value) (outputRef : Option String)
  | failed (taskId : String) (error : RuntimeError)
  | cancelled (taskId : String) (reason : Option String)
  | expired (taskId : String) (reason : Option String)
  | deadLetter (taskId : String) (reason : Option String)

/-- `HostTaskState`. -/
structure HostTaskState where
  handle : TaskHandle
  status : Option TaskStatus
  outcome : Option TaskOutcome

/-- `HostRuntimeReply`; another reply stands as its `Debug` text. -/
inductive HostRuntimeReply where
  | taskOutcome (outcome : Option TaskOutcome)
  | other (debug : String)

/-- The answers of a running `HostRuntime`. -/
structure HostRuntime where
  /-- `task_snapshots` -/
  taskSnapshots : Except String (List HostTaskSnapshot)
  /-- `task_states` -/
  taskStates : List TaskHandle → Except String (List HostTaskState)
  /-- `dispatch` of `HostRuntimeCommand::TaskOutcome` -/
  dispatchTaskOutcome : TaskHandle → Except String HostRuntimeReply

/-- `TaskOutcomeView`. -/
structure TaskOutcomeView where
  taskId : String
  status : String
  output : Option Value
  outputRef : Option String
  reason : Option String
  errorCode : Option String
  evidence : List (String × Value)

/-! ## Views -/

/-- The view of a task that has no output and no error. -/
def plainView (taskId status : String) (reason : Option String) : TaskOutcomeView :=
  ⟨taskId, status, none, none, reason, none, []⟩

/-- `to_control_task_outcome`. -/
def toControlTaskOutcome (taskId : String) : Option TaskOutcome → TaskOutcomeView
  | none => plainView taskId "pending" none
  | some (.completed taskId output outputRef) =>
      { plainView taskId "completed" none with output := output, outputRef := outputRef }
  | some (.failed taskId error) =>
      { plainView taskId "failed" (some error.route) with
        errorCode := some error.code
        evidence := error.evidence.filterMap fun entry => entry.2.map fun value => (entry.1, value) }
  | some (.cancelled taskId reason) => plainView taskId "cancelled" reason
  | some (.expired taskId reason) => plainView taskId "expired" reason
  | some (.deadLetter taskId reason) => plainView taskId "dead_letter" reason

/-- The view of a state, under the id of its handle. -/
def HostTaskState.view (state : HostTaskState) : TaskOutcomeView :=
  toControlTaskOutcome state.handle.taskId state.outcome

/-! ## Handles -/

/-- The handle made of a snapshot. -/
def HostTaskSnapshot.handle (snapshot : HostTaskSnapshot) : TaskHandle where
  taskId := snapshot.taskId
  protocolId := snapshot.protocolId
  targetBindingId := snapshot.targetBindingId
  cancelPolicy := .cascade
  traceId := snapshot.traceId
  correlationId := snapshot.correlationId

/-- The snapshots by id. -/
abbrev ById := Std.ExtTreeMap String HostTaskSnapshot compare

def byIdOf (snapshots : List HostTaskSnapshot) : ById :=
  Std.ExtTreeMap.ofList (snapshots.map fun snapshot => (snapshot.taskId, snapshot)) compare

/-- The error for an id without a snapshot. -/
def notFound (taskId : String) : ControlError := .failed ("task " ++ taskId ++ " was not found")

/-- The loop of `resolve_task_handles`. -/
def resolveLoop (byId : ById) : List String → Except ControlError (List TaskHandle)
  | [] => .ok []
  | taskId :: taskIds =>
      match byId[taskId]? with
      | none => .error (notFound taskId)
      | some snapshot =>
          match resolveLoop (byId.erase taskId) taskIds with
          | .error error => .error error
          | .ok handles => .ok (snapshot.handle :: handles)

/-- `resolve_task_handles`. -/
def resolveTaskHandles (runtime : HostRuntime) (taskIds : List String) :
    Except ControlError (List TaskHandle) :=
  match runtime.taskSnapshots with
  | .error detail => .error (.failed detail)
  | .ok snapshots => resolveLoop (byIdOf snapshots) taskIds

/-- `resolve_task_handle`; one id never gives an empty list. -/
def resolveTaskHandle (runtime : HostRuntime) (taskId : String) : Except ControlError TaskHandle :=
  match resolveTaskHandles runtime [taskId] with
  | .error error => .error error
  | .ok [] => .error (notFound taskId)
  | .ok (handle :: _) => .ok handle

/-! ## Requests -/

def notRunning : ControlError := .failed "core is not running"

/-- `task_outcome`. -/
def taskOutcome (host : Option HostRuntime) (taskId : String) :
    Except ControlError TaskOutcomeView :=
  match host with
  | none => .error notRunning
  | some runtime =>
      match resolveTaskHandle runtime taskId with
      | .error error => .error error
      | .ok handle =>
          match runtime.dispatchTaskOutcome handle with
          | .ok (.taskOutcome outcome) => .ok (toControlTaskOutcome handle.taskId outcome)
          | .ok (.other debug) => .error (.failed ("unexpected task outcome reply: " ++ debug))
          | .error detail => .error (.failed detail)

/-- `task_outcomes_batch`. -/
def taskOutcomesBatch (host : Option HostRuntime) (taskIds : List String) :
    Except ControlError (List TaskOutcomeView) :=
  if taskIds = [] then .error (.badRequest "task outcomes batch requires at least one id")
  else match host with
    | none => .error notRunning
    | some runtime =>
        match resolveTaskHandles runtime taskIds with
        | .error error => .error error
        | .ok handles =>
            match runtime.taskStates handles with
            | .error detail => .error (.failed detail)
            | .ok states => .ok (states.map (·.view))

/-! ## What is resolved -/

section Resolve

variable {byId : ById} {snapshots : List HostTaskSnapshot} {taskIds : List String}
  {handles : List TaskHandle}

/-- The handle is made of the snapshot of the id. -/
def HandleOf (snapshots : List HostTaskSnapshot) (taskId : String) (handle : TaskHandle) : Prop :=
  ∃ snapshot ∈ snapshots, snapshot.taskId = taskId ∧ handle = snapshot.handle

/-- There is one snapshot at most for an id. -/
def DistinctIds (snapshots : List HostTaskSnapshot) : Prop :=
  snapshots.Pairwise fun a b => a.taskId ≠ b.taskId

theorem getElem?_byIdOf (h : DistinctIds snapshots) {taskId : String}
    {snapshot : HostTaskSnapshot} :
    (byIdOf snapshots)[taskId]? = some snapshot ↔
      snapshot ∈ snapshots ∧ snapshot.taskId = taskId := by
  have hmem : ∀ snapshot ∈ snapshots, (byIdOf snapshots)[snapshot.taskId]? = some snapshot := by
    intro snapshot hsnapshot
    refine Std.ExtTreeMap.getElem?_ofList_of_mem Std.ReflCmp.compare_self ?_
      (List.mem_map_of_mem hsnapshot)
    exact List.pairwise_map.mpr (h.imp fun hne heq =>
      hne (Std.LawfulEqCmp.compare_eq_iff_eq.mp heq))
  constructor
  · intro hfound
    have hkey : taskId ∈ byIdOf snapshots := by
      rw [Std.ExtTreeMap.mem_iff_isSome_getElem?, hfound]
      rfl
    rw [byIdOf, Std.ExtTreeMap.mem_ofList, List.contains_iff_mem, List.map_map] at hkey
    obtain ⟨other, hother, rfl⟩ := List.mem_map.mp hkey
    obtain rfl : other = snapshot := Option.some.inj ((hmem other hother).symm.trans hfound)
    exact ⟨hother, rfl⟩
  · rintro ⟨hsnapshot, rfl⟩
    exact hmem snapshot hsnapshot

theorem getElem?_erase {taskId other : String} {snapshot : HostTaskSnapshot} :
    (byId.erase taskId)[other]? = some snapshot ↔
      taskId ≠ other ∧ byId[other]? = some snapshot := by
  rw [Std.ExtTreeMap.getElem?_erase]
  simp only [Std.LawfulEqCmp.compare_eq_iff_eq]
  by_cases h : taskId = other
  · rw [if_pos h]
    exact iff_of_false nofun fun hne => hne.1 h
  · rw [if_neg h]
    exact (and_iff_right h).symm

/-- The map has a snapshot of the id, and the handle is made of it. -/
def FoundIn (byId : ById) (taskId : String) (handle : TaskHandle) : Prop :=
  ∃ snapshot, byId[taskId]? = some snapshot ∧ handle = snapshot.handle

/-- An id that is resolved comes once, and each handle is made of its snapshot. -/
theorem resolveLoop_inv (h : resolveLoop byId taskIds = .ok handles) :
    taskIds.Nodup ∧ List.Forall₂ (FoundIn byId) taskIds handles := by
  induction taskIds generalizing byId handles with
  | nil =>
      rw [← Except.ok.inj h]
      exact ⟨List.nodup_nil, .nil⟩
  | cons taskId taskIds ih =>
      rw [resolveLoop] at h
      split at h
      · exact nomatch h
      · rename_i snapshot hsnapshot
        split at h
        · exact nomatch h
        · rename_i later hlater
          obtain ⟨hnodup, hfound⟩ := ih hlater
          have hfresh : taskId ∉ taskIds := by
            intro hmem
            obtain ⟨handle, -, other, hother, -⟩ := ListUpdate.exists_partner hfound hmem
            exact (getElem?_erase.mp hother).1 rfl
          rw [← Except.ok.inj h]
          refine ⟨List.nodup_cons.mpr ⟨hfresh, hnodup⟩, .cons ⟨snapshot, hsnapshot, rfl⟩ ?_⟩
          exact hfound.imp fun _ _ ⟨other, hother, hhandle⟩ =>
            ⟨other, (getElem?_erase.mp hother).2, hhandle⟩

/-- Ids that are all there, each once, are resolved. -/
theorem resolveLoop_of_nodup (hnodup : taskIds.Nodup)
    (hfound : ∀ taskId ∈ taskIds, ∃ snapshot, byId[taskId]? = some snapshot) :
    ∃ handles, resolveLoop byId taskIds = .ok handles := by
  induction taskIds generalizing byId with
  | nil => exact ⟨[], rfl⟩
  | cons taskId taskIds ih =>
      obtain ⟨hfresh, hnodup⟩ := List.nodup_cons.mp hnodup
      obtain ⟨⟨snapshot, hsnapshot⟩, hrest⟩ := List.forall_mem_cons.mp hfound
      have hlater : ∀ other ∈ taskIds, ∃ snapshot, (byId.erase taskId)[other]? = some snapshot := by
        intro other hmem
        obtain ⟨snapshot, hsnapshot⟩ := hrest other hmem
        exact ⟨snapshot, getElem?_erase.mpr ⟨fun heq => hfresh (heq ▸ hmem), hsnapshot⟩⟩
      obtain ⟨handles, hhandles⟩ := ih hnodup hlater
      exact ⟨snapshot.handle :: handles, by rw [resolveLoop, hsnapshot, hhandles]⟩

variable {runtime : HostRuntime}

theorem resolveTaskHandles_inv (hsnapshots : runtime.taskSnapshots = .ok snapshots)
    (hdistinct : DistinctIds snapshots) (h : resolveTaskHandles runtime taskIds = .ok handles) :
    taskIds.Nodup ∧ List.Forall₂ (HandleOf snapshots) taskIds handles := by
  rw [resolveTaskHandles, hsnapshots] at h
  obtain ⟨hnodup, hfound⟩ := resolveLoop_inv h
  refine ⟨hnodup, hfound.imp fun taskId handle hhandle => ?_⟩
  obtain ⟨snapshot, hget, rfl⟩ := hhandle
  obtain ⟨hmem, hid⟩ := (getElem?_byIdOf hdistinct).mp hget
  exact ⟨snapshot, hmem, hid, rfl⟩

theorem resolveTaskHandles_of_nodup (hsnapshots : runtime.taskSnapshots = .ok snapshots)
    (hdistinct : DistinctIds snapshots) (hnodup : taskIds.Nodup)
    (hfound : ∀ taskId ∈ taskIds, ∃ snapshot ∈ snapshots, snapshot.taskId = taskId) :
    ∃ handles, resolveTaskHandles runtime taskIds = .ok handles := by
  rw [resolveTaskHandles, hsnapshots]
  refine resolveLoop_of_nodup hnodup fun taskId hmem => ?_
  obtain ⟨snapshot, hsnapshot, hid⟩ := hfound taskId hmem
  exact ⟨snapshot, (getElem?_byIdOf hdistinct).mpr ⟨hsnapshot, hid⟩⟩

theorem HandleOf.unique (hdistinct : DistinctIds snapshots) {taskId : String}
    {handle handle' : TaskHandle} (h : HandleOf snapshots taskId handle)
    (h' : HandleOf snapshots taskId handle') : handle = handle' := by
  obtain ⟨snapshot, hmem, hid, rfl⟩ := h
  obtain ⟨snapshot', hmem', hid', rfl⟩ := h'
  have hget := (getElem?_byIdOf hdistinct).mpr ⟨hmem, hid⟩
  have hget' := (getElem?_byIdOf hdistinct).mpr ⟨hmem', hid'⟩
  rw [Option.some.inj (hget.symm.trans hget')]

/-- One id is resolved when it has a snapshot. -/
theorem resolveTaskHandle_iff (hsnapshots : runtime.taskSnapshots = .ok snapshots)
    (hdistinct : DistinctIds snapshots) {taskId : String} {handle : TaskHandle} :
    resolveTaskHandle runtime taskId = .ok handle ↔ HandleOf snapshots taskId handle := by
  constructor
  · intro h
    rw [resolveTaskHandle] at h
    split at h
    · exact nomatch h
    · exact nomatch h
    · rename_i first rest hfirst
      obtain rfl := Except.ok.inj h
      obtain ⟨-, hhandles⟩ := resolveTaskHandles_inv hsnapshots hdistinct hfirst
      exact (List.forall₂_cons.mp hhandles).1
  · intro h
    obtain ⟨snapshot, hmem, hid, -⟩ := id h
    obtain ⟨handles, hhandles⟩ := resolveTaskHandles_of_nodup hsnapshots hdistinct
      (List.nodup_singleton taskId) (List.forall_mem_singleton.mpr ⟨snapshot, hmem, hid⟩)
    obtain ⟨-, hfound⟩ := resolveTaskHandles_inv hsnapshots hdistinct hhandles
    rw [resolveTaskHandle, hhandles]
    cases hfound with
    | cons hfirst _ => exact congrArg Except.ok (hfirst.unique hdistinct h)

end Resolve

/-! ## Outcomes of one task and of many -/

/-- `task_states` answers for each handle, in order, what a `TaskOutcome` command
    answers for it, and it answers when each of these does. -/
structure HostRuntime.Lawful (runtime : HostRuntime) : Prop where
  states : ∀ handles states, runtime.taskStates handles = .ok states →
    List.Forall₂ (fun handle (state : HostTaskState) => state.handle = handle ∧
      runtime.dispatchTaskOutcome handle = .ok (.taskOutcome state.outcome)) handles states
  total : ∀ handles, (∀ handle ∈ handles, ∃ outcome,
      runtime.dispatchTaskOutcome handle = .ok (.taskOutcome outcome)) →
    ∃ states, runtime.taskStates handles = .ok states

/-- The result for a list of ids agrees with the results for each of them: it has
    their views in order, and it is there when they are. -/
structure Agrees (runtime : HostRuntime) (taskIds : List String)
    (result : Except ControlError (List TaskOutcomeView)) : Prop where
  views : ∀ views, result = .ok views →
    List.Forall₂ (fun taskId view => taskOutcome (some runtime) taskId = .ok view) taskIds views
  total : taskIds ≠ [] →
    (∀ taskId ∈ taskIds, ∃ view, taskOutcome (some runtime) taskId = .ok view) →
    ∃ views, result = .ok views

section Outcomes

variable {runtime : HostRuntime} {snapshots : List HostTaskSnapshot} {taskIds : List String}
  {handles : List TaskHandle} {states : List HostTaskState}

/-- `task_outcome` shows what the handle of the id stands for. -/
theorem taskOutcome_ok_iff (hsnapshots : runtime.taskSnapshots = .ok snapshots)
    (hdistinct : DistinctIds snapshots) {taskId : String} {view : TaskOutcomeView} :
    taskOutcome (some runtime) taskId = .ok view ↔
      ∃ handle outcome, HandleOf snapshots taskId handle ∧
        runtime.dispatchTaskOutcome handle = .ok (.taskOutcome outcome) ∧
        view = toControlTaskOutcome handle.taskId outcome := by
  constructor
  · intro h
    rw [taskOutcome] at h
    split at h
    · exact nomatch h
    · rename_i handle hhandle
      split at h
      · rename_i outcome houtcome
        exact ⟨handle, outcome, (resolveTaskHandle_iff hsnapshots hdistinct).mp hhandle, houtcome,
          (Except.ok.inj h).symm⟩
      · exact nomatch h
      · exact nomatch h
  · rintro ⟨handle, outcome, hhandle, houtcome, rfl⟩
    have hresolved := (resolveTaskHandle_iff hsnapshots hdistinct).mpr hhandle
    simp only [taskOutcome, hresolved, houtcome]

/-- The states of resolved handles are what `task_outcome` shows. -/
theorem views_agree (hlawful : runtime.Lawful) (hsnapshots : runtime.taskSnapshots = .ok snapshots)
    (hdistinct : DistinctIds snapshots)
    (hhandles : List.Forall₂ (HandleOf snapshots) taskIds handles)
    (hstates : runtime.taskStates handles = .ok states) :
    List.Forall₂ (fun taskId view => taskOutcome (some runtime) taskId = .ok view) taskIds
      (states.map (·.view)) := by
  have hpointwise := hlawful.states handles states hstates
  clear hstates
  induction hhandles generalizing states with
  | nil =>
      cases hpointwise
      exact .nil
  | @cons taskId handle taskIds handles hhandle _ ih =>
      cases hpointwise with
      | cons hstate hrest =>
          refine .cons ?_ (ih hrest)
          obtain ⟨rfl, houtcome⟩ := hstate
          exact (taskOutcome_ok_iff hsnapshots hdistinct).mpr ⟨_, _, hhandle, houtcome, rfl⟩

/-- The states of resolved handles are there when `task_outcome` shows each. -/
theorem states_total (hlawful : runtime.Lawful) (hsnapshots : runtime.taskSnapshots = .ok snapshots)
    (hdistinct : DistinctIds snapshots)
    (hhandles : List.Forall₂ (HandleOf snapshots) taskIds handles)
    (hviews : ∀ taskId ∈ taskIds, ∃ view, taskOutcome (some runtime) taskId = .ok view) :
    ∃ states, runtime.taskStates handles = .ok states := by
  refine hlawful.total handles fun handle hmem => ?_
  obtain ⟨taskId, htaskId, hhandle⟩ := ListUpdate.exists_partner hhandles.flip hmem
  obtain ⟨view, hview⟩ := hviews taskId htaskId
  obtain ⟨handle', outcome, hhandle', houtcome, -⟩ :=
    (taskOutcome_ok_iff hsnapshots hdistinct).mp hview
  obtain rfl := HandleOf.unique hdistinct hhandle hhandle'
  exact ⟨outcome, houtcome⟩

/-- An id that `task_outcome` shows has a snapshot. -/
theorem exists_snapshot (hsnapshots : runtime.taskSnapshots = .ok snapshots)
    (hdistinct : DistinctIds snapshots) {taskId : String} {view : TaskOutcomeView}
    (h : taskOutcome (some runtime) taskId = .ok view) :
    ∃ snapshot ∈ snapshots, snapshot.taskId = taskId := by
  obtain ⟨handle, outcome, ⟨snapshot, hmem, hid, -⟩, -⟩ :=
    (taskOutcome_ok_iff hsnapshots hdistinct).mp h
  exact ⟨snapshot, hmem, hid⟩

end Outcomes

end ServiceTask
