import Mathlib.Algebra.Group.Nat.Defs
import MutsukiServiceHost.TransitionProofs

/-! # Event sources — the lifecycle of one source

    `run_source_actor` starts a source, watches its run future and its commands,
    and steers by the state it has written to the status itself.  Every answer of
    the source (it may panic, fail, end or hang at each call), every command and
    every use of the shutdown token by others is an event here, so a list of
    events is one behaviour of the source with one sequence of commands. -/

namespace ServiceEventSource

open Transition

/-! ## The status of a source -/

/-- The states that `run_source_actor` writes. -/
inductive SourceState where
  | starting
  | running
  | failed
  | restarting
  | stopping
  | stopped
  deriving DecidableEq, Repr

/-- `HostEventSourceHealth`. -/
inductive HostEventSourceHealth where
  | healthy
  | degraded (error : String)
  | unhealthy (error : String)
  deriving DecidableEq, Repr

/-- `HostEventSourceHealth::label`. -/
def HostEventSourceHealth.label : HostEventSourceHealth → String
  | .healthy => "healthy"
  | .degraded _ => "degraded"
  | .unhealthy _ => "unhealthy"

/-- The error that a health value carries. -/
def HostEventSourceHealth.error : HostEventSourceHealth → Option String
  | .healthy => none
  | .degraded error | .unhealthy error => some error

/-- The parts of a `HostEventSourceDescriptor` that the actor reads. -/
structure HostEventSourceDescriptor where
  sourceId : String
  pluginId : String
  instanceId : String
  deriving DecidableEq, Repr

/-- `EventSourceStatus`. -/
structure EventSourceStatus where
  sourceId : String
  pluginId : String
  instanceId : String
  state : SourceState
  health : String
  lastError : Option String
  reconnects : Nat
  lastEventUnixMs : Option Nat
  startedAtUnixMs : Option Nat
  deriving DecidableEq, Repr

/-- The largest `u32`. -/
def u32Max : Nat := 2 ^ 32 - 1

/-- `u32::saturating_add(1)`. -/
def saturatingSucc (n : Nat) : Nat := min (n + 1) u32Max

namespace EventSourceStatus

/-- `SourceStatus::new`. -/
def new (descriptor : HostEventSourceDescriptor) (now : Option Nat) : EventSourceStatus where
  sourceId := descriptor.sourceId
  pluginId := descriptor.pluginId
  instanceId := descriptor.instanceId
  state := .starting
  health := "unknown"
  lastError := none
  reconnects := 0
  lastEventUnixMs := none
  startedAtUnixMs := now

/-- `SourceStatus::set`. -/
def set (status : EventSourceStatus) (state : SourceState) : EventSourceStatus :=
  { status with state }

/-- `SourceStatus::fail`. -/
def fail (status : EventSourceStatus) (error : String) : EventSourceStatus :=
  { status with state := .failed, lastError := some error }

/-- `SourceStatus::update_health`. -/
def updateHealth (status : EventSourceStatus) (health : HostEventSourceHealth) :
    EventSourceStatus :=
  { status with health := health.label, lastError := health.error.or status.lastError }

/-- `SourceStatus::reconnect`. -/
def reconnect (status : EventSourceStatus) : EventSourceStatus :=
  { status with reconnects := saturatingSucc status.reconnects, state := .restarting }

/-- `SourceStatus::submitted`. -/
def submitted (status : EventSourceStatus) (now : Option Nat) : EventSourceStatus :=
  { status with lastEventUnixMs := now }

end EventSourceStatus

/-! ## What the source answers -/

/-- The payload of a panic. -/
inductive PanicPayload where
  | str (message : String)
  | string (message : String)
  | other
  deriving DecidableEq, Repr

/-- `panic_message`. -/
def panicMessage : PanicPayload → String
  | .str message | .string message => "event source panicked: " ++ message
  | .other => "event source panicked with a non-string payload"

/-- `safe_health` on what `health` does. -/
def safeHealth : Except PanicPayload HostEventSourceHealth → HostEventSourceHealth
  | .ok health => health
  | .error payload => .unhealthy (panicMessage payload)

/-- How a future of the source ends. -/
inductive Outcome where
  | ok
  | error (detail : String)
  | panicked (payload : PanicPayload)
  deriving DecidableEq, Repr

/-- The error of a run future that ends. -/
def Outcome.message : Outcome → String
  | .ok => "event source exited unexpectedly"
  | .error detail => detail
  | .panicked payload => panicMessage payload

/-- How `stop_source` ends. -/
inductive StopOutcome where
  /-- `shutdown` panics before it returns a future -/
  | callPanicked (payload : PanicPayload)
  | finished (outcome : Outcome)
  | timedOut
  deriving DecidableEq, Repr

/-- The outcome is that of the call, not of its future. -/
def StopOutcome.ofCall : StopOutcome → Bool
  | .callPanicked _ => true
  | .finished _ | .timedOut => false

/-- The status that `stop_source` leaves. -/
def EventSourceStatus.afterStop (graceful : Nat) (terminal : Bool) (status : EventSourceStatus) :
    StopOutcome → EventSourceStatus
  | .callPanicked payload | .finished (.panicked payload) => status.fail (panicMessage payload)
  | .finished .ok => if terminal then status.set .stopped else status
  | .finished (.error detail) => status.fail detail
  | .timedOut => status.fail ("shutdown timed out after " ++ toString graceful ++ " ms")

/-! ## The actor -/

/-- `SourceCommand`. -/
inductive SourceCommand where
  | restart
  | shutdown
  deriving DecidableEq, Repr

/-- The shutdown token of the latest run: its value, and how many hold it. -/
structure ShutdownToken where
  isSet : Bool
  holders : Nat
  deriving DecidableEq, Repr

/-- `watch::Sender::send(true)`, which changes nothing when nobody holds the
    token. -/
def ShutdownToken.send (token : ShutdownToken) : ShutdownToken :=
  if token.holders = 0 then token else { token with isSet := true }

/-- Where the actor is. -/
inductive Phase where
  /-- before a turn of the outer loop -/
  | top
  /-- in `start` -/
  | starting
  /-- the run future is there -/
  | started
  /-- in the inner loop -/
  | select
  /-- in `wait_command` -/
  | waiting
  /-- in `handle_command`, the status is written -/
  | signal (terminal waited : Bool)
  /-- in `shutdown`, the token is set -/
  | shutdown (terminal waited : Bool)
  /-- the shutdown future is awaited -/
  | stopping (terminal waited : Bool)
  | returned
  deriving DecidableEq, Repr

/-- `run_source_actor` for one source. -/
structure SourceActor where
  phase : Phase
  status : EventSourceStatus
  token : ShutdownToken
  deriving DecidableEq, Repr

/-- What others do with the token and the task submitter of a run. -/
inductive Outside where
  | cloneToken
  | dropToken
  | submitted (now : Option Nat)
  deriving DecidableEq, Repr

/-- What happens next. -/
inductive Event where
  | callStart
  | startReturned
  | startPanicked (payload : PanicPayload)
  | health (answer : Except PanicPayload HostEventSourceHealth)
  | ended (outcome : Outcome)
  /-- the answer of `recv`: no command when the channel is closed -/
  | command (command : Option SourceCommand)
  | callShutdown
  | shutdownReturned
  | stopped (outcome : StopOutcome)
  | outside (what : Outside)

/-- The phase after the inner loop. -/
def afterInner (status : EventSourceStatus) : Phase :=
  if status.state = .failed then .waiting else .top

/-- The phase after `stop_source`. -/
def afterStop (terminal waited : Bool) (status : EventSourceStatus) : Phase :=
  if terminal then .returned else if waited then .top else afterInner status

namespace SourceActor

/-- The actor when it is spawned. -/
def init (descriptor : HostEventSourceDescriptor) (now : Option Nat) : SourceActor :=
  ⟨.top, .new descriptor now, ⟨false, 0⟩⟩

/-- A failure that is written before the actor waits. -/
def failed (a : SourceActor) (phase : EventSourceStatus → Phase) (error : String) : SourceActor :=
  { a with phase := phase (a.status.fail error), status := a.status.fail error }

/-- The first line of `handle_command`. -/
def take (a : SourceActor) (waited : Bool) : Option SourceCommand → SourceActor
  | some .restart => { a with phase := .signal false waited, status := a.status.reconnect }
  -- a closed channel is a shutdown
  | some .shutdown | none =>
      { a with phase := .signal true waited, status := a.status.set .stopping }

/-- The end of `stop_source`. -/
def stop (graceful : Nat) (a : SourceActor) (terminal waited : Bool) (outcome : StopOutcome) :
    SourceActor :=
  let status := a.status.afterStop graceful terminal outcome
  { a with phase := ServiceEventSource.afterStop terminal waited status, status }

/-- What others do. -/
def outside (a : SourceActor) : Outside → SourceActor
  | .cloneToken =>
      -- who holds nothing has nothing to clone
      if a.token.holders = 0 then a
      else { a with token := { a.token with holders := a.token.holders + 1 } }
  | .dropToken => { a with token := { a.token with holders := a.token.holders - 1 } }
  | .submitted now => { a with status := a.status.submitted now }

end SourceActor

/-- One step of `run_source_actor`. -/
def step (graceful : Nat) (a : SourceActor) : Event → Option SourceActor
  | .outside what => some (a.outside what)
  | .callStart =>
      match a.phase with
      -- every run has a token of its own
      | .top => some ⟨.starting, a.status.set .starting, ⟨false, 1⟩⟩
      | _ => none
  | .startReturned =>
      match a.phase with
      | .starting => some { a with phase := .started }
      | _ => none
  | .startPanicked payload =>
      match a.phase with
      -- `start` panicked: nothing runs, and a command is awaited
      | .starting => some (a.failed (fun _ => .waiting) (panicMessage payload))
      | _ => none
  | .health answer =>
      match a.phase with
      | .started =>
          some { a with
            phase := .select
            status := (a.status.updateHealth (safeHealth answer)).set .running }
      | .select => some { a with status := a.status.updateHealth (safeHealth answer) }
      | _ => none
  | .ended outcome =>
      match a.phase with
      -- a run future that ends has failed, also when it returns `Ok`
      | .select => some (a.failed afterInner outcome.message)
      | _ => none
  | .command command =>
      match a.phase with
      | .select => some (a.take false command)
      | .waiting => some (a.take true command)
      | _ => none
  | .callShutdown =>
      match a.phase with
      | .signal terminal waited =>
          some { a with phase := .shutdown terminal waited, token := a.token.send }
      | _ => none
  | .shutdownReturned =>
      match a.phase with
      | .shutdown terminal waited => some { a with phase := .stopping terminal waited }
      | _ => none
  | .stopped outcome =>
      match a.phase with
      | .shutdown terminal waited =>
          -- a panic of the call, before there is a future
          if outcome.ofCall then some (a.stop graceful terminal waited outcome) else none
      | .stopping terminal waited =>
          if outcome.ofCall then none else some (a.stop graceful terminal waited outcome)
      | _ => none

/-! ## What a step can do -/

section Steps

variable {graceful : Nat} {a a' : SourceActor} {e : Event}

/-- The steps, one constructor for each. -/
inductive Move (graceful : Nat) (a : SourceActor) : Event → SourceActor → Prop where
  | outside (what : Outside) : Move graceful a (.outside what) (a.outside what)
  | callStart : a.phase = .top →
      Move graceful a .callStart ⟨.starting, a.status.set .starting, ⟨false, 1⟩⟩
  | startReturned : a.phase = .starting →
      Move graceful a .startReturned { a with phase := .started }
  | startPanicked (payload : PanicPayload) : a.phase = .starting →
      Move graceful a (.startPanicked payload)
        { a with phase := .waiting, status := a.status.fail (panicMessage payload) }
  | running (answer : Except PanicPayload HostEventSourceHealth) : a.phase = .started →
      Move graceful a (.health answer)
        { a with
          phase := .select
          status := (a.status.updateHealth (safeHealth answer)).set .running }
  | tick (answer : Except PanicPayload HostEventSourceHealth) : a.phase = .select →
      Move graceful a (.health answer)
        { a with status := a.status.updateHealth (safeHealth answer) }
  | ended (outcome : Outcome) : a.phase = .select →
      Move graceful a (.ended outcome)
        { a with phase := .waiting, status := a.status.fail outcome.message }
  | command (waited : Bool) (command : Option SourceCommand) :
      a.phase = (if waited then .waiting else .select) →
      Move graceful a (.command command) (a.take waited command)
  | callShutdown (terminal waited : Bool) : a.phase = .signal terminal waited →
      Move graceful a .callShutdown
        { a with phase := .shutdown terminal waited, token := a.token.send }
  | shutdownReturned (terminal waited : Bool) : a.phase = .shutdown terminal waited →
      Move graceful a .shutdownReturned { a with phase := .stopping terminal waited }
  | stopped (terminal waited : Bool) (outcome : StopOutcome) :
      a.phase = .shutdown terminal waited ∨ a.phase = .stopping terminal waited →
      Move graceful a (.stopped outcome) (a.stop graceful terminal waited outcome)

theorem step_move (h : step graceful a e = some a') : Move graceful a e a' := by
  cases e with
  | outside what =>
      rw [← Option.some.inj h]
      exact .outside what
  | callStart =>
      rw [step] at h
      split at h
      · rw [← Option.some.inj h]
        exact .callStart ‹_›
      · exact nomatch h
  | startReturned =>
      rw [step] at h
      split at h
      · rw [← Option.some.inj h]
        exact .startReturned ‹_›
      · exact nomatch h
  | startPanicked payload =>
      rw [step] at h
      split at h
      · rw [← Option.some.inj h]
        exact .startPanicked payload ‹_›
      · exact nomatch h
  | health answer =>
      rw [step] at h
      split at h
      · rw [← Option.some.inj h]
        exact .running answer ‹_›
      · rw [← Option.some.inj h]
        exact .tick answer ‹_›
      · exact nomatch h
  | ended outcome =>
      rw [step] at h
      split at h
      · rw [← Option.some.inj h]
        exact .ended outcome ‹_›
      · exact nomatch h
  | command command =>
      rw [step] at h
      split at h
      · rw [← Option.some.inj h]
        exact .command false command ‹_›
      · rw [← Option.some.inj h]
        exact .command true command ‹_›
      · exact nomatch h
  | callShutdown =>
      rw [step] at h
      split at h
      · rename_i terminal waited hp
        rw [← Option.some.inj h]
        exact .callShutdown terminal waited hp
      · exact nomatch h
  | shutdownReturned =>
      rw [step] at h
      split at h
      · rename_i terminal waited hp
        rw [← Option.some.inj h]
        exact .shutdownReturned terminal waited hp
      · exact nomatch h
  | stopped outcome =>
      rw [step] at h
      split at h
      · rename_i terminal waited hp
        obtain ⟨-, h⟩ := Option.ite_none_right_eq_some.mp h
        rw [← Option.some.inj h]
        exact .stopped terminal waited outcome (.inl hp)
      · rename_i terminal waited hp
        obtain ⟨-, h⟩ := Option.ite_none_left_eq_some.mp h
        rw [← Option.some.inj h]
        exact .stopped terminal waited outcome (.inr hp)
      · exact nomatch h

/-- `stop_source` succeeds or leaves a failure. -/
theorem afterStop_cases (graceful : Nat) (terminal : Bool) (status : EventSourceStatus)
    (outcome : StopOutcome) :
    (outcome = .finished .ok ∧ status.afterStop graceful terminal outcome =
      if terminal then status.set .stopped else status) ∨
    (outcome ≠ .finished .ok ∧ ∃ error, status.afterStop graceful terminal outcome =
      status.fail error) := by
  cases outcome with
  | callPanicked payload => exact .inr ⟨nofun, _, rfl⟩
  | timedOut => exact .inr ⟨nofun, _, rfl⟩
  | finished outcome =>
      cases outcome with
      | ok => exact .inl ⟨rfl, rfl⟩
      | error detail => exact .inr ⟨nofun, _, rfl⟩
      | panicked payload => exact .inr ⟨nofun, _, rfl⟩

theorem afterInner_fail (status : EventSourceStatus) (error : String) :
    afterInner (status.fail error) = .waiting := if_pos rfl

/-! ## The status says where the actor is -/

/-- The states that the status can have in a phase. -/
def Phase.Shows : Phase → SourceState → Prop
  | .top, state => state = .starting ∨ state = .restarting ∨ state = .failed
  | .starting, state | .started, state => state = .starting
  | .select, state => state = .running
  | .waiting, state => state = .failed
  | .signal terminal _, state | .shutdown terminal _, state | .stopping terminal _, state =>
      state = if terminal then .stopping else .restarting
  | .returned, state => state = .stopped ∨ state = .failed

theorem Phase.Shows.running {phase : Phase} (h : phase.Shows .running) : phase = .select := by
  cases phase with
  | select => rfl
  | top | returned => simp [Phase.Shows] at h
  | starting | started | waiting => exact nomatch h
  | signal terminal waited | shutdown terminal waited | stopping terminal waited =>
      cases terminal <;> exact nomatch h

theorem SourceActor.take_shows (a : SourceActor) (waited : Bool) (command : Option SourceCommand) :
    (a.take waited command).phase.Shows (a.take waited command).status.state := by
  match command with
  | none => rfl
  | some .shutdown => rfl
  | some .restart => rfl

/-- After a restart that was taken in the inner loop the actor waits, unless
    `stop_source` has succeeded. -/
theorem SourceActor.stop_phase (graceful : Nat) (outcome : StopOutcome)
    (h : a.status.state = .restarting) :
    (a.stop graceful false false outcome).phase =
      if outcome = .finished .ok then .top else .waiting := by
  obtain ⟨hok, hstatus⟩ | ⟨hne, error, hstatus⟩ := afterStop_cases graceful false
    a.status outcome
  · show afterInner (a.status.afterStop graceful false outcome) = _
    rw [hstatus, if_pos hok]
    exact if_neg (by rw [if_neg Bool.false_ne_true, h]; exact nofun)
  · show afterInner (a.status.afterStop graceful false outcome) = _
    rw [hstatus, if_neg hne, afterInner_fail]

theorem SourceActor.stop_shows {terminal waited : Bool} (outcome : StopOutcome)
    (h : a.status.state = if terminal then .stopping else .restarting) :
    (a.stop graceful terminal waited outcome).phase.Shows
      (a.stop graceful terminal waited outcome).status.state := by
  obtain ⟨hok, hstatus⟩ | ⟨hne, error, hstatus⟩ := afterStop_cases graceful terminal
    a.status outcome
  · have hstate : (a.stop graceful terminal waited outcome).status.state =
        if terminal then .stopped else .restarting := by
      show (a.status.afterStop graceful terminal outcome).state = _
      rw [hstatus]
      cases terminal with
      | true => rfl
      | false => exact h
    rw [hstate]
    cases terminal with
    | true => exact .inl rfl
    | false =>
        cases waited with
        | true => exact .inr (.inl rfl)
        | false =>
            rw [SourceActor.stop_phase graceful outcome h, if_pos hok]
            exact .inr (.inl rfl)
  · have hstate : (a.stop graceful terminal waited outcome).status.state = .failed := by
      show (a.status.afterStop graceful terminal outcome).state = _
      rw [hstatus]
      rfl
    rw [hstate]
    cases terminal with
    | true => exact .inr rfl
    | false =>
        cases waited with
        | true => exact .inr (.inr rfl)
        | false =>
            rw [SourceActor.stop_phase graceful outcome h, if_neg hne]
            rfl

theorem SourceActor.outside_phase (a : SourceActor) (what : Outside) :
    (a.outside what).phase = a.phase := by
  cases what with
  | cloneToken =>
      rw [SourceActor.outside]
      split <;> rfl
  | dropToken | submitted => rfl

theorem SourceActor.outside_status (a : SourceActor) (what : Outside) :
    (a.outside what).status.state = a.status.state ∧
      (a.outside what).status.lastError = a.status.lastError ∧
      (a.outside what).status.reconnects = a.status.reconnects := by
  cases what with
  | cloneToken =>
      rw [SourceActor.outside]
      split <;> exact ⟨rfl, rfl, rfl⟩
  | dropToken | submitted => exact ⟨rfl, rfl, rfl⟩

theorem Move.shows (m : Move graceful a e a') (h : a.phase.Shows a.status.state) :
    a'.phase.Shows a'.status.state := by
  cases m with
  | outside what =>
      rw [SourceActor.outside_phase, (a.outside_status what).1]
      exact h
  | callStart | running => rfl
  | startReturned hp =>
      rw [hp] at h
      exact h
  | startPanicked | ended => rfl
  | tick answer hp =>
      rw [hp] at h
      show a.phase.Shows a.status.state
      rw [hp]
      exact h
  | command waited command => exact a.take_shows waited command
  | callShutdown terminal waited hp | shutdownReturned terminal waited hp =>
      rw [hp] at h
      exact h
  | stopped terminal waited outcome hp =>
      obtain hp | hp := hp
      · rw [hp] at h
        exact SourceActor.stop_shows outcome h
      · rw [hp] at h
        exact SourceActor.stop_shows outcome h

/-- A failure that is reported has an error. -/
def HasError (status : EventSourceStatus) : Prop :=
  status.state = .failed → ∃ error, status.lastError = some error

theorem HasError.set {state : SourceState} (status : EventSourceStatus) (h : state ≠ .failed) :
    HasError (status.set state) := fun hfailed => absurd hfailed h

theorem HasError.fail (status : EventSourceStatus) (error : String) :
    HasError (status.fail error) :=
  fun _ => ⟨error, rfl⟩

theorem HasError.updateHealth {status : EventSourceStatus} (h : HasError status)
    (health : HostEventSourceHealth) : HasError (status.updateHealth health) := by
  intro hfailed
  obtain ⟨error, herror⟩ := h hfailed
  rw [EventSourceStatus.updateHealth, herror]
  cases health.error with
  | none => exact ⟨error, rfl⟩
  | some other => exact ⟨other, rfl⟩

theorem HasError.afterStop {status : EventSourceStatus} (h : HasError status) (terminal : Bool)
    (outcome : StopOutcome) : HasError (status.afterStop graceful terminal outcome) := by
  obtain ⟨-, hstatus⟩ | ⟨-, error, hstatus⟩ := afterStop_cases graceful terminal
    status outcome
  · rw [hstatus]
    cases terminal with
    | true => exact .set status nofun
    | false => exact h
  · rw [hstatus]
    exact .fail status error

theorem Move.hasError (m : Move graceful a e a') (h : HasError a.status) : HasError a'.status := by
  cases m with
  | outside what =>
      obtain ⟨hstate, herror, -⟩ := a.outside_status what
      rw [HasError, hstate, herror]
      exact h
  | callStart | running => exact .set _ nofun
  | startPanicked | ended => exact .fail _ _
  | startReturned | callShutdown | shutdownReturned => exact h
  | tick answer => exact h.updateHealth _
  | command waited command =>
      match command with
      | none => exact .set _ nofun
      | some .shutdown => exact .set _ nofun
      | some .restart => exact fun hfailed => nomatch hfailed
  | stopped terminal waited outcome => exact h.afterStop terminal outcome

end Steps

/-! ## Histories -/

section Histories

variable {graceful : Nat} {a a' : SourceActor} {e : Event} {es : List Event}

/-- A call of `start`. -/
def Event.isStart : Event → Bool
  | .callStart => true
  | _ => false

/-- A command is taken, or the channel is seen to be closed. -/
def Event.isCommand : Event → Bool
  | .command _ => true
  | _ => false

/-- A Restart command is taken. -/
def Event.isRestart : Event → Bool
  | .command (some .restart) => true
  | _ => false

/-- The run future is seen to end. -/
def Event.isEnded : Event → Bool
  | .ended _ => true
  | _ => false

/-- `stop_source` ends. -/
def Event.isStopped : Event → Bool
  | .stopped _ => true
  | _ => false

/-- A step of the actor itself. -/
def Event.own : Event → Bool
  | .outside _ => false
  | _ => true

/-- The latest run future has not been seen to end, and no command has been taken
    since `start` returned it. -/
def Undisturbed (es : List Event) : Prop :=
  ∃ pre post, es = pre ++ .startReturned :: post ∧
    ∀ e ∈ post, e.isStart = false ∧ e.isEnded = false ∧ e.isCommand = false

theorem Undisturbed.concat (h : Undisturbed es)
    (he : e.isStart = false ∧ e.isEnded = false ∧ e.isCommand = false) :
    Undisturbed (es ++ [e]) := by
  obtain ⟨pre, post, rfl, hpost⟩ := h
  refine ⟨pre, post ++ [e], by rw [List.append_assoc, List.cons_append], fun e' he' => ?_⟩
  obtain hmem | hmem := List.mem_append.mp he'
  · exact hpost e' hmem
  · rw [List.mem_singleton.mp hmem]
    exact he

/-- In these phases a run future is there and watched. -/
def Phase.watches : Phase → Prop
  | .started | .select => True
  | _ => False

theorem SourceActor.stop_unwatched (a : SourceActor) (terminal waited : Bool)
    (outcome : StopOutcome) : ¬ (a.stop graceful terminal waited outcome).phase.watches := by
  simp only [SourceActor.stop, afterStop, afterInner]
  split
  · exact id
  · split
    · exact id
    · split
      · exact id
      · exact id

theorem Move.undisturbed (m : Move graceful a e a') (h : a.phase.watches → Undisturbed es)
    (hwatch : a'.phase.watches) : Undisturbed (es ++ [e]) := by
  cases m with
  | outside what =>
      rw [SourceActor.outside_phase] at hwatch
      exact (h hwatch).concat ⟨rfl, rfl, rfl⟩
  | startReturned => exact ⟨es, [], rfl, List.forall_mem_nil _⟩
  | running answer hp | tick answer hp =>
      rw [hp] at h
      exact (h trivial).concat ⟨rfl, rfl, rfl⟩
  | callStart | startPanicked | ended | callShutdown | shutdownReturned => exact hwatch.elim
  | command waited command =>
      match command with
      | none => exact hwatch.elim
      | some .shutdown => exact hwatch.elim
      | some .restart => exact hwatch.elim
  | stopped terminal waited outcome =>
      exact absurd hwatch (a.stop_unwatched terminal waited outcome)

theorem u32Max_saturates (n : Nat) : saturatingSucc (min n u32Max) = min (n + 1) u32Max := by
  rw [saturatingSucc]
  omega

/-- The counter after a step. -/
theorem Move.reconnects (m : Move graceful a e a')
    (h : a.status.reconnects = min (es.countP Event.isRestart) u32Max) :
    a'.status.reconnects = min ((es ++ [e]).countP Event.isRestart) u32Max := by
  rw [List.countP_append, List.countP_singleton]
  cases m with
  | outside what =>
      rw [(a.outside_status what).2.2]
      exact h
  | callStart | startReturned | startPanicked | running | tick | ended | callShutdown
  | shutdownReturned => exact h
  | command waited command =>
      match command with
      | none => exact h
      | some .shutdown => exact h
      | some .restart =>
          show saturatingSucc a.status.reconnects = _
          rw [h, u32Max_saturates]
          rfl
  | stopped terminal waited outcome =>
      show (a.status.afterStop graceful terminal outcome).reconnects = _
      obtain ⟨-, hstatus⟩ | ⟨-, error, hstatus⟩ := afterStop_cases graceful terminal
        a.status outcome
      · rw [hstatus]
        cases terminal <;> exact h
      · rw [hstatus]
        exact h

/-- In these phases `shutdown` has been called for the latest run. -/
def Phase.hasStopped : Phase → Prop
  | .top | .shutdown _ _ | .stopping _ _ => True
  | _ => False

/-- The token of the latest run is set, or nobody holds it. -/
def ShutdownToken.Released (token : ShutdownToken) : Prop :=
  token.isSet = true ∨ token.holders = 0

theorem ShutdownToken.send_released (token : ShutdownToken) : token.send.Released := by
  rw [ShutdownToken.send]
  split
  · exact .inr ‹_›
  · exact .inl rfl

theorem SourceActor.outside_released (what : Outside) (h : a.token.Released) :
    (a.outside what).token.Released := by
  cases what with
  | cloneToken =>
      rw [SourceActor.outside]
      split
      · exact h
      · rename_i hholders
        exact h.imp id fun hzero => absurd hzero hholders
  | dropToken =>
      refine h.imp id fun hzero => ?_
      show a.token.holders - 1 = 0
      rw [hzero]
  | submitted now => exact h

/-- Since a call of `start` the run has been stopped, when the actor is past it. -/
theorem Move.hasStopped (m : Move graceful a e a')
    (h : a.phase.hasStopped → .callShutdown ∈ es ∧ a.token.Released)
    (hstopped : a'.phase.hasStopped) : .callShutdown ∈ es ++ [e] ∧ a'.token.Released := by
  have hkept : a.phase.hasStopped → a'.token = a.token →
      .callShutdown ∈ es ++ [e] ∧ a'.token.Released := by
    intro hbefore htoken
    obtain ⟨hmem, hreleased⟩ := h hbefore
    rw [htoken]
    exact ⟨List.mem_append_left _ hmem, hreleased⟩
  cases m with
  | outside what =>
      rw [SourceActor.outside_phase] at hstopped
      obtain ⟨hmem, hreleased⟩ := h hstopped
      exact ⟨List.mem_append_left _ hmem, SourceActor.outside_released what hreleased⟩
  | callStart | startReturned | startPanicked | running | ended => exact hstopped.elim
  | tick answer hp =>
      have hstopped : a.phase.hasStopped := hstopped
      rw [hp] at hstopped
      exact hstopped.elim
  | command waited command =>
      match command with
      | none => exact hstopped.elim
      | some .shutdown => exact hstopped.elim
      | some .restart => exact hstopped.elim
  | callShutdown =>
      exact ⟨List.mem_append_right _ (List.mem_singleton_self _), a.token.send_released⟩
  | shutdownReturned terminal waited hp => exact hkept (by rw [hp]; trivial) rfl
  | stopped terminal waited outcome hp =>
      obtain hp | hp := hp
      · exact hkept (by rw [hp]; trivial) rfl
      · exact hkept (by rw [hp]; trivial) rfl

end Histories

/-! ## What comes next -/

section Ahead

variable {graceful : Nat} {a a' : SourceActor} {e : Event} {es : List Event}

/-- `start` is called without a further command. -/
def StartsNext (graceful : Nat) (a : SourceActor) : Prop :=
  LeadsTo (step graceful) Event.own Event.isCommand Event.isStart 3 a

/-- `stop_source` ends without a further command or start. -/
def Settles (graceful : Nat) (a : SourceActor) : Prop :=
  LeadsTo (step graceful) Event.own (fun e => e.isCommand || e.isStart) Event.isStopped 3 a

/-- `start` is not called before a further command. -/
def AwaitsCommand (graceful : Nat) (a : SourceActor) : Prop :=
  ∀ es b, Trace (step graceful) a es b → (∀ e ∈ es, e.isCommand = false) →
    ∀ e ∈ es, e.isStart = false

/-- The steps of its own that the actor makes before it is at the outer loop. -/
def Phase.rank : Phase → Nat
  | .signal _ _ => 3
  | .shutdown _ _ => 2
  | .stopping _ _ => 1
  | _ => 0

/-- In these phases the actor handles a command that it took in `wait_command`
    or in the inner loop. -/
def Phase.handles (terminal waited : Bool) (phase : Phase) : Prop :=
  phase = .signal terminal waited ∨ phase = .shutdown terminal waited ∨
    phase = .stopping terminal waited

theorem Phase.rank_le (phase : Phase) : phase.rank ≤ 3 := by
  cases phase <;> simp [Phase.rank]

theorem Phase.handles.rank_pos {terminal waited : Bool} {phase : Phase}
    (h : phase.handles terminal waited) : 0 < phase.rank := by
  obtain rfl | rfl | rfl := h <;> simp [Phase.rank]

theorem exists_step_of_handles {terminal waited : Bool} (graceful : Nat)
    (h : a.phase.handles terminal waited) : ∃ e a', e.own = true ∧ e.isCommand = false ∧
      e.isStart = false ∧ step graceful a e = some a' := by
  obtain hp | hp | hp := h
  · exact ⟨.callShutdown, _, rfl, rfl, rfl, by rw [step, hp]⟩
  · exact ⟨.shutdownReturned, _, rfl, rfl, rfl, by rw [step, hp]⟩
  · exact ⟨.stopped .timedOut, _, rfl, rfl, rfl, by rw [step, hp]; rfl⟩

/-- A command that is handled is handled to the end. -/
theorem Move.of_handles {terminal waited : Bool} (m : Move graceful a e a')
    (h : a.phase.handles terminal waited) : e.isCommand = false ∧ e.isStart = false ∧
      ((∃ outcome, e = .stopped outcome ∧ a' = a.stop graceful terminal waited outcome) ∨
        (e.isStopped = false ∧ a'.phase.handles terminal waited ∧ a'.phase.rank ≤ a.phase.rank ∧
          (e.own = true → a'.phase.rank < a.phase.rank))) := by
  cases m with
  | outside what =>
      rw [SourceActor.outside_phase]
      exact ⟨rfl, rfl, .inr ⟨rfl, h, Nat.le_refl _, nofun⟩⟩
  | callStart hp | startReturned hp | startPanicked _ hp | running _ hp | tick _ hp | ended _ hp =>
      simp [Phase.handles, hp] at h
  | command waited' command hp => cases waited' <;> simp [Phase.handles, hp] at h
  | callShutdown terminal' waited' hp =>
      obtain ⟨rfl, rfl⟩ : terminal' = terminal ∧ waited' = waited := by
        simpa [Phase.handles, hp] using h
      rw [hp]
      exact ⟨rfl, rfl, .inr ⟨rfl, .inr (.inl rfl), Nat.le_succ _, fun _ => Nat.lt_succ_self _⟩⟩
  | shutdownReturned terminal' waited' hp =>
      obtain ⟨rfl, rfl⟩ : terminal' = terminal ∧ waited' = waited := by
        simpa [Phase.handles, hp] using h
      rw [hp]
      exact ⟨rfl, rfl, .inr ⟨rfl, .inr (.inr rfl), Nat.le_succ _, fun _ => Nat.lt_succ_self _⟩⟩
  | stopped terminal' waited' outcome hp =>
      obtain ⟨rfl, rfl⟩ : terminal' = terminal ∧ waited' = waited := by
        obtain hp | hp := hp <;> simpa [Phase.handles, hp] using h
      exact ⟨rfl, rfl, .inl ⟨outcome, rfl, rfl⟩⟩

theorem settles_of_handles {terminal waited : Bool} (h : a.phase.handles terminal waited) :
    Settles graceful a := by
  refine leadsTo_of_rank (fun a => a.phase.handles terminal waited) (fun a => a.phase.rank) ?_ ?_ h
    a.phase.rank_le
  · intro b hb
    obtain ⟨e, b', hown, hcommand, hstart, hs⟩ := exists_step_of_handles graceful hb
    exact ⟨e, b', hown, by rw [hcommand, hstart]; rfl, hs⟩
  · intro b e b' hb hs hgoal
    obtain ⟨hcommand, hstart, ⟨outcome, rfl, -⟩ | ⟨-, hlater⟩⟩ := (step_move hs).of_handles hb
    · exact nomatch hgoal
    · exact ⟨by rw [hcommand, hstart]; rfl, hlater⟩

/-- An event of the surroundings is no command and no start. -/
theorem Event.of_not_own (h : e.own = false) : e.isCommand = false ∧ e.isStart = false := by
  cases e with
  | outside => exact ⟨rfl, rfl⟩
  | _ => exact nomatch h

/-- In these phases the actor can at most take a command or call `start`. -/
theorem Move.of_idle (m : Move graceful a e a')
    (h : a.phase = .top ∨ a.phase = .waiting ∨ a.phase = .returned) :
    (e.own = false ∧ a'.phase = a.phase) ∨ (e.isStart = true ∧ a.phase = .top) ∨
      (e.isCommand = true ∧ a.phase = .waiting) := by
  cases m with
  | outside what => exact .inl ⟨rfl, a.outside_phase what⟩
  | callStart hp => exact .inr (.inl ⟨rfl, hp⟩)
  | command waited command hp =>
      cases waited with
      | true => exact .inr (.inr ⟨rfl, hp⟩)
      | false => simp [hp] at h
  | startReturned hp | startPanicked _ hp | running _ hp | tick _ hp | ended _ hp
  | callShutdown _ _ hp | shutdownReturned _ _ hp => simp [hp] at h
  | stopped _ _ _ hp => obtain hp | hp := hp <;> simp [hp] at h

/-- A restart that was taken in `wait_command` leads to the outer loop, and that
    to `start`. -/
theorem startsNext_of_phase (h : a.phase = .top ∨ a.phase.handles false true) :
    StartsNext graceful a := by
  refine leadsTo_of_rank (fun a => a.phase = .top ∨ a.phase.handles false true)
    (fun a => a.phase.rank) ?_ ?_ h a.phase.rank_le
  · rintro b (hp | hb)
    · exact ⟨.callStart, _, rfl, rfl, by rw [step, hp]⟩
    · obtain ⟨e, b', hown, hcommand, -, hs⟩ := exists_step_of_handles graceful hb
      exact ⟨e, b', hown, hcommand, hs⟩
  · rintro b e b' (hp | hb) hs hgoal
    · obtain ⟨hown, hphase⟩ | ⟨hstart, -⟩ | ⟨-, hwaiting⟩ := (step_move hs).of_idle (.inl hp)
      · refine ⟨(Event.of_not_own hown).1, .inl (hphase.trans hp), ?_, fun h => ?_⟩
        · exact Nat.le_of_eq (congrArg Phase.rank hphase)
        · exact nomatch hown.symm.trans h
      · exact nomatch hgoal.symm.trans hstart
      · exact nomatch hp.symm.trans hwaiting
    · obtain ⟨hcommand, -, ⟨outcome, rfl, rfl⟩ | ⟨-, hhandles, hrank⟩⟩ :=
        (step_move hs).of_handles hb
      · exact ⟨rfl, .inl rfl, Nat.zero_le _, fun _ => hb.rank_pos⟩
      · exact ⟨hcommand, .inr hhandles, hrank⟩

/-- In `wait_command` only a command helps. -/
theorem Move.of_waiting (m : Move graceful a e a') (hp : a.phase = .waiting) :
    e.isCommand = true ∨ e.own = false ∧ a'.phase = .waiting := by
  obtain ⟨hown, hphase⟩ | ⟨-, htop⟩ | ⟨hcommand, -⟩ := m.of_idle (.inr (.inl hp))
  · exact .inr ⟨hown, hphase.trans hp⟩
  · exact nomatch hp.symm.trans htop
  · exact .inl hcommand

theorem awaitsCommand_of_waiting (hp : a.phase = .waiting) : AwaitsCommand graceful a := by
  intro es b h hcommands
  have hall : (∀ e ∈ es, e.isCommand = false) →
      b.phase = .waiting ∧ ∀ e ∈ es, e.isStart = false := by
    refine h.invariant (fun es b => (∀ e ∈ es, e.isCommand = false) →
      b.phase = .waiting ∧ ∀ e ∈ es, e.isStart = false) ?_ ?_
    · exact fun _ => ⟨hp, List.forall_mem_nil _⟩
    · intro es b e b' ih hs hcommands
      obtain ⟨hwaiting, hstarts⟩ := ih fun e he => hcommands e (List.mem_append_left _ he)
      have hcommand := hcommands e (List.mem_append_right _ (List.mem_singleton_self e))
      obtain htaken | ⟨hown, hwaiting'⟩ := (step_move hs).of_waiting hwaiting
      · exact nomatch htaken.symm.trans hcommand
      · refine ⟨hwaiting', List.forall_mem_append.mpr ⟨hstarts, List.forall_mem_singleton.mpr ?_⟩⟩
        exact (Event.of_not_own hown).2
  exact (hall hcommands).2

/-- There is no start without a command from `wait_command`. -/
theorem not_startsNext_of_waiting (hp : a.phase = .waiting) : ¬ StartsNext graceful a := by
  intro h
  obtain ⟨-, -, e, a', hown, hcommand, hs⟩ := h [] a (trace_nil.mpr rfl) (List.forall_mem_nil _)
  obtain htaken | ⟨hnot, -⟩ := (step_move hs).of_waiting hp
  · exact nomatch htaken.symm.trans hcommand
  · exact nomatch hnot.symm.trans hown

end Ahead

/-! ## The lifecycle -/

section Lifecycle

variable {graceful : Nat} {a a' : SourceActor} {e : Event} {es : List Event}

theorem shows_of_trace (h : Trace (step graceful) a es a') (ha : a.phase.Shows a.status.state) :
    a'.phase.Shows a'.status.state :=
  h.invariant (fun _ a => a.phase.Shows a.status.state) ha
    fun _ _ _ _ ih hs => (step_move hs).shows ih

/-- Until `stop_source` ends the command is handled. -/
theorem handles_of_trace {terminal waited : Bool} (h : Trace (step graceful) a es a')
    (ha : a.phase.handles terminal waited) (hes : ∀ e ∈ es, e.isStopped = false) :
    a'.phase.handles terminal waited := by
  refine h.invariant (fun es a => (∀ e ∈ es, e.isStopped = false) →
    a.phase.handles terminal waited) (fun _ => ha) (fun es b e b' ih hs hes => ?_) hes
  obtain ⟨hes, he⟩ := List.forall_mem_append.mp hes
  obtain ⟨-, -, ⟨outcome, rfl, -⟩ | ⟨-, hhandles, -⟩⟩ := (step_move hs).of_handles (ih hes)
  · exact nomatch he _ (List.mem_singleton_self _)
  · exact hhandles

/-- After a last command there is no start. -/
theorem no_start_of_terminal (waited : Bool) (h : Trace (step graceful) a es a')
    (ha : a.phase.handles true waited) : ∀ e ∈ es, e.isStart = false := by
  refine (h.invariant (fun es a => (a.phase = .returned ∨ a.phase.handles true waited) ∧
    ∀ e ∈ es, e.isStart = false) ⟨.inr ha, List.forall_mem_nil _⟩ ?_).2
  rintro es b e b' ⟨hp | hb, hstarts⟩ hs
  · obtain ⟨hown, hphase⟩ | ⟨-, htop⟩ | ⟨-, hwaiting⟩ := (step_move hs).of_idle (.inr (.inr hp))
    · refine ⟨.inl (hphase.trans hp), List.forall_mem_append.mpr ⟨hstarts, ?_⟩⟩
      exact List.forall_mem_singleton.mpr (Event.of_not_own hown).2
    · exact nomatch hp.symm.trans htop
    · exact nomatch hp.symm.trans hwaiting
  · obtain ⟨-, hstart, hnext⟩ := (step_move hs).of_handles hb
    refine ⟨?_, List.forall_mem_append.mpr ⟨hstarts, List.forall_mem_singleton.mpr hstart⟩⟩
    obtain ⟨outcome, -, rfl⟩ | ⟨-, hhandles, -⟩ := hnext
    · exact .inl rfl
    · exact .inr hhandles

/-- From one start to the next, `shutdown` is called and the token released. -/
theorem stopped_of_trace {b d d' : SourceActor} (hb : step graceful a .callStart = some b)
    (h : Trace (step graceful) b es d) (hd : step graceful d .callStart = some d') :
    .callShutdown ∈ es ∧ d.token.Released := by
  have hall : d.phase.hasStopped → .callShutdown ∈ es ∧ d.token.Released := by
    refine h.invariant (fun es d => d.phase.hasStopped → .callShutdown ∈ es ∧ d.token.Released) ?_
      fun es c e c' ih hs => (step_move hs).hasStopped ih
    cases step_move hb with
    | callStart => exact False.elim
  cases step_move hd with
  | callStart hp => exact hall (by rw [hp]; trivial)

/-- Where a command is taken. -/
theorem phase_of_command {c : Option SourceCommand} (h : step graceful a (.command c) = some a') :
    ∃ waited, a.phase = (if waited then .waiting else .select) ∧ a' = a.take waited c := by
  cases step_move h with
  | command waited _ hp => exact ⟨waited, hp, rfl⟩

/-- The lifecycle of a source that has come to `a` with the events `es`. -/
structure Lifecycle (graceful : Nat) (es : List Event) (a : SourceActor) : Prop where
  /-- between two starts the earlier run is shut down -/
  between_starts : ∀ b mid d d', step graceful a .callStart = some b →
    Trace (step graceful) b mid d → step graceful d .callStart = some d' →
      .callShutdown ∈ mid ∧ d.token.Released
  reconnects : a.status.reconnects = min (es.countP Event.isRestart) u32Max
  running : a.status.state = .running → Undisturbed es
  failed : HasError a.status
  /-- a Restart in state `failed` leads to another start -/
  restart_failed : a.status.state = .failed →
    ∀ b, step graceful a (.command (some .restart)) = some b → StartsNext graceful b
  /-- a Restart in state `running` does so if `shutdown` succeeds in time -/
  restart_running : a.status.state = .running →
    ∀ b, step graceful a (.command (some .restart)) = some b → Settles graceful b ∧
      ∀ mid c outcome d, Trace (step graceful) b mid c → (∀ e ∈ mid, e.isStopped = false) →
        step graceful c (.stopped outcome) = some d →
          (StartsNext graceful d ↔ outcome = .finished .ok) ∧
          (outcome ≠ .finished .ok → AwaitsCommand graceful d)
  /-- after another command there is no start -/
  last : ∀ c b, c ≠ some .restart → step graceful a (.command c) = some b →
    ∀ post d, Trace (step graceful) b post d → ∀ e ∈ post, e.isStart = false

theorem restart_of_failed (hshows : a.phase.Shows a.status.state)
    (hfailed : a.status.state = .failed)
    (h : step graceful a (.command (some .restart)) = some a') : StartsNext graceful a' := by
  obtain ⟨waited, hp, rfl⟩ := phase_of_command h
  cases waited with
  | true => exact startsNext_of_phase (.inr (.inl rfl))
  | false =>
      rw [hp, hfailed] at hshows
      exact nomatch hshows

theorem restart_of_running (hshows : a.phase.Shows a.status.state)
    (hrunning : a.status.state = .running)
    (h : step graceful a (.command (some .restart)) = some a') :
    a'.phase = .signal false false ∧ a'.phase.Shows a'.status.state := by
  obtain ⟨waited, hp, rfl⟩ := phase_of_command h
  cases waited with
  | true =>
      rw [hp, hrunning] at hshows
      exact nomatch hshows
  | false => exact ⟨rfl, a.take_shows false _⟩

/-- **THE RESTART OF A RUNNING SOURCE** goes on to a start if `shutdown` succeeds
    in time, and waits for a command if not. -/
theorem stopped_of_running {b c d : SourceActor} {mid : List Event} {outcome : StopOutcome}
    (hb : b.phase = .signal false false) (hshows : b.phase.Shows b.status.state)
    (hmid : Trace (step graceful) b mid c) (hnot : ∀ e ∈ mid, e.isStopped = false)
    (h : step graceful c (.stopped outcome) = some d) :
    (StartsNext graceful d ↔ outcome = .finished .ok) ∧
      (outcome ≠ .finished .ok → AwaitsCommand graceful d) := by
  have hhandles : c.phase.handles false false := handles_of_trace hmid (.inl hb) hnot
  have hstate : c.status.state = .restarting := by
    have := shows_of_trace hmid hshows
    obtain hp | hp | hp := hhandles <;> rw [hp] at this <;> exact this
  obtain ⟨-, -, ⟨outcome', heq, rfl⟩ | ⟨hnone, -⟩⟩ := (step_move h).of_handles hhandles
  · obtain rfl := Event.stopped.inj heq
    have hphase := SourceActor.stop_phase graceful outcome hstate
    by_cases hok : outcome = .finished .ok
    · rw [if_pos hok] at hphase
      exact ⟨⟨fun _ => hok, fun _ => startsNext_of_phase (.inl hphase)⟩, fun hne => absurd hok hne⟩
    · rw [if_neg hok] at hphase
      exact ⟨⟨fun hnext => absurd hnext (not_startsNext_of_waiting hphase),
        fun heq => absurd heq hok⟩, fun _ => awaitsCommand_of_waiting hphase⟩
  · exact nomatch hnone

/-- **THE LIFECYCLE** holds for every behaviour of the source and every sequence
    of commands. -/
theorem lifecycle {descriptor : HostEventSourceDescriptor} {now : Option Nat}
    (h : Trace (step graceful) (.init descriptor now) es a) : Lifecycle graceful es a := by
  have hshows : a.phase.Shows a.status.state := shows_of_trace h (.inl rfl)
  constructor
  · intro b mid d d' hb hmid hd
    exact stopped_of_trace hb hmid hd
  · exact h.invariant (fun es a => a.status.reconnects = min (es.countP Event.isRestart) u32Max)
      (Nat.zero_min _).symm fun _ _ _ _ ih hs => (step_move hs).reconnects ih
  · intro hrunning
    have hwatch : a.phase.watches → Undisturbed es :=
      h.invariant (fun es a => a.phase.watches → Undisturbed es) False.elim
        fun _ _ _ _ ih hs => (step_move hs).undisturbed ih
    rw [hrunning] at hshows
    rw [hshows.running] at hwatch
    exact hwatch trivial
  · have hnew : HasError (EventSourceStatus.new descriptor now) :=
      fun hfailed => nomatch (show SourceState.starting = .failed from hfailed)
    exact h.invariant (fun _ a => HasError a.status) hnew
      fun _ _ _ _ ih hs => (step_move hs).hasError ih
  · intro hfailed b hb
    exact restart_of_failed hshows hfailed hb
  · intro hrunning b hb
    obtain ⟨hp, hshows'⟩ := restart_of_running hshows hrunning hb
    refine ⟨settles_of_handles (.inl hp), fun mid c outcome d hmid hnot hd => ?_⟩
    exact stopped_of_running hp hshows' hmid hnot hd
  · intro c b hc hb post d hpost
    obtain ⟨waited, -, rfl⟩ := phase_of_command hb
    match c with
    | some .restart => exact absurd rfl hc
    | some .shutdown => exact no_start_of_terminal waited hpost (.inl rfl)
    | none => exact no_start_of_terminal waited hpost (.inl rfl)

/-! ### A source that is restarted -/

/-- The source ends, is restarted, and runs again. -/
def restartedRun : List Event :=
  [.callStart, .startReturned, .health (.ok .healthy), .ended .ok, .command (some .restart),
    .callShutdown, .shutdownReturned, .stopped (.finished .ok), .callStart, .startReturned,
    .health (.ok (.degraded "late"))]

/-- The source after that. -/
def restartedSource : SourceActor where
  phase := .select
  status := ⟨"demo", "demo.plugin", "demo", .running, "degraded", some "late", 1, none, none⟩
  token := ⟨false, 1⟩

theorem restarted_lifecycle : Lifecycle 50 restartedRun restartedSource := by
  have hrun : Trace (step 50) (.init ⟨"demo", "demo.plugin", "demo"⟩ none) restartedRun
      restartedSource := rfl
  exact lifecycle hrun

end Lifecycle

end ServiceEventSource
