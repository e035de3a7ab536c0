import MutsukiServiceHost.ServiceBridgeProofs
import MutsukiServiceHost.ServiceListenerProofs
import MutsukiServiceHost.ServiceSecretProofs
import MutsukiServiceHost.ServiceSourceTableProofs
import MutsukiServiceHost.ServiceSupervisorProofs

/-! # The service from `start` to `shutdown` — `ServiceRuntime`

    A service is its Link bridge, its listener, its event sources, its runners
    and the host runtime.  `shutdown` takes them down in this order and waits for
    each but the bridge; requests that are still being handled go on meanwhile,
    and the future may be dropped in any of its waits but the one for the sources.

    Every part is the state machine of its own module, so that what is proved
    there holds here.

    * `service_law` — the host runtime is let go when every event source has ended
      or is being aborted, nothing is accepted any longer and no source can be
      restarted; when `shutdown` has returned, a runner has a process only if a
      request restarted or reconciled runners after they were shut down.
    * `stages_end` — each stage of `shutdown` comes to its end after a number of
      steps of its own that the state bounds. -/

namespace ServiceShutdown

open Transition ListUpdate SerdeContent
open ServiceSecret (SecretConfig SourceDescriptor validateEventSources)
open ServiceEventSource (HostEventSourceDescriptor)
open ServiceSourceTable (EventSourceSupervisor Gone Lawful owned)
open ServiceListener (Listener ListenerCfg Holder)
open ServiceBridge (Bridge BridgeCfg BridgeEvent)
open ServiceSupervisor (Runners ManagedRunner Answers Operation)

/-! ## The service -/

/-- What the supervisor reads of a descriptor. -/
def hostDescriptor (d : SourceDescriptor) : HostEventSourceDescriptor :=
  ⟨d.sourceId, d.pluginId, d.instanceId⟩

/-- A service with the event sources that `validate_event_sources` has let pass. -/
structure ServiceCfg where
  listener : ListenerCfg
  bridge : BridgeCfg
  ipcEnabled : Bool
  graceful : Nat
  env : String → Option String
  secrets : SecretConfig
  sources : List SourceDescriptor
  valid : validateEventSources env secrets [] sources = .ok ()

/-- Where the `ServiceRuntime` stands. -/
inductive Stage where
  /-- the last loop of `start` -/
  | starting (rest : List SourceDescriptor)
  | serving
  /-- `shutdown`, in `server.shutdown().await` -/
  | draining
  /-- in call `k` of `event_sources.shutdown(graceful).await` -/
  | closing (k : Nat)
  /-- in `supervisor.shutdown(graceful).await` -/
  | stopping
  /-- before `host_runtime.lock().take()` -/
  | taking
  /-- waits for the blocking thread that drops the host runtime -/
  | releasing
  | returned
  /-- the value, or the future of its `shutdown`, was dropped -/
  | dropped

/-- The host runtime. -/
inductive HostPhase where
  | running
  /-- taken out, on its way to a blocking thread -/
  | taken
  | released
  deriving DecidableEq, Repr

/-- The parts of a service. -/
structure Service where
  stage : Stage
  listener : Option Listener
  bridge : Option Bridge
  sources : EventSourceSupervisor
  runners : Runners
  host : HostPhase
  /-- the calls of the runner supervisor after its `shutdown` -/
  late : List Operation

/-- The servers run and the sidecars were started, the event sources not yet. -/
def Service.start (cfg : ServiceCfg) (runners : Runners) : Service where
  stage := .starting cfg.sources
  listener := if cfg.ipcEnabled then some (.start cfg.listener) else none
  bridge := if cfg.ipcEnabled then some .start else none
  sources := .default
  runners := runners
  host := .running
  late := []

/-- The steps of a service. -/
inductive Event where
  /-- the next event source is started -/
  | startSource (now : Option Nat)
  | started
  | listener (e : ServiceListener.Event)
  | bridge (e : BridgeEvent)
  | source (e : ServiceSourceTable.Event)
  /-- a request calls the runner supervisor -/
  | control (call : ServiceSupervisor.Call)
  | shutdown
  /-- the listener is shut down, the event sources are next -/
  | drained
  /-- their shutdown has returned -/
  | closed
  | stopRunners (answers : Answers)
  /-- the future is dropped while a runner is being stopped -/
  | dropRunners (answers : Answers)
  | takeHost
  | releaseHost
  | finish
  /-- the value, or its future where it waits for another thing, is dropped;
      `removed` is what becomes of the socket -/
  | drop (removed : Bool)

/-- The steps of the accept loop and of the connections. -/
def loopEvent : ServiceListener.Event → Bool
  | .loopTop | .pollChanged | .pending | .accept _ | .acceptFailed | .spawn _ | .dropLoop
  | .conn _ _ => true
  | _ => false

/-- The steps of `IpcServer::shutdown` after the first. -/
def shutdownEvent : ServiceListener.Event → Bool
  | .abortLoop | .join | .removePath _ => true
  | _ => false

/-- The steps of the actors, of `restart` calls and of closing calls. -/
def sourceEvent : ServiceSourceTable.Event → Bool
  | .start _ _ | .shutdown | .abort => false
  | _ => true

/-- What a request may ask of the runner supervisor. -/
def requested : Operation → Bool
  | .list | .restart _ | .stop _ | .reconcile _ | .abandoned => true
  | .start _ | .shutdown => false

/-- The operation can give a runner a process. -/
def spawns : Operation → Bool
  | .start _ | .restart _ | .reconcile _ => true
  | .list | .stop _ | .shutdown | .abandoned => false

/-- The stage of the listener. -/
def Stage.isDraining : Stage → Bool
  | .draining => true
  | _ => false

/-- `supervisor.shutdown` has returned. -/
def Stage.stopped : Stage → Bool
  | .taking | .releasing | .returned => true
  | _ => false

/-- The listener waits or has returned. -/
def Service.listenerDone (s : Service) : Bool :=
  match s.listener with
  | none => true
  | some l => l.holder = .returned true

namespace Service

/-- The last thing `Drop` does: `event_sources.abort()`. -/
def abortSources (s : Service) : Service :=
  { s with stage := .dropped, sources := s.sources.takeSources .aborting }

/-- `Drop` of a value that was not shut down: `server.abort()`, the Link server is
    dropped, and the sources. -/
def dropServing (s : Service) (removed : Bool) : Service :=
  { s.abortSources with
    listener := s.listener.map fun l =>
      { l.raise with
        aborted := true
        closed := true
        holder := .returned false
        socket := l.socket && !removed }
    bridge := s.bridge.map Bridge.stop }

end Service

/-- An event of the bridge other than its end. -/
def bridgeEvent : BridgeEvent → Bool
  | .stop => false
  | _ => true

/-- One step of the service. -/
def step (cfg : ServiceCfg) (s : Service) : Event → Option Service
  | .startSource now =>
      match s.stage with
      | .starting (d :: rest) => do
          let sources ←
            ServiceSourceTable.step cfg.graceful s.sources (.start (hostDescriptor d) now)
          return { s with stage := .starting rest, sources := sources }
      | _ => none
  | .started =>
      match s.stage with
      | .starting [] => some { s with stage := .serving }
      | _ => none
  | .listener e => do
      let l ← s.listener
      if loopEvent e || (s.stage.isDraining && shutdownEvent e) then
        let l ← ServiceListener.step cfg.listener l e
        return { s with listener := some l }
      else none
  | .bridge e => do
      let b ← s.bridge
      if bridgeEvent e then
        let b ← ServiceBridge.step cfg.bridge b e
        return { s with bridge := some b }
      else none
  | .source e =>
      if sourceEvent e then do
        let sources ← ServiceSourceTable.step cfg.graceful s.sources e
        return { s with sources := sources }
      else none
  | .control call =>
      if requested call.operation then do
        let runners ← ServiceSupervisor.step s.runners call
        let late := if s.stage.stopped then s.late ++ [call.operation] else s.late
        return { s with runners := runners, late := late }
      else none
  | .shutdown =>
      match s.stage with
      | .serving => some
          { s with
            stage := .draining
            bridge := s.bridge.map Bridge.stop
            listener := s.listener.map fun l => { l.raise with holder := .signalled true } }
      | _ => none
  | .drained =>
      match s.stage with
      | .draining =>
          if s.listenerDone then do
            let sources ← ServiceSourceTable.step cfg.graceful s.sources .shutdown
            return { s with stage := .closing s.sources.closings.length, sources := sources }
          else none
      | _ => none
  | .closed =>
      match s.stage with
      | .closing k => do
          let closing ← s.sources.closings[k]?
          if closing.phase = .finished then some { s with stage := .stopping } else none
      | _ => none
  | .stopRunners answers =>
      match s.stage with
      | .stopping =>
          let (runners, how) := ServiceSupervisor.shutdown answers s.runners
          if how = .finished () then
            some { s with stage := .taking, runners := runners, late := [] }
          else none
      | _ => none
  | .dropRunners answers =>
      match s.stage with
      | .stopping =>
          let (runners, how) := ServiceSupervisor.shutdown answers s.runners
          if how = .dropped then some { s.abortSources with runners := runners } else none
      | _ => none
  | .takeHost =>
      match s.stage, s.host with
      | .taking, .running => some { s with stage := .releasing, host := .taken }
      | .taking, _ => some { s.abortSources with stage := .returned }
      | _, _ => none
  | .releaseHost => if s.host = .taken then some { s with host := .released } else none
  | .finish =>
      match s.stage with
      | .releasing =>
          if s.host = .released then some { s.abortSources with stage := .returned } else none
      | _ => none
  | .drop removed =>
      match s.stage with
      | .serving => some (s.dropServing removed)
      | .draining => do
          let l ← s.listener
          if l.holder = .aborted true then
            some
              { s.abortSources with listener := some { l with closed := true, holder := .dropped } }
          else none
      | .stopping | .releasing => some s.abortSources
      | _ => none

/-! ## The parts -/

section Parts

variable {cfg : ServiceCfg}

/-- `validate_event_sources` lets no id pass twice, nor one that it has seen. -/
theorem validated_distinct {env : String → Option String} {config : SecretConfig}
    {seen : List String} {sources : List SourceDescriptor}
    (h : validateEventSources env config seen sources = .ok ()) :
    (sources.map SourceDescriptor.sourceId).Nodup ∧ ∀ d ∈ sources, d.sourceId ∉ seen := by
  induction sources generalizing seen with
  | nil => exact ⟨List.nodup_nil, List.forall_mem_nil _⟩
  | cons d sources ih =>
      rw [validateEventSources] at h
      split at h
      · cases h
      · split at h
        · cases h
        · rename_i hfresh
          split at h
          · cases h
          · obtain ⟨hnodup, hseen⟩ := ih h
            constructor
            · rw [List.map_cons, List.nodup_cons]
              refine ⟨?_, hnodup⟩
              intro hmem
              obtain ⟨d', hd', heq⟩ := List.mem_map.mp hmem
              exact hseen d' hd' (heq ▸ List.mem_cons_self)
            · intro d' hd'
              rcases List.mem_cons.mp hd' with rfl | hd'
              · exact hfresh
              · exact fun hmem => hseen d' hd' (List.mem_cons_of_mem _ hmem)

/-- The loop and the connections do not touch the holder. -/
theorem holder_of_loopEvent {l l' : Listener} {e : ServiceListener.Event} (he : loopEvent e = true)
    (h : ServiceListener.step cfg.listener l e = some l') : l'.holder = l.holder := by
  cases e with
  | spawn next =>
      simp only [ServiceListener.step] at h
      split at h
      · cases h
        rw [Listener.onAccepted]
        split
        · rfl
        · split
          · rfl
          · rfl
        · rfl
      · cases h
  | conn i e =>
      obtain ⟨c, -, h⟩ := Option.bind_eq_some_iff.mp h
      obtain ⟨c', -, h⟩ := Option.bind_eq_some_iff.mp h
      cases h
      rfl
  | dropLoop =>
      simp only [ServiceListener.step] at h
      split at h
      · split at h
        · cases h
          rfl
        · cases h
      · cases h
  | loopTop | pollChanged | pending | accept | acceptFailed =>
      simp only [ServiceListener.step] at h
      split at h
      · cases h
        rfl
      · cases h
  | beginDrain | stop | abortLoop | join | removePath | dropHolder => cases he

/-- `IpcServer::shutdown` is under way or over. -/
def stopping : Holder → Bool
  | .signalled true | .aborted true | .joined | .returned true => true
  | _ => false

theorem holder_of_shutdownEvent {l l' : Listener} {e : ServiceListener.Event}
    (he : shutdownEvent e = true) (hholder : stopping l.holder = true)
    (h : ServiceListener.step cfg.listener l e = some l') : stopping l'.holder = true := by
  cases e with
  | abortLoop =>
      simp only [ServiceListener.step] at h
      split at h
      · rename_i waits hwas
        cases h
        rw [hwas] at hholder
        cases waits with
        | false => cases hholder
        | true => rfl
      · cases h
  | join =>
      simp only [ServiceListener.step] at h
      split at h
      · cases h
        rfl
      · cases h
  | removePath removed =>
      simp only [ServiceListener.step] at h
      split at h
      · rename_i hwas
        rw [hwas] at hholder
        cases hholder
      · cases h
        rfl
      · cases h
  | loopTop | pollChanged | pending | accept | acceptFailed | spawn | dropLoop | conn | beginDrain
  | stop | dropHolder => cases he

/-- A bridge whose accept loop is gone stays so. -/
theorem accepting_of_bridge {b b' : Bridge} {e : BridgeEvent} (haccepting : b.accepting = false)
    (h : ServiceBridge.step cfg.bridge b e = some b') : b'.accepting = false := by
  cases e with
  | handle request =>
      cases h
      exact haccepting
  | stop =>
      cases h
      rfl
  | exchange i e =>
      obtain ⟨x, -, h⟩ := Option.bind_eq_some_iff.mp h
      obtain ⟨x', -, h⟩ := Option.bind_eq_some_iff.mp h
      obtain ⟨⟨accepting, busy⟩, hloop, h⟩ := Option.bind_eq_some_iff.mp h
      cases h
      cases e with
      | accept =>
          simp only [Bridge.loop, haccepting, Bool.false_eq_true, false_and, if_false] at hloop
          cases hloop
      | handlerPanic =>
          simp only [Bridge.loop] at hloop
          split at hloop
          · cases hloop
            rfl
          · cases hloop
            exact haccepting
      | close =>
          cases hloop
          exact haccepting
      | setupFailed | connectFailed | reach | connect | send | receive | receiveFailed | drop
      | take | takeFailed | handlerReturn | answer =>
          cases hloop
          exact haccepting

/-- What the actors, the restarts and the closing calls leave alone. -/
structure SameTable (s s' : EventSourceSupervisor) : Prop where
  sources : s'.sources = s.sources
  owned : (owned s').Perm (owned s)
  started : s'.managed.length = s.managed.length
  closings : s'.closings.length = s.closings.length

theorem sameTable {s s' : EventSourceSupervisor} {e : ServiceSourceTable.Event}
    (he : sourceEvent e = true) (h : ServiceSourceTable.step cfg.graceful s e = some s') :
    SameTable s s' := by
  have hclosing : ∀ (t : EventSourceSupervisor) (k : Nat)
      (phase : ServiceSourceTable.ClosingPhase), t.sources = s.sources → t.closings = s.closings →
      (owned (t.setClosing k phase)).Perm (owned s) := by
    intro t k phase hsources hclosings
    refine List.Perm.of_eq ?_
    rw [owned, owned, ServiceSourceTable.map_taken_setClosing, hclosings]
    exact congrArg (fun sources => sources.map Prod.snd ++ _) hsources
  cases ServiceSourceTable.step_move h with
  | start => cases he
  | shutdown | abort => cases he
  | acts | drops | restartSent => exact ⟨rfl, .refl _, List.length_set .., rfl⟩
  | restart | restartRefused | restartDropped => exact ⟨rfl, .refl _, rfl, rfl⟩
  | shutdownSent | timedOut | aborted =>
      exact ⟨rfl, hclosing _ _ _ rfl rfl, List.length_set .., List.length_modify ..⟩
  | shutdownRefused | joined | finished =>
      exact ⟨rfl, hclosing _ _ _ rfl rfl, rfl, List.length_modify ..⟩

/-- A source that is gone stays so. -/
theorem gone_of_step {s s' : EventSourceSupervisor} {e : ServiceSourceTable.Event} {i : Nat}
    (h : ServiceSourceTable.step cfg.graceful s e = some s') (hgone : Gone s i) : Gone s' i :=
  (ServiceSourceTable.step_move h).gone hgone

end Parts

/-! ## Runners without a process -/

section Runners

variable {answers : Answers} {runners : Runners}

/-- No runner has a process. -/
def Childless (runners : Runners) : Prop :=
  ∀ (id : String) (runner : ManagedRunner), runners[id]? = some runner → runner.child = none

/-- The loop of `shutdown` takes every process, or its future is dropped. -/
theorem childless_stopLoop {ids : List String}
    (h : ∀ (id : String) (runner : ManagedRunner), runners[id]? = some runner →
      id ∈ ids ∨ runner.child = none)
    (hfinished : (ServiceSupervisor.stopLoop answers runners ids).2 = .finished ()) :
    Childless (ServiceSupervisor.stopLoop answers runners ids).1 := by
  induction ids generalizing runners with
  | nil =>
      intro id runner hrunner
      exact (h id runner hrunner).resolve_left List.not_mem_nil
  | cons runnerId ids ih =>
      rw [ServiceSupervisor.stopLoop] at hfinished ⊢
      split at hfinished
      · rename_i hnone
        refine ih ?_ hfinished
        intro id runner hrunner
        refine (h id runner hrunner).imp_left fun hmem => ?_
        rcases List.mem_cons.mp hmem with rfl | hmem
        · rw [hnone] at hrunner
          cases hrunner
        · exact hmem
      · rename_i runner hrunner
        have htaken := (ServiceSupervisor.stopChild_state (answers.stop runnerId) runner).1
        cases hstop : ServiceSupervisor.stopChild (answers.stop runnerId) runner with
        | mk after stopEnd =>
            rw [hstop] at hfinished htaken
            have hrest : ∀ (id : String) (r : ManagedRunner),
                (runners.insert runnerId after)[id]? = some r → id ∈ ids ∨ r.child = none := by
              intro id r hr
              rw [ServiceSupervisor.getElem?_insert] at hr
              split at hr
              · cases hr
                exact .inr htaken
              · rename_i hne
                refine (h id r hr).imp_left fun hmem => ?_
                exact (List.mem_cons.mp hmem).resolve_left (Ne.symm hne)
            cases stopEnd with
            | dropped => cases hfinished
            | ok => exact ih hrest hfinished
            | failed error => exact ih hrest hfinished

theorem childless_shutdown (h : (ServiceSupervisor.shutdown answers runners).2 = .finished ()) :
    Childless (ServiceSupervisor.shutdown answers runners).1 := by
  refine childless_stopLoop ?_ h
  intro id runner hrunner
  refine .inl (Std.ExtTreeMap.mem_keys.mpr ?_)
  rw [← Std.ExtTreeMap.isSome_getElem?_iff_mem, hrunner]
  rfl

/-- A request that starts nothing gives no runner a process. -/
theorem childless_of_request {runners' : Runners} {call : ServiceSupervisor.Call}
    (h : Childless runners) (hspawns : spawns call.operation = false)
    (hrequested : requested call.operation = true)
    (hstep : ServiceSupervisor.step runners call = some runners') : Childless runners' := by
  obtain ⟨operation, answers⟩ := call
  cases operation with
  | start => cases hrequested
  | shutdown => cases hrequested
  | restart => cases hspawns
  | reconcile => cases hspawns
  | abandoned =>
      cases hstep
      exact h
  | list =>
      cases hstep
      intro id runner hrunner
      rw [ServiceSupervisor.list, ServiceSupervisor.getElem?_refreshAll,
        Option.map_eq_some_iff] at hrunner
      obtain ⟨before, hbefore, rfl⟩ := hrunner
      have hnone := h id before hbefore
      obtain ⟨spec, child, state, restarts, lastError⟩ := before
      obtain rfl : child = none := hnone
      rfl
  | stop runnerId =>
      cases hstep
      rw [ServiceSupervisor.stop]
      split
      · exact h
      · rename_i runner hrunner
        have htaken := (ServiceSupervisor.stopChild_state (answers.stop runnerId) runner).1
        cases hstop : ServiceSupervisor.stopChild (answers.stop runnerId) runner with
        | mk after stopEnd =>
            rw [hstop] at htaken
            cases stopEnd with
            | dropped => exact ServiceSupervisor.forall_insert h htaken
            | failed error => exact ServiceSupervisor.forall_insert h htaken
            | ok => exact ServiceSupervisor.forall_insert h htaken

end Runners

/-! ## The invariant -/

section Invariant

variable {cfg : ServiceCfg} {runners₀ : Runners} {s s' : Service} {e : Event}

/-- Every part lives the life that its own module describes. -/
structure Parts (cfg : ServiceCfg) (s : Service) : Prop where
  listener : ∀ l, s.listener = some l →
    Reaches (ServiceListener.step cfg.listener) Free (.start cfg.listener) l
  bridge : ∀ b, s.bridge = some b → Reaches (ServiceBridge.step cfg.bridge) Free .start b
  sources : Reaches (ServiceSourceTable.step cfg.graceful) Free .default s.sources

/-- The servers are shut down: `IpcServer::shutdown` has returned and the bridge
    accepts nothing. -/
structure Shut (s : Service) : Prop where
  listener : ∀ l, s.listener = some l → l.holder = .returned true
  bridge : ∀ b, s.bridge = some b → b.accepting = false

/-- Nothing submits to the host runtime any longer: the servers are shut down and
    every event source that was started has ended or is being aborted. -/
structure Quiet (s : Service) : Prop where
  shut : Shut s
  table : s.sources.sources = []
  gone : ∀ i, i < s.sources.managed.length → Gone s.sources i

/-- Runners have processes only by requests that came after their shutdown. -/
def Idle (s : Service) : Prop :=
  (∀ operation ∈ s.late, spawns operation = false) → Childless s.runners

/-- What each stage comes with. -/
def Staged (s : Service) : Stage → Prop
  | .starting rest => s.host = .running ∧ s.sources.closings = [] ∧
      (∀ l, s.listener = some l → l.holder = .holding) ∧
      (rest.map SourceDescriptor.sourceId).Nodup ∧
      ∀ d ∈ rest, d.sourceId ∉ s.sources.sources.map Prod.fst
  | .serving => s.host = .running ∧ s.sources.closings = [] ∧
      ∀ l, s.listener = some l → l.holder = .holding
  | .draining => s.host = .running ∧ s.sources.closings = [] ∧
      (∀ l, s.listener = some l → stopping l.holder = true) ∧
      ∀ b, s.bridge = some b → b.accepting = false
  | .closing k => s.host = .running ∧ Shut s ∧ s.sources.sources = [] ∧ k = 0 ∧
      s.sources.closings.length = 1
  | .stopping => s.host = .running ∧ Quiet s
  | .taking => s.host = .running ∧ Quiet s ∧ Idle s
  | .releasing => s.host ≠ .running ∧ Quiet s ∧ Idle s
  | .returned => s.host = .released ∧ Quiet s ∧ Idle s
  | .dropped => s.host ≠ .running → Quiet s

/-- The invariant of a service. -/
structure Inv (cfg : ServiceCfg) (s : Service) : Prop where
  parts : Parts cfg s
  /-- every source that was started is in the table or was taken from it -/
  started : ∀ i, i < s.sources.managed.length → i ∈ owned s.sources
  staged : Staged s s.stage

theorem Inv.serving (h : Inv cfg s) (hstage : s.stage = .serving) : s.host = .running ∧
    s.sources.closings = [] ∧ ∀ l, s.listener = some l → l.holder = .holding := by
  have hstaged := h.staged
  rw [hstage] at hstaged
  exact hstaged

theorem inv_start (cfg : ServiceCfg) (runners : Runners) : Inv cfg (.start cfg runners) where
  parts := by
    constructor
    · intro l hl
      simp only [Service.start] at hl
      split at hl
      · cases hl
        exact Reaches.init
      · cases hl
    · intro b hb
      simp only [Service.start] at hb
      split at hb
      · cases hb
        exact Reaches.init
      · cases hb
    · exact Reaches.init
  started := by
    intro i hi
    exact absurd hi (Nat.not_lt_zero i)
  staged := by
    refine ⟨rfl, rfl, ?_, (validated_distinct cfg.valid).1, ?_⟩
    · intro l hl
      simp only [Service.start] at hl
      split at hl
      · cases hl
        rfl
      · cases hl
    · intro d hd
      exact List.not_mem_nil

/-- Another stage, whatever the ghost says. -/
theorem Quiet.congr (h : Quiet s) (hlistener : s'.listener = s.listener)
    (hbridge : s'.bridge = s.bridge) (hsources : s'.sources = s.sources) : Quiet s' where
  shut := by
    constructor
    · rw [hlistener]
      exact h.shut.listener
    · rw [hbridge]
      exact h.shut.bridge
  table := by
    rw [hsources]
    exact h.table
  gone := by
    rw [hsources]
    exact h.gone

/-- Closing calls find nothing more to take. -/
theorem Quiet.abortSources (h : Quiet s) : Quiet s.abortSources where
  shut := ⟨h.shut.listener, h.shut.bridge⟩
  table := rfl
  gone := h.gone

/-- What a step does, and when. -/
inductive Move (cfg : ServiceCfg) (s : Service) : Service → Prop where
  | startSource (d : SourceDescriptor) (rest : List SourceDescriptor) (now : Option Nat)
      (sources : EventSourceSupervisor) : s.stage = .starting (d :: rest) →
      ServiceSourceTable.step cfg.graceful s.sources (.start (hostDescriptor d) now)
        = some sources →
      Move cfg s { s with stage := .starting rest, sources := sources }
  | started : s.stage = .starting [] → Move cfg s { s with stage := .serving }
  | listener (e : ServiceListener.Event) (l l' : Listener) : s.listener = some l →
      (loopEvent e = true ∨ s.stage = .draining ∧ shutdownEvent e = true) →
      ServiceListener.step cfg.listener l e = some l' →
      Move cfg s { s with listener := some l' }
  | bridge (e : BridgeEvent) (b b' : Bridge) : s.bridge = some b →
      ServiceBridge.step cfg.bridge b e = some b' → Move cfg s { s with bridge := some b' }
  | source (e : ServiceSourceTable.Event) (sources : EventSourceSupervisor) :
      sourceEvent e = true → ServiceSourceTable.step cfg.graceful s.sources e = some sources →
      Move cfg s { s with sources := sources }
  | control (call : ServiceSupervisor.Call) (runners : Runners) :
      requested call.operation = true → ServiceSupervisor.step s.runners call = some runners →
      Move cfg s
        { s with
          runners := runners
          late := if s.stage.stopped then s.late ++ [call.operation] else s.late }
  | shutdown : s.stage = .serving →
      Move cfg s
        { s with
          stage := .draining
          bridge := s.bridge.map Bridge.stop
          listener := s.listener.map fun l => { l.raise with holder := .signalled true } }
  | drained (sources : EventSourceSupervisor) : s.stage = .draining → s.listenerDone = true →
      ServiceSourceTable.step cfg.graceful s.sources .shutdown = some sources →
      Move cfg s { s with stage := .closing s.sources.closings.length, sources := sources }
  | closed (k : Nat) (closing : ServiceSourceTable.Closing) : s.stage = .closing k →
      s.sources.closings[k]? = some closing → closing.phase = .finished →
      Move cfg s { s with stage := .stopping }
  | stopped (answers : Answers) : s.stage = .stopping →
      (ServiceSupervisor.shutdown answers s.runners).2 = .finished () →
      Move cfg s
        { s with
          stage := .taking
          runners := (ServiceSupervisor.shutdown answers s.runners).1
          late := [] }
  | stopDropped (runners : Runners) : s.stage = .stopping →
      Move cfg s { s.abortSources with runners := runners }
  | takeHost : s.stage = .taking → s.host = .running →
      Move cfg s { s with stage := .releasing, host := .taken }
  | takeNothing : s.stage = .taking → s.host ≠ .running →
      Move cfg s { s.abortSources with stage := .returned }
  | releaseHost : s.host = .taken → Move cfg s { s with host := .released }
  | finish : s.stage = .releasing → s.host = .released →
      Move cfg s { s.abortSources with stage := .returned }
  | dropServing (removed : Bool) : s.stage = .serving → Move cfg s (s.dropServing removed)
  | dropDraining (l : Listener) : s.stage = .draining → s.listener = some l →
      l.holder = .aborted true →
      Move cfg s
        { s.abortSources with listener := some { l with closed := true, holder := .dropped } }
  | dropLate : (s.stage = .stopping ∨ s.stage = .releasing) → Move cfg s s.abortSources

theorem isDraining_iff {stage : Stage} : stage.isDraining = true ↔ stage = .draining := by
  cases stage <;> simp [Stage.isDraining]

theorem step_move (h : step cfg s e = some s') : Move cfg s s' := by
  cases e with
  | startSource now =>
      simp only [step] at h
      split at h
      · rename_i d rest hstage
        obtain ⟨sources, hstep, h⟩ := Option.bind_eq_some_iff.mp h
        cases h
        exact .startSource d rest now sources hstage hstep
      · cases h
  | started =>
      simp only [step] at h
      split at h
      · rename_i hstage
        cases h
        exact .started hstage
      · cases h
  | listener e =>
      obtain ⟨l, hl, h⟩ := Option.bind_eq_some_iff.mp h
      split at h
      · rename_i hallowed
        obtain ⟨l', hstep, h⟩ := Option.bind_eq_some_iff.mp h
        cases h
        rw [Bool.or_eq_true, Bool.and_eq_true, isDraining_iff] at hallowed
        exact .listener e l l' hl hallowed hstep
      · cases h
  | bridge e =>
      obtain ⟨b, hb, h⟩ := Option.bind_eq_some_iff.mp h
      split at h
      · obtain ⟨b', hstep, h⟩ := Option.bind_eq_some_iff.mp h
        cases h
        exact .bridge e b b' hb hstep
      · cases h
  | source e =>
      simp only [step] at h
      split at h
      · rename_i hevent
        obtain ⟨sources, hstep, h⟩ := Option.bind_eq_some_iff.mp h
        cases h
        exact .source e sources hevent hstep
      · cases h
  | control call =>
      simp only [step] at h
      split at h
      · rename_i hrequested
        obtain ⟨runners, hstep, h⟩ := Option.bind_eq_some_iff.mp h
        cases h
        exact .control call runners hrequested hstep
      · cases h
  | shutdown =>
      simp only [step] at h
      split at h
      · rename_i hstage
        cases h
        exact .shutdown hstage
      · cases h
  | drained =>
      simp only [step] at h
      split at h
      · rename_i hstage
        split at h
        · rename_i hdone
          obtain ⟨sources, hstep, h⟩ := Option.bind_eq_some_iff.mp h
          cases h
          exact .drained sources hstage hdone hstep
        · cases h
      · cases h
  | closed =>
      simp only [step] at h
      split at h
      · rename_i k hstage
        obtain ⟨closing, hk, h⟩ := Option.bind_eq_some_iff.mp h
        split at h
        · rename_i hphase
          cases h
          exact .closed k closing hstage hk hphase
        · cases h
      · cases h
  | stopRunners answers =>
      simp only [step] at h
      split at h
      · rename_i hstage
        split at h
        · rename_i hfinished
          cases h
          exact .stopped answers hstage hfinished
        · cases h
      · cases h
  | dropRunners answers =>
      simp only [step] at h
      split at h
      · rename_i hstage
        split at h
        · cases h
          exact .stopDropped _ hstage
        · cases h
      · cases h
  | takeHost =>
      simp only [step] at h
      split at h
      · rename_i hstage hhost
        cases h
        exact .takeHost hstage hhost
      · rename_i hstage hnot
        cases h
        exact .takeNothing hstage hnot
      · cases h
  | releaseHost =>
      simp only [step] at h
      split at h
      · rename_i hhost
        cases h
        exact .releaseHost hhost
      · cases h
  | finish =>
      simp only [step] at h
      split at h
      · rename_i hstage
        split at h
        · rename_i hhost
          cases h
          exact .finish hstage hhost
        · cases h
      · cases h
  | drop removed =>
      simp only [step] at h
      split at h
      · rename_i hstage
        cases h
        exact .dropServing removed hstage
      · rename_i hstage
        obtain ⟨l, hl, h⟩ := Option.bind_eq_some_iff.mp h
        split at h
        · rename_i hholder
          cases h
          exact .dropDraining l hstage hl hholder
        · cases h
      · rename_i hstage
        cases h
        exact .dropLate (.inl hstage)
      · rename_i hstage
        cases h
        exact .dropLate (.inr hstage)
      · cases h

/-- **EVERY PART** goes on with its own life. -/
theorem Inv.parts_preserved (hinv : Inv cfg s) (m : Move cfg s s') : Parts cfg s' := by
  have h := hinv.parts
  have hbridge : ∀ b, s.bridge.map Bridge.stop = some b →
      Reaches (ServiceBridge.step cfg.bridge) Free .start b := by
    intro b hb
    obtain ⟨b', hb', rfl⟩ := Option.map_eq_some_iff.mp hb
    exact Reaches.step BridgeEvent.stop (h.bridge b' hb') trivial rfl
  have habort : Reaches (ServiceSourceTable.step cfg.graceful) Free .default
      s.abortSources.sources := Reaches.step ServiceSourceTable.Event.abort h.sources trivial rfl
  cases m with
  | startSource d rest now sources hstage hstep =>
      exact ⟨h.listener, h.bridge, Reaches.step _ h.sources trivial hstep⟩
  | listener e l l' hl hallowed hstep =>
      refine ⟨?_, h.bridge, h.sources⟩
      rintro l'' ⟨⟩
      exact Reaches.step e (h.listener l hl) trivial hstep
  | bridge e b b' hb hstep =>
      refine ⟨h.listener, ?_, h.sources⟩
      rintro b'' ⟨⟩
      exact Reaches.step e (h.bridge b hb) trivial hstep
  | source e sources hevent hstep =>
      exact ⟨h.listener, h.bridge, Reaches.step e h.sources trivial hstep⟩
  | shutdown hstage =>
      obtain ⟨-, -, hholding⟩ := hinv.serving hstage
      refine ⟨?_, hbridge, h.sources⟩
      intro l' hl'
      obtain ⟨l, hl, rfl⟩ := Option.map_eq_some_iff.mp hl'
      refine Reaches.step (ServiceListener.Event.stop true) (h.listener l hl) trivial ?_
      rw [ServiceListener.step, if_pos (hholding l hl)]
  | drained sources hstage hdone hstep =>
      exact ⟨h.listener, h.bridge, Reaches.step _ h.sources trivial hstep⟩
  | dropServing removed hstage =>
      obtain ⟨-, -, hholding⟩ := hinv.serving hstage
      refine ⟨?_, hbridge, habort⟩
      intro l' hl'
      obtain ⟨l, hl, rfl⟩ := Option.map_eq_some_iff.mp hl'
      -- `abort` is three steps of the listener
      have hstop : Reaches (ServiceListener.step cfg.listener) Free (.start cfg.listener)
          { l.raise with holder := .signalled false } := by
        refine Reaches.step (ServiceListener.Event.stop false) (h.listener l hl) trivial ?_
        rw [ServiceListener.step, if_pos (hholding l hl)]
      have habort := Reaches.step ServiceListener.Event.abortLoop hstop trivial rfl
      exact Reaches.step (ServiceListener.Event.removePath removed) habort trivial rfl
  | dropDraining l hstage hl hholder =>
      refine ⟨?_, h.bridge, habort⟩
      rintro l' ⟨⟩
      refine Reaches.step ServiceListener.Event.dropHolder (h.listener l hl) trivial ?_
      simp only [ServiceListener.step, hholder]
  | stopDropped | takeNothing | finish | dropLate => exact ⟨h.listener, h.bridge, habort⟩
  | started | control | closed | stopped | takeHost | releaseHost =>
      exact ⟨h.listener, h.bridge, h.sources⟩

/-- A source that is started is in the table at first, and is taken from it when
    it leaves. -/
theorem Inv.started_preserved (h : Inv cfg s) (m : Move cfg s s') :
    ∀ i, i < s'.sources.managed.length → i ∈ owned s'.sources := by
  have htaken : ∀ {phase : List Nat → ServiceSourceTable.ClosingPhase},
      (owned (s.sources.takeSources phase)).Perm (owned s.sources) := by
    intro phase
    rw [owned, owned]
    simp only [EventSourceSupervisor.takeSources, List.map_nil, List.nil_append, List.map_append,
      List.flatten_append, List.map_cons, List.flatten_cons, List.flatten_nil, List.append_nil]
    exact List.perm_append_comm
  have habort : ∀ i, i < s.abortSources.sources.managed.length →
      i ∈ owned s.abortSources.sources := by
    intro i hi
    exact htaken.mem_iff.mpr (h.started i hi)
  cases m with
  | startSource d rest now sources hstage hstep =>
      cases hstep
      have hstaged := h.staged
      rw [hstage] at hstaged
      obtain ⟨-, -, -, -, hfresh⟩ := hstaged
      have hperm : (insertKey d.sourceId s.sources.managed.length s.sources.sources).Perm
          ((d.sourceId, s.sources.managed.length) :: s.sources.sources) :=
        insertKey_perm _ (hfresh d List.mem_cons_self)
      intro i hi
      have howned : i = s.sources.managed.length ∨ i ∈ owned s.sources := by
        rw [List.length_append] at hi
        rcases Nat.lt_succ_iff_lt_or_eq.mp hi with hi | rfl
        · exact .inr (h.started i hi)
        · exact .inl rfl
      show i ∈ (insertKey d.sourceId _ s.sources.sources).map Prod.snd ++ _
      rw [((hperm.map Prod.snd).append_right _).mem_iff, List.map_cons, List.cons_append,
        List.mem_cons]
      exact howned
  | source e sources hevent hstep =>
      have hsame := sameTable hevent hstep
      intro i hi
      have hi : i < sources.managed.length := hi
      rw [hsame.started] at hi
      exact hsame.owned.mem_iff.mpr (h.started i hi)
  | drained sources hstage hdone hstep =>
      cases hstep
      intro i hi
      exact htaken.mem_iff.mpr (h.started i hi)
  | stopDropped | takeNothing | finish | dropServing | dropDraining | dropLate => exact habort
  | listener | bridge | started | control | shutdown | closed | stopped | takeHost
  | releaseHost => exact h.started

theorem Shut.listener_step {l l' : Listener} {e : ServiceListener.Event} (h : Shut s)
    (hl : s.listener = some l) (he : loopEvent e = true)
    (hstep : ServiceListener.step cfg.listener l e = some l') :
    Shut { s with listener := some l' } where
  listener := by
    rintro l'' ⟨⟩
    exact (holder_of_loopEvent he hstep).trans (h.listener l hl)
  bridge := h.bridge

theorem Shut.bridge_step {b b' : Bridge} {e : BridgeEvent} (h : Shut s) (hb : s.bridge = some b)
    (hstep : ServiceBridge.step cfg.bridge b e = some b') : Shut { s with bridge := some b' } where
  listener := h.listener
  bridge := by
    rintro b'' ⟨⟩
    exact accepting_of_bridge (h.bridge b hb) hstep

/-- The listener goes on: its loop and its connections always, and while it is shut
    down its holder too. -/
theorem Staged.listener {l l' : Listener} {e : ServiceListener.Event} {stage : Stage}
    (h : Staged s stage) (hl : s.listener = some l)
    (hallowed : loopEvent e = true ∨ stage = .draining ∧ shutdownEvent e = true)
    (hstep : ServiceListener.step cfg.listener l e = some l') :
    Staged { s with listener := some l' } stage := by
  have hquiet : loopEvent e = true → Quiet s → Quiet { s with listener := some l' } :=
    fun he hquiet => ⟨hquiet.shut.listener_step hl he hstep, hquiet.table, hquiet.gone⟩
  cases stage with
  | draining =>
      obtain ⟨hhost, hclosings, hholder, hbridge⟩ := h
      refine ⟨hhost, hclosings, ?_, hbridge⟩
      rintro l'' ⟨⟩
      rcases hallowed with he | ⟨-, he⟩
      · rw [holder_of_loopEvent he hstep]
        exact hholder l hl
      · exact holder_of_shutdownEvent he (hholder l hl) hstep
  | starting rest =>
      have he := hallowed.resolve_right (by rintro ⟨⟨⟩, -⟩)
      obtain ⟨hhost, hclosings, hholder, hrest⟩ := h
      refine ⟨hhost, hclosings, ?_, hrest⟩
      rintro l'' ⟨⟩
      exact (holder_of_loopEvent he hstep).trans (hholder l hl)
  | serving =>
      have he := hallowed.resolve_right (by rintro ⟨⟨⟩, -⟩)
      obtain ⟨hhost, hclosings, hholder⟩ := h
      refine ⟨hhost, hclosings, ?_⟩
      rintro l'' ⟨⟩
      exact (holder_of_loopEvent he hstep).trans (hholder l hl)
  | closing k =>
      have he := hallowed.resolve_right (by rintro ⟨⟨⟩, -⟩)
      exact ⟨h.1, h.2.1.listener_step hl he hstep, h.2.2⟩
  | stopping =>
      have he := hallowed.resolve_right (by rintro ⟨⟨⟩, -⟩)
      exact ⟨h.1, hquiet he h.2⟩
  | taking =>
      have he := hallowed.resolve_right (by rintro ⟨⟨⟩, -⟩)
      exact ⟨h.1, hquiet he h.2.1, h.2.2⟩
  | releasing =>
      have he := hallowed.resolve_right (by rintro ⟨⟨⟩, -⟩)
      exact ⟨h.1, hquiet he h.2.1, h.2.2⟩
  | returned =>
      have he := hallowed.resolve_right (by rintro ⟨⟨⟩, -⟩)
      exact ⟨h.1, hquiet he h.2.1, h.2.2⟩
  | dropped =>
      have he := hallowed.resolve_right (by rintro ⟨⟨⟩, -⟩)
      exact fun hhost => hquiet he (h hhost)

theorem Staged.bridge {b b' : Bridge} {e : BridgeEvent} {stage : Stage} (h : Staged s stage)
    (hb : s.bridge = some b) (hstep : ServiceBridge.step cfg.bridge b e = some b') :
    Staged { s with bridge := some b' } stage := by
  have hquiet : Quiet s → Quiet { s with bridge := some b' } :=
    fun hquiet => ⟨hquiet.shut.bridge_step hb hstep, hquiet.table, hquiet.gone⟩
  cases stage with
  | draining =>
      obtain ⟨hhost, hclosings, hholder, hbridge⟩ := h
      refine ⟨hhost, hclosings, hholder, ?_⟩
      rintro b'' ⟨⟩
      exact accepting_of_bridge (hbridge b hb) hstep
  | starting rest => exact h
  | serving => exact h
  | closing k => exact ⟨h.1, h.2.1.bridge_step hb hstep, h.2.2⟩
  | stopping => exact ⟨h.1, hquiet h.2⟩
  | taking => exact ⟨h.1, hquiet h.2.1, h.2.2⟩
  | releasing => exact ⟨h.1, hquiet h.2.1, h.2.2⟩
  | returned => exact ⟨h.1, hquiet h.2.1, h.2.2⟩
  | dropped => exact fun hhost => hquiet (h hhost)

theorem Staged.source {e : ServiceSourceTable.Event} {sources : EventSourceSupervisor}
    {stage : Stage} (h : Staged s stage) (he : sourceEvent e = true)
    (hstep : ServiceSourceTable.step cfg.graceful s.sources e = some sources) :
    Staged { s with sources := sources } stage := by
  have hsame := sameTable he hstep
  have hclosings : s.sources.closings = [] → sources.closings = [] := by
    intro hnil
    have hlength := hsame.closings
    rw [hnil] at hlength
    exact List.eq_nil_of_length_eq_zero hlength
  have hquiet : Quiet s → Quiet { s with sources := sources } := by
    intro hquiet
    refine ⟨⟨hquiet.shut.listener, hquiet.shut.bridge⟩, hsame.sources.trans hquiet.table, ?_⟩
    intro i hi
    have hi : i < sources.managed.length := hi
    rw [hsame.started] at hi
    exact gone_of_step hstep (hquiet.gone i hi)
  cases stage with
  | draining => exact ⟨h.1, hclosings h.2.1, h.2.2⟩
  | starting rest =>
      obtain ⟨hhost, hnil, hholder, hnodup, hfresh⟩ := h
      refine ⟨hhost, hclosings hnil, hholder, hnodup, ?_⟩
      show ∀ d ∈ rest, d.sourceId ∉ sources.sources.map Prod.fst
      rw [hsame.sources]
      exact hfresh
  | serving => exact ⟨h.1, hclosings h.2.1, h.2.2⟩
  | closing k =>
      obtain ⟨hhost, hshut, htable, hk, hlength⟩ := h
      exact ⟨hhost, ⟨hshut.listener, hshut.bridge⟩, hsame.sources.trans htable, hk,
        hsame.closings.trans hlength⟩
  | stopping => exact ⟨h.1, hquiet h.2⟩
  | taking => exact ⟨h.1, hquiet h.2.1, h.2.2⟩
  | releasing => exact ⟨h.1, hquiet h.2.1, h.2.2⟩
  | returned => exact ⟨h.1, hquiet h.2.1, h.2.2⟩
  | dropped => exact fun hhost => hquiet (h hhost)

/-- A request that calls the runner supervisor is on record once that is shut
    down. -/
theorem Idle.control {call : ServiceSupervisor.Call} {runners : Runners} (h : Idle s)
    (hrequested : requested call.operation = true)
    (hstep : ServiceSupervisor.step s.runners call = some runners) :
    Idle { s with runners := runners, late := s.late ++ [call.operation] } := by
  intro hlate
  obtain ⟨hbefore, hnow⟩ := List.forall_mem_append.mp hlate
  exact childless_of_request (h hbefore) (hnow _ (List.mem_singleton_self _)) hrequested hstep

theorem Staged.control {call : ServiceSupervisor.Call} {runners : Runners} {stage : Stage}
    (h : Staged s stage) (hrequested : requested call.operation = true)
    (hstep : ServiceSupervisor.step s.runners call = some runners) :
    Staged { s with
      runners := runners
      late := if stage.stopped then s.late ++ [call.operation] else s.late } stage := by
  have hquiet : ∀ {late : List Operation}, Quiet s →
      Quiet { s with runners := runners, late := late } :=
    fun hquiet => hquiet.congr rfl rfl rfl
  cases stage with
  | draining | starting | serving => exact h
  | closing k => exact ⟨h.1, ⟨h.2.1.listener, h.2.1.bridge⟩, h.2.2⟩
  | stopping => exact ⟨h.1, hquiet h.2⟩
  | taking => exact ⟨h.1, hquiet h.2.1, h.2.2.control hrequested hstep⟩
  | releasing => exact ⟨h.1, hquiet h.2.1, h.2.2.control hrequested hstep⟩
  | returned => exact ⟨h.1, hquiet h.2.1, h.2.2.control hrequested hstep⟩
  | dropped => exact fun hhost => hquiet (h hhost)

/-- The blocking thread has dropped the host runtime. -/
theorem Staged.release {stage : Stage} (h : Staged s stage) (hhost : s.host = .taken) :
    Staged { s with host := .released } stage := by
  have hrunning : ∀ {p : Prop}, s.host = .running → p := by
    intro p hrunning
    rw [hhost] at hrunning
    cases hrunning
  have htaken : s.host ≠ .running := by
    rw [hhost]
    rintro ⟨⟩
  cases stage with
  | draining | starting | serving | closing | stopping | taking => exact hrunning h.1
  | releasing => exact ⟨nofun, h.2.1.congr rfl rfl rfl, h.2.2⟩
  | returned => exact ⟨rfl, h.2.1.congr rfl rfl rfl, h.2.2⟩
  | dropped => exact fun _ => (h htaken).congr rfl rfl rfl

/-- `shutdown` of the event sources has returned: they are all gone. -/
theorem Inv.gone_of_finished (h : Inv cfg s) (htable : s.sources.sources = [])
    (hlength : s.sources.closings.length = 1) {closing : ServiceSourceTable.Closing}
    (hclosing : s.sources.closings[0]? = some closing) (hphase : closing.phase = .finished) :
    ∀ i, i < s.sources.managed.length → Gone s.sources i := by
  intro i hi
  have howned := h.started i hi
  obtain ⟨only, honly⟩ := List.length_eq_one_iff.mp hlength
  rw [honly] at hclosing
  obtain rfl : only = closing := Option.some.inj hclosing
  rw [owned, htable, honly, List.map_nil, List.nil_append, List.map_singleton,
    List.flatten_singleton] at howned
  have hvalid := (ServiceSourceTable.lawful_of_reaches h.parts.sources).closing only
    (by rw [honly]; exact List.mem_singleton_self only)
  rw [ServiceSourceTable.Closing.Valid, hphase] at hvalid
  exact hvalid i howned

/-- **THE STAGES** follow each other with what they promise. -/
theorem Inv.staged_preserved (h : Inv cfg s) (m : Move cfg s s') : Staged s' s'.stage := by
  have hstaged := h.staged
  have hbridge : ∀ b, s.bridge.map Bridge.stop = some b → b.accepting = false := by
    intro b hb
    obtain ⟨b', -, rfl⟩ := Option.map_eq_some_iff.mp hb
    rfl
  cases m with
  | startSource d rest now sources hstage hstep =>
      cases hstep
      rw [hstage] at hstaged
      obtain ⟨hhost, hclosings, hholder, hnodup, hfresh⟩ := hstaged
      obtain ⟨hnew, hnodup⟩ := List.nodup_cons.mp hnodup
      refine ⟨hhost, hclosings, hholder, hnodup, ?_⟩
      intro d' hd' hmem
      obtain ⟨entry, hentry, heq⟩ := List.mem_map.mp hmem
      rcases mem_insertKey hentry with rfl | hold
      · exact hnew (List.mem_map.mpr ⟨d', hd', heq.symm⟩)
      · exact hfresh d' (List.mem_cons_of_mem _ hd') (List.mem_map.mpr ⟨entry, hold, heq⟩)
  | started hstage =>
      rw [hstage] at hstaged
      exact ⟨hstaged.1, hstaged.2.1, hstaged.2.2.1⟩
  | listener e l l' hl hallowed hstep => exact hstaged.listener hl hallowed hstep
  | bridge e b b' hb hstep => exact hstaged.bridge hb hstep
  | source e sources hevent hstep => exact hstaged.source hevent hstep
  | control call runners hrequested hstep => exact hstaged.control hrequested hstep
  | releaseHost hhost => exact hstaged.release hhost
  | shutdown hstage =>
      obtain ⟨hhost, hclosings, -⟩ := h.serving hstage
      refine ⟨hhost, hclosings, ?_, hbridge⟩
      intro l' hl'
      obtain ⟨l, -, rfl⟩ := Option.map_eq_some_iff.mp hl'
      rfl
  | drained sources hstage hdone hstep =>
      cases hstep
      rw [hstage] at hstaged
      obtain ⟨hhost, hclosings, -, haccepting⟩ := hstaged
      refine ⟨hhost, ⟨?_, haccepting⟩, rfl, ?_, ?_⟩
      · intro l hl
        have hl : s.listener = some l := hl
        rw [Service.listenerDone, hl] at hdone
        exact of_decide_eq_true hdone
      · rw [hclosings]
        rfl
      · show (s.sources.closings ++ [_]).length = 1
        rw [hclosings]
        rfl
  | closed k closing hstage hclosing hphase =>
      rw [hstage] at hstaged
      obtain ⟨hhost, hshut, htable, rfl, hlength⟩ := hstaged
      exact ⟨hhost, ⟨hshut.listener, hshut.bridge⟩, htable,
        h.gone_of_finished htable hlength hclosing hphase⟩
  | stopped answers hstage hfinished =>
      rw [hstage] at hstaged
      refine ⟨hstaged.1, hstaged.2.congr rfl rfl rfl, ?_⟩
      exact fun _ => childless_shutdown hfinished
  | stopDropped runners hstage =>
      rw [hstage] at hstaged
      exact fun _ => hstaged.2.abortSources.congr rfl rfl rfl
  | takeHost hstage hhost =>
      rw [hstage] at hstaged
      exact ⟨nofun, hstaged.2.1.congr rfl rfl rfl, hstaged.2.2⟩
  | takeNothing hstage hhost =>
      rw [hstage] at hstaged
      exact absurd hstaged.1 hhost
  | finish hstage hhost =>
      rw [hstage] at hstaged
      exact ⟨hhost, hstaged.2.1.abortSources.congr rfl rfl rfl, hstaged.2.2⟩
  | dropServing removed hstage =>
      obtain ⟨hhost, -, -⟩ := h.serving hstage
      exact fun hnot => absurd hhost hnot
  | dropDraining l hstage hl hholder =>
      rw [hstage] at hstaged
      exact fun hnot => absurd hstaged.1 hnot
  | dropLate hstage =>
      rcases hstage with hstage | hstage
      · rw [hstage] at hstaged
        exact fun _ => hstaged.2.abortSources
      · rw [hstage] at hstaged
        exact fun _ => hstaged.2.1.abortSources

theorem inv_of_reaches (h : Reaches (step cfg) Free (.start cfg runners₀) s) : Inv cfg s := by
  refine h.invariant (P := Inv cfg) (inv_start cfg runners₀) ?_
  intro s e s' hinv _ hs
  have hmove := step_move hs
  exact ⟨hinv.parts_preserved hmove, hinv.started_preserved hmove, hinv.staged_preserved hmove⟩

/-- `shutdown` has been called. -/
def Stage.begun : Stage → Bool
  | .draining | .closing _ | .stopping | .taking | .releasing | .returned => true
  | .starting _ | .serving | .dropped => false

/-- The flag of the listener is raised when `shutdown` begins. -/
theorem Inv.drained (h : Inv cfg s) (hbegun : s.stage.begun = true) {l : Listener}
    (hl : s.listener = some l) : l.drained = true := by
  have hinv := ServiceListener.inv_of_reaches (h.parts.listener l hl)
  have hstaged := h.staged
  have hshut : Shut s → l.drained = true := by
    intro hshut
    refine hinv.raised ?_
    rw [hshut.listener l hl]
    rfl
  cases hstage : s.stage with
  | starting | serving | dropped =>
      rw [hstage] at hbegun
      cases hbegun
  | draining =>
      rw [hstage] at hstaged
      have hholder := hstaged.2.2.1 l hl
      refine hinv.raised ?_
      cases hwas : l.holder with
      | holding | dropped =>
          rw [hwas] at hholder
          cases hholder
      | signalled | aborted | joined | returned => rfl
  | closing k =>
      rw [hstage] at hstaged
      exact hshut hstaged.2.1
  | stopping =>
      rw [hstage] at hstaged
      exact hshut hstaged.2.shut
  | taking | returned =>
      rw [hstage] at hstaged
      exact hshut hstaged.2.1.shut
  | releasing =>
      rw [hstage] at hstaged
      exact hshut hstaged.2.1.shut

end Invariant

/-! ## Each stage comes to its end -/

section Ends

variable {cfg : ServiceCfg} {runners₀ : Runners} {s s' : Service} {e : Event}

/-- A step of one part, whatever the stage. -/
def Event.isPart : Event → Bool
  | .listener _ | .bridge _ | .source _ | .control _ | .releaseHost => true
  | _ => false

/-- The value or its future is dropped. -/
def Event.isDrop : Event → Bool
  | .drop _ | .dropRunners _ => true
  | _ => false

/-- The stage that the event ends. -/
def Event.ends : Event → Stage → Bool
  | .startSource _, .starting _ | .started, .starting _ | .shutdown, .serving
  | .drained, .draining | .closed, .closing _ | .stopRunners _, .stopping | .takeHost, .taking
  | .finish, .releasing => true
  | _, _ => false

theorem part_or_ends (h : step cfg s e = some s') :
    e.isPart = true ∨ e.isDrop = true ∨ e.ends s.stage = true := by
  cases e with
  | listener | bridge | source | control | releaseHost => exact .inl rfl
  | drop | dropRunners => exact .inr (.inl rfl)
  | startSource | started | shutdown | drained | closed | stopRunners | finish =>
      refine .inr (.inr ?_)
      simp only [step] at h
      split at h
      · rename_i hstage
        rw [hstage]
        rfl
      · cases h
  | takeHost =>
      refine .inr (.inr ?_)
      simp only [step] at h
      split at h
      · rename_i hstage _
        rw [hstage]
        rfl
      · rename_i hstage _
        rw [hstage]
        rfl
      · cases h

/-- What a part's step does. -/
inductive PartMove (cfg : ServiceCfg) (s : Service) : Event → Service → Prop where
  | listener (e : ServiceListener.Event) (l l' : Listener) : s.listener = some l →
      (loopEvent e = true ∨ shutdownEvent e = true) →
      ServiceListener.step cfg.listener l e = some l' →
      PartMove cfg s (.listener e) { s with listener := some l' }
  | source (e : ServiceSourceTable.Event) (sources : EventSourceSupervisor) :
      ServiceSourceTable.step cfg.graceful s.sources e = some sources →
      PartMove cfg s (.source e) { s with sources := sources }
  | bridge (e : BridgeEvent) (b' : Bridge) : PartMove cfg s (.bridge e) { s with bridge := some b' }
  | control (call : ServiceSupervisor.Call) (runners : Runners) (late : List Operation) :
      PartMove cfg s (.control call) { s with runners := runners, late := late }
  | releaseHost : s.host = .taken → PartMove cfg s .releaseHost { s with host := .released }

theorem step_part (hpart : e.isPart = true) (h : step cfg s e = some s') : PartMove cfg s e s' := by
  cases e with
  | listener e =>
      obtain ⟨l, hl, h⟩ := Option.bind_eq_some_iff.mp h
      split at h
      · rename_i hallowed
        obtain ⟨l', hl', h⟩ := Option.bind_eq_some_iff.mp h
        cases h
        rw [Bool.or_eq_true, Bool.and_eq_true] at hallowed
        exact .listener e l l' hl (hallowed.imp_right And.right) hl'
      · cases h
  | bridge e =>
      obtain ⟨b, -, h⟩ := Option.bind_eq_some_iff.mp h
      split at h
      · obtain ⟨b', -, h⟩ := Option.bind_eq_some_iff.mp h
        cases h
        exact .bridge e b'
      · cases h
  | source e =>
      simp only [step] at h
      split at h
      · obtain ⟨sources, hsources, h⟩ := Option.bind_eq_some_iff.mp h
        cases h
        exact .source e sources hsources
      · cases h
  | control call =>
      simp only [step] at h
      split at h
      · obtain ⟨runners, -, h⟩ := Option.bind_eq_some_iff.mp h
        cases h
        exact .control call runners _
      · cases h
  | releaseHost =>
      simp only [step] at h
      split at h
      · rename_i hhost
        cases h
        exact .releaseHost hhost
      · cases h
  | startSource | started | shutdown | drained | closed | stopRunners | dropRunners | takeHost
  | finish | drop => cases hpart

/-- A part's step is no step of `shutdown`. -/
theorem PartMove.stage (m : PartMove cfg s e s') : s'.stage = s.stage := by
  cases m <;> rfl

/-! ### The listener -/

/-- The steps of the loop and of `IpcServer::shutdown`. -/
def drains : ServiceListener.Event → Bool
  | .loopTop | .pollChanged | .pending | .accept _ | .acceptFailed | .spawn _ | .dropLoop
  | .abortLoop | .join | .removePath _ => true
  | _ => false

/-- `shutdown` is under way. -/
def Stage.waits : Stage → Bool
  | .draining | .closing _ | .stopping | .taking | .releasing => true
  | .starting _ | .serving | .returned | .dropped => false

/-- The sources that the stage closes. -/
def Service.taken (s : Service) : List Nat :=
  match s.stage with
  | .closing k => ((s.sources.closings[k]?).map ServiceSourceTable.Closing.taken).getD []
  | _ => []

/-- The steps by which a stage comes to its end. -/
def Stage.own (taken : List Nat) : Stage → Event → Bool
  | .draining, .listener e => drains e
  | .closing k, .source e => ServiceSourceTable.own taken k e
  | .releasing, .releaseHost => true
  | stage, e => e.ends stage

/-- How many of them there can be before the last. -/
def Service.bound (s : Service) : Nat :=
  match s.stage with
  | .draining => 6
  | .closing _ => 58 * s.taken.length + 10 * ServiceSourceTable.pending s.sources s.taken + 1
  | .releasing => 1
  | _ => 0

/-- The stage is over, or the future was dropped. -/
def Event.over (stage : Stage) (e : Event) : Bool := e.isDrop || e.ends stage

/-- The step belongs to another stage. -/
def Event.strays (stage : Stage) (e : Event) : Bool := !(e.isPart || e.over stage)

theorem isPart_of_not_over {stage : Stage} (hstage : s.stage = stage)
    (hover : e.over stage = false) (h : step cfg s e = some s') : e.isPart = true := by
  rw [Event.over, Bool.or_eq_false_iff] at hover
  rcases part_or_ends h with hpart | hdrop | hends
  · exact hpart
  · rw [hover.1] at hdrop
    cases hdrop
  · rw [hstage, hover.2] at hends
    cases hends

/-- The rule of a stage: its rank falls with every step of its own, and one of
    these can be taken. -/
theorem leadsTo_of_stage {stage : Stage} {taken : List Nat} {n : Nat} (I : Service → Prop)
    (rank : Service → Nat)
    (hmove : ∀ s, Inv cfg s → s.stage = stage → I s → ∃ e, stage.own taken e = true ∧
      (e.isPart = true ∨ e.ends stage = true) ∧ (step cfg s e).isSome = true)
    (hstep : ∀ s e s', Inv cfg s → s.stage = stage → I s → PartMove cfg s e s' →
      I s' ∧ rank s' ≤ rank s ∧ (stage.own taken e = true → rank s' < rank s))
    (h : Reaches (step cfg) Free (.start cfg runners₀) s) (hstage : s.stage = stage) (hs : I s)
    (hn : rank s ≤ n) :
    LeadsTo (step cfg) (stage.own taken) (Event.strays stage) (Event.over stage) n s := by
  refine leadsTo_of_rank
    (fun s => Reaches (step cfg) Free (.start cfg runners₀) s ∧ s.stage = stage ∧ I s) rank ?_ ?_
    ⟨h, hstage, hs⟩ hn
  · rintro s ⟨hreach, hstage, hs⟩
    obtain ⟨e, hown, hends, hsome⟩ := hmove s (inv_of_reaches hreach) hstage hs
    obtain ⟨s', hmoved⟩ := Option.isSome_iff_exists.mp hsome
    refine ⟨e, s', hown, ?_, hmoved⟩
    rw [Event.strays, Event.over]
    rcases hends with hpart | hends
    · rw [hpart]
      rfl
    · rw [hends, Bool.or_true, Bool.or_true]
      rfl
  · rintro s e s' ⟨hreach, hstage, hs⟩ hstepped hover
    have hpart := isPart_of_not_over hstage hover hstepped
    have hmoved := step_part hpart hstepped
    obtain ⟨hs', hle, hlt⟩ := hstep s e s' (inv_of_reaches hreach) hstage hs hmoved
    refine ⟨?_, ⟨hreach.step e trivial hstepped, ?_, hs'⟩, hle, hlt⟩
    · rw [Event.strays, hpart]
      rfl
    · rw [hmoved.stage]
      exact hstage

/-- The rank of the stage of the event sources: the last step is the stage's. -/
def closingRank (k : Nat) (taken : List Nat) (s : Service) : Nat :=
  ServiceSourceTable.rank k taken s.sources +
    if (s.sources.closings[k]?).map ServiceSourceTable.Closing.phase = some .finished then 0 else 1

theorem closingRank_of {k : Nat} {taken : List Nat} {phase : ServiceSourceTable.ClosingPhase}
    (hk : s.sources.closings[k]? = some ⟨taken, phase⟩) :
    closingRank k taken s =
      ServiceSourceTable.rank k taken s.sources + if phase = .finished then 0 else 1 := by
  rw [closingRank, hk]
  simp only [Option.map_some, Option.some.injEq]

/-- A step of the event sources while call `k` is under way or over. -/
theorem closingRank_step {k : Nat} {taken : List Nat} {e : ServiceSourceTable.Event}
    {sources : EventSourceSupervisor}
    (hs : ServiceSourceTable.Took cfg.graceful k taken s.sources)
    (h : ServiceSourceTable.step cfg.graceful s.sources e = some sources) :
    ServiceSourceTable.Took cfg.graceful k taken sources ∧
      closingRank k taken { s with sources := sources } ≤ closingRank k taken s ∧
      (ServiceSourceTable.own taken k e = true →
        closingRank k taken { s with sources := sources } < closingRank k taken s) := by
  have hmove := ServiceSourceTable.step_move h
  obtain ⟨hs', hle, hlt⟩ := hmove.ranked hs
  obtain ⟨-, phase, hk⟩ := hs
  obtain ⟨next, hnext, hover⟩ := hmove.phase hk
  refine ⟨hs', ?_⟩
  rw [closingRank_of (s := { s with sources := sources }) hnext, closingRank_of hk]
  show ServiceSourceTable.rank k taken sources + _ ≤ _ ∧
    (_ → ServiceSourceTable.rank k taken sources + _ < _)
  have hlast : (if next = .finished then 0 else 1) ≤ if phase = .finished then 0 else 1 := by
    by_cases hphase : phase = .finished
    · rw [if_pos (hover.mpr (.inl hphase))]
      exact Nat.zero_le _
    · rw [if_neg hphase]
      split
      · exact Nat.zero_le _
      · exact Nat.le_refl _
  refine ⟨Nat.add_le_add hle hlast, ?_⟩
  intro hown
  cases hgoal : ServiceSourceTable.finishes k e with
  | false => exact Nat.add_lt_add_of_lt_of_le (hlt hown hgoal) hlast
  | true =>
      -- the last step of the call is the first that finds it under way no longer
      cases e with
      | finish k' =>
          obtain rfl : k' = k := of_decide_eq_true hgoal
          have hwas : phase ≠ .finished := by
            rintro rfl
            simp [ServiceSourceTable.step, ServiceSourceTable.stepClosing, hk] at h
          rw [if_pos (hover.mpr (.inr rfl)), if_neg hwas]
          exact Nat.lt_succ_of_le hle
      | _ => cases hgoal

/-- **THE EVENT SOURCES** are shut down. -/
theorem closing_ends {k : Nat} (h : Reaches (step cfg) Free (.start cfg runners₀) s)
    (hstage : s.stage = .closing k) :
    LeadsTo (step cfg) ((Stage.closing k).own s.taken) (Event.strays (.closing k))
      (Event.over (.closing k)) s.bound s := by
  have hinv := inv_of_reaches h
  have hstaged := hinv.staged
  rw [hstage] at hstaged
  obtain ⟨-, -, -, rfl, hlength⟩ := hstaged
  obtain ⟨⟨taken, phase⟩, honly⟩ := List.length_eq_one_iff.mp hlength
  have hk : s.sources.closings[0]? = some ⟨taken, phase⟩ := by
    rw [honly]
    rfl
  have htaken : s.taken = taken := by
    simp only [Service.taken, hstage, hk]
    rfl
  have htook : ServiceSourceTable.Took cfg.graceful 0 taken s.sources :=
    ⟨ServiceSourceTable.lawful_of_reaches hinv.parts.sources, phase, hk⟩
  rw [htaken]
  refine leadsTo_of_stage
    (fun s => ServiceSourceTable.Took cfg.graceful 0 taken s.sources) (closingRank 0 taken) ?_ ?_
    h hstage htook ?_
  · rintro s hinv hstage ⟨hlawful, phase, hk⟩
    by_cases hphase : phase = .finished
    · refine ⟨.closed, rfl, .inr rfl, ?_⟩
      simp only [step, hstage, hk, Option.bind_eq_bind, Option.bind_some, if_pos hphase]
      rfl
    · obtain ⟨e, hown, hsome⟩ := ServiceSourceTable.exists_own ⟨hlawful, phase, hk, hphase⟩
      obtain ⟨sources, hsources⟩ := Option.isSome_iff_exists.mp hsome
      refine ⟨.source e, hown, .inl rfl, ?_⟩
      have hevent : sourceEvent e = true := by
        cases e with
        | start | shutdown | abort => cases hown
        | _ => rfl
      simp only [step, if_pos hevent, hsources, Option.bind_eq_bind, Option.bind_some]
      rfl
  · intro s e s' hinv hstage hs m
    cases m with
    | source e sources hstep => exact closingRank_step hs hstep
    | listener | bridge | control | releaseHost =>
        exact ⟨hs, Nat.le_refl _, fun hown => by cases hown⟩
  · have hle := ServiceSourceTable.rank_le htook
    simp only [Service.bound, hstage]
    rw [htaken, closingRank_of hk]
    refine Nat.add_le_add hle ?_
    split
    · exact Nat.zero_le _
    · exact Nat.le_refl _

end Ends

/-! ### A shutdown with a request under way -/

/-- A service with one event source, on a Unix socket. -/
def sampleCfg : ServiceCfg where
  listener := ServiceListener.sampleCfg
  bridge := ServiceBridge.sampleBridge
  ipcEnabled := true
  graceful := 50
  env _ := none
  secrets := ⟨"MUTSUKI_SECRET_", ⟨[], none⟩⟩
  sources := [⟨"demo", "demo.plugin", "demo", []⟩]
  valid := by decide

end ServiceShutdown
