import Mathlib.Algebra.Order.BigOperators.Group.List
import MutsukiServiceHost.MailboxProofs
import MutsukiServiceHost.SerdeContentProofs
import MutsukiServiceHost.ServiceEventSourceProofs

/-! # Event sources — `EventSourceSupervisor`

    The supervisor keeps a table of sources.  Each runs `run_source_actor` on a
    task of its own and takes its commands from a channel of four; `restart`
    looks a source up and sends to it, `shutdown` and `abort` take the whole
    table and see to it that every source in it ends.  Calls of `restart` run
    beside each other, beside the actors and beside a shutdown, so that a list
    of events is one interleaving of all of them.

    * `supervisor_law` — in every state reached each source lives the lifecycle
      of `ServiceEventSourceProofs` with the commands that were accepted for it,
      in their order; an `Ok` of `restart` is one accepted command; and every
      source that a finished shutdown took has ended or is being aborted.
    * `shutdown_law` — a shutdown comes to its end whatever the sources do, and
      from its beginning no restart finds a source. -/

namespace ServiceSourceTable

open Transition Mailboxes SerdeContent
open ServiceEventSource (SourceActor SourceCommand EventSourceStatus HostEventSourceDescriptor
  HostEventSourceHealth PanicPayload Phase Lifecycle)

/-- The channel of a source. -/
abbrev Commands : Type := Mailbox SourceCommand 4

/-! ## The supervisor -/

/-- A source: its actor, the channel of its commands, whether its task was asked
    to abort, and whether its future was dropped for that. -/
structure ManagedSource where
  actor : SourceActor
  commands : Commands
  aborted : Bool
  dropped : Bool

/-- The task of the source has ended. -/
def ManagedSource.ended (m : ManagedSource) : Prop :=
  m.actor.phase = .returned ∨ m.dropped = true

instance (m : ManagedSource) : Decidable m.ended := inferInstanceAs (Decidable (_ ∨ _))

/-- Where a call of `restart` stands. -/
inductive RestartPhase where
  /-- it holds a clone of the sender of source `i` -/
  | sending (i : Nat)
  /-- `Ok`, from source `i` -/
  | accepted (i : Nat)
  | failed (error : String)
  | dropped
  deriving DecidableEq, Repr

/-- A call of `restart`. -/
structure RestartCall where
  sourceId : String
  phase : RestartPhase
  deriving DecidableEq, Repr

/-- Where a call of `shutdown` or `abort` stands. -/
inductive ClosingPhase where
  /-- `shutdown`, the commands are sent -/
  | sending (rest : List Nat)
  /-- `shutdown`, the tasks are awaited -/
  | joining (rest : List Nat)
  /-- `abort` -/
  | aborting (rest : List Nat)
  | finished
  deriving DecidableEq, Repr

/-- A call of `shutdown` or `abort`, with the sources it took. -/
structure Closing where
  taken : List Nat
  phase : ClosingPhase
  deriving DecidableEq, Repr

/-- `EventSourceSupervisor`: every source that was started, the table with the
    ids of those that it manages, and the calls. -/
structure EventSourceSupervisor where
  managed : List ManagedSource
  sources : List (String × Nat)
  restarts : List RestartCall
  closings : List Closing

/-- `EventSourceSupervisor::default`. -/
def EventSourceSupervisor.default : EventSourceSupervisor := ⟨[], [], [], []⟩

/-- The call holds a sender of source `i`. -/
def RestartCall.holds (call : RestartCall) (i : Nat) : Bool := call.phase = .sending i

/-- The sources whose senders the call holds; each is dropped after its turn of
    the last loop. -/
def Closing.held (closing : Closing) : List Nat :=
  match closing.phase with
  | .sending _ => closing.taken
  | .joining rest | .aborting rest => rest
  | .finished => []

/-- What happens next. -/
inductive Event where
  | start (descriptor : HostEventSourceDescriptor) (now : Option Nat)
  /-- a step of an actor other than a health tick -/
  | actor (i : Nat) (e : ServiceEventSource.Event)
  | tick (i : Nat) (answer : Except PanicPayload HostEventSourceHealth)
  /-- the future of an aborted task is dropped -/
  | dropActor (i : Nat)
  /-- `restart` is called and looks the source up -/
  | restart (sourceId : String)
  /-- `send` of a restart ends -/
  | sendRestart (k : Nat)
  /-- the future of a restart is dropped -/
  | dropRestart (k : Nat)
  | shutdown
  | abort
  /-- `send` of a shutdown ends for its next source -/
  | sendShutdown (k : Nat)
  /-- the next task has ended -/
  | join (k : Nat)
  /-- the next task is not awaited any longer -/
  | joinTimeout (k : Nat)
  /-- the next turn of the loop of `abort` -/
  | abortNext (k : Nat)
  /-- the call returns -/
  | finish (k : Nat)

namespace ManagedSource

/-- A source whose task is spawned. -/
def spawn (descriptor : HostEventSourceDescriptor) (now : Option Nat) : ManagedSource where
  actor := .init descriptor now
  commands := .empty SourceCommand 4
  aborted := false
  dropped := false

/-- What a step of the actor takes from the channel.  It sees the channel closed
    when nothing is in it and nobody holds a sender. -/
def receive (held : Bool) (commands : Commands) : ServiceEventSource.Event → Option Commands
  | .command (some command) =>
      match commands.receive with
      | some (first, commands) => if first = command then some commands else none
      | none => none
  | .command none => if commands.queue = [] ∧ held = false then some commands else none
  | _ => some commands

/-- The receiver goes away with the future that holds it. -/
def settle (m : ManagedSource) : ManagedSource :=
  if m.actor.phase = .returned then { m with commands := m.commands.close } else m

/-- A step of the actor. -/
def act (graceful : Nat) (held : Bool) (m : ManagedSource) (e : ServiceEventSource.Event) :
    Option ManagedSource :=
  if m.dropped then none
  else match ServiceEventSource.step graceful m.actor e, receive held m.commands e with
    | some actor, some commands => some (settle { m with actor, commands })
    | _, _ => none

/-- `JoinHandle::abort`. -/
def abort (m : ManagedSource) : ManagedSource := { m with aborted := true }

/-- `try_send`: a command for which there is no room is given up. -/
def trySend (m : ManagedSource) (command : SourceCommand) : ManagedSource :=
  match m.commands.send command with
  | .accepted commands => { m with commands }
  | .waits | .closed => m

/-- The future of an aborted task is dropped. -/
def drop (m : ManagedSource) : Option ManagedSource :=
  if m.aborted ∧ ¬ m.ended then some { m with commands := m.commands.close, dropped := true }
  else none

end ManagedSource

namespace EventSourceSupervisor

/-- A sender of source `i` is there: in the table, in a call of `restart`, or in
    a call that closes. -/
def held (s : EventSourceSupervisor) (i : Nat) : Bool :=
  s.sources.any (fun entry => entry.2 = i) || s.restarts.any (·.holds i) ||
    s.closings.any fun closing => i ∈ closing.held

/-- Source `i` replaced. -/
def setSource (s : EventSourceSupervisor) (i : Nat) (m : ManagedSource) : EventSourceSupervisor :=
  { s with managed := s.managed.set i m }

/-- The phase of restart `k` replaced. -/
def setRestart (s : EventSourceSupervisor) (k : Nat) (phase : RestartPhase) :
    EventSourceSupervisor :=
  { s with restarts := s.restarts.modify k fun call => { call with phase := phase } }

/-- The phase of closing `k` replaced. -/
def setClosing (s : EventSourceSupervisor) (k : Nat) (phase : ClosingPhase) :
    EventSourceSupervisor :=
  { s with closings := s.closings.modify k fun closing => { closing with phase := phase } }

/-- `take_sources`, for a call that goes on with `phase`. -/
def takeSources (s : EventSourceSupervisor) (phase : List Nat → ClosingPhase) :
    EventSourceSupervisor :=
  let taken := s.sources.map Prod.snd
  { s with sources := [], closings := s.closings ++ [⟨taken, phase taken⟩] }

/-- `EventSourceSupervisor::list`. -/
def list (s : EventSourceSupervisor) : List EventSourceStatus :=
  s.sources.filterMap fun entry => (s.managed[entry.2]?).map fun m => m.actor.status

/-- The answer of `restart` for an id that is not in the table. -/
def unknownSource (sourceId : String) : String := "unknown event source " ++ sourceId

/-- The answer of `restart` for a source whose task has ended. -/
def stoppedSource (sourceId : String) : String :=
  "event source " ++ sourceId ++ " lifecycle task has stopped"

/-- The first half of `restart`: the sender is cloned under the lock. -/
def lookup (s : EventSourceSupervisor) (sourceId : String) : RestartPhase :=
  match s.sources.lookup sourceId with
  | some i => .sending i
  | none => .failed (unknownSource sourceId)

/-- What follows in `shutdown` when a command was sent. -/
def afterSend (taken : List Nat) : List Nat → ClosingPhase
  | [] => .joining taken
  | i :: rest => .sending (i :: rest)

end EventSourceSupervisor

open EventSourceSupervisor

/-- The second half of `restart`. -/
def stepRestart (s : EventSourceSupervisor) (k : Nat) : Option EventSourceSupervisor := do
  let call ← s.restarts[k]?
  match call.phase with
  | .sending i =>
      let m ← s.managed[i]?
      -- outside the lock: the source may have been taken meanwhile
      match m.commands.send .restart with
      | .waits => none
      | .closed => some (s.setRestart k (.failed (stoppedSource call.sourceId)))
      | .accepted commands =>
          some ((s.setSource i { m with commands }).setRestart k (.accepted i))
  | _ => none

/-- One step of a call of `shutdown` or `abort`. -/
def stepClosing (s : EventSourceSupervisor) (k : Nat) (e : Event) :
    Option EventSourceSupervisor := do
  let closing ← s.closings[k]?
  match closing.phase, e with
  | .sending (i :: rest), .sendShutdown _ =>
      let m ← s.managed[i]?
      match m.commands.send .shutdown with
      | .waits => none
      -- the error of `send` is dropped
      | .closed => some (s.setClosing k (afterSend closing.taken rest))
      | .accepted commands =>
          some ((s.setSource i { m with commands }).setClosing k (afterSend closing.taken rest))
  | .joining (i :: rest), .join _ =>
      let m ← s.managed[i]?
      if m.ended then some (s.setClosing k (.joining rest)) else none
  | .joining (i :: rest), .joinTimeout _ =>
      let m ← s.managed[i]?
      -- the timeout of `shutdown` aborts the task and goes on
      some ((s.setSource i m.abort).setClosing k (.joining rest))
  | .aborting (i :: rest), .abortNext _ =>
      let m ← s.managed[i]?
      some ((s.setSource i (m.trySend .shutdown).abort).setClosing k (.aborting rest))
  | .joining [], .finish _ => some (s.setClosing k .finished)
  | .aborting [], .finish _ => some (s.setClosing k .finished)
  | _, _ => none

/-- One step of the supervisor, its sources and its callers. -/
def step (graceful : Nat) (s : EventSourceSupervisor) (e : Event) :
    Option EventSourceSupervisor :=
  match e with
  | .start descriptor now => some
      { s with
        managed := s.managed ++ [.spawn descriptor now]
        -- an older source of this id loses its place, but not its task
        sources := insertKey descriptor.sourceId s.managed.length s.sources }
  | .actor i e => do
      let m ← s.managed[i]?
      match m.actor.phase, e with
      -- `health` in the inner loop is asked by the tick only
      | .select, .health _ => none
      | _, _ =>
          let m ← m.act graceful (s.held i) e
          some (s.setSource i m)
  | .tick i answer => do
      let m ← s.managed[i]?
      if m.actor.phase = .select then
        let m ← m.act graceful (s.held i) (.health answer)
        some (s.setSource i m)
      else none
  | .dropActor i => do
      let m ← s.managed[i]?
      let m ← m.drop
      some (s.setSource i m)
  | .restart sourceId => some
      { s with restarts := s.restarts ++ [⟨sourceId, s.lookup sourceId⟩] }
  | .sendRestart k => stepRestart s k
  | .dropRestart k => do
      let call ← s.restarts[k]?
      match call.phase with
      | .sending _ => some (s.setRestart k .dropped)
      | _ => none
  | .shutdown => some (s.takeSources fun taken => afterSend taken taken)
  | .abort => some (s.takeSources .aborting)
  | .sendShutdown k | .join k | .joinTimeout k | .abortNext k | .finish k => stepClosing s k e

/-! ## What a step can do -/

section Steps

variable {graceful : Nat} {s s' : EventSourceSupervisor} {e : Event} {m m' : ManagedSource}
  {held : Bool}

/-- What a step makes of one source. -/
inductive Change (graceful : Nat) (held : Bool) (m : ManagedSource) : ManagedSource → Prop where
  | acts (e : ServiceEventSource.Event) (actor : SourceActor) (commands : Commands) :
      m.dropped = false → ServiceEventSource.step graceful m.actor e = some actor →
      ManagedSource.receive held m.commands e = some commands →
      Change graceful held m (ManagedSource.settle { m with actor, commands })
  | sent (command : SourceCommand) (commands : Commands) :
      m.commands.send command = .accepted commands → Change graceful held m { m with commands }
  | aborted : Change graceful held m m.abort
  | dropped : m.aborted = true → ¬ m.ended →
      Change graceful held m { m with commands := m.commands.close, dropped := true }

theorem act_change {what : ServiceEventSource.Event} (h : m.act graceful held what = some m') :
    ∃ actor commands, m.dropped = false ∧
      ServiceEventSource.step graceful m.actor what = some actor ∧
      ManagedSource.receive held m.commands what = some commands ∧
      m' = ManagedSource.settle { m with actor, commands } := by
  rw [ManagedSource.act] at h
  split at h
  · exact nomatch h
  · rename_i hdropped
    split at h
    · rename_i actor commands hactor hcommands
      exact ⟨actor, commands, Bool.not_eq_true _ |>.mp hdropped, hactor, hcommands,
        (Option.some.inj h).symm⟩
    · exact nomatch h

theorem drop_change (h : m.drop = some m') : m.aborted = true ∧ ¬ m.ended ∧
    m' = { m with commands := m.commands.close, dropped := true } := by
  obtain ⟨⟨haborted, hended⟩, h⟩ := Option.ite_none_right_eq_some.mp h
  exact ⟨haborted, hended, (Option.some.inj h).symm⟩

/-- The source whose actor moves, and how. -/
def Event.acts : Event → Option (Nat × ServiceEventSource.Event)
  | .actor i what => some (i, what)
  | .tick i answer => some (i, .health answer)
  | _ => none

/-- A health tick under the name of another step. -/
def Event.hiddenTick (m : ManagedSource) : Event → Prop
  | .actor _ (.health _) => m.actor.phase = .select
  | _ => False

/-- The steps, one constructor for each. -/
inductive Move (graceful : Nat) (s : EventSourceSupervisor) :
    Event → EventSourceSupervisor → Prop where
  | start (descriptor : HostEventSourceDescriptor) (now : Option Nat) :
      Move graceful s (.start descriptor now)
        { s with
          managed := s.managed ++ [.spawn descriptor now]
          sources := insertKey descriptor.sourceId s.managed.length s.sources }
  | acts {e : Event} {i : Nat} {m : ManagedSource} {what : ServiceEventSource.Event}
      {actor : SourceActor} {commands : Commands} :
      e.acts = some (i, what) → s.managed[i]? = some m → ¬ e.hiddenTick m → m.dropped = false →
      ServiceEventSource.step graceful m.actor what = some actor →
      ManagedSource.receive (s.held i) m.commands what = some commands →
      Move graceful s e (s.setSource i (ManagedSource.settle { m with actor, commands }))
  | drops {i : Nat} {m : ManagedSource} : s.managed[i]? = some m → m.aborted = true → ¬ m.ended →
      Move graceful s (.dropActor i)
        (s.setSource i { m with commands := m.commands.close, dropped := true })
  | restart (sourceId : String) :
      Move graceful s (.restart sourceId)
        { s with restarts := s.restarts ++ [⟨sourceId, s.lookup sourceId⟩] }
  | restartSent {k i : Nat} {call : RestartCall} {m : ManagedSource} {commands : Commands} :
      s.restarts[k]? = some call → call.phase = .sending i → s.managed[i]? = some m →
      m.commands.send .restart = .accepted commands →
      Move graceful s (.sendRestart k)
        ((s.setSource i { m with commands }).setRestart k (.accepted i))
  | restartRefused {k i : Nat} {call : RestartCall} {m : ManagedSource} :
      s.restarts[k]? = some call → call.phase = .sending i → s.managed[i]? = some m →
      m.commands.send .restart = .closed →
      Move graceful s (.sendRestart k) (s.setRestart k (.failed (stoppedSource call.sourceId)))
  | restartDropped {k i : Nat} {call : RestartCall} :
      s.restarts[k]? = some call → call.phase = .sending i →
      Move graceful s (.dropRestart k) (s.setRestart k .dropped)
  | shutdown : Move graceful s .shutdown (s.takeSources fun taken => afterSend taken taken)
  | abort : Move graceful s .abort (s.takeSources .aborting)
  | shutdownSent {k i : Nat} {rest : List Nat} {closing : Closing} {m : ManagedSource}
      {commands : Commands} :
      s.closings[k]? = some closing → closing.phase = .sending (i :: rest) →
      s.managed[i]? = some m → m.commands.send .shutdown = .accepted commands →
      Move graceful s (.sendShutdown k)
        ((s.setSource i { m with commands }).setClosing k (afterSend closing.taken rest))
  | shutdownRefused {k i : Nat} {rest : List Nat} {closing : Closing} {m : ManagedSource} :
      s.closings[k]? = some closing → closing.phase = .sending (i :: rest) →
      s.managed[i]? = some m → m.commands.send .shutdown = .closed →
      Move graceful s (.sendShutdown k) (s.setClosing k (afterSend closing.taken rest))
  | joined {k i : Nat} {rest : List Nat} {closing : Closing} {m : ManagedSource} :
      s.closings[k]? = some closing → closing.phase = .joining (i :: rest) →
      s.managed[i]? = some m → m.ended →
      Move graceful s (.join k) (s.setClosing k (.joining rest))
  | timedOut {k i : Nat} {rest : List Nat} {closing : Closing} {m : ManagedSource} :
      s.closings[k]? = some closing → closing.phase = .joining (i :: rest) →
      s.managed[i]? = some m →
      Move graceful s (.joinTimeout k) ((s.setSource i m.abort).setClosing k (.joining rest))
  | aborted {k i : Nat} {rest : List Nat} {closing : Closing} {m : ManagedSource} :
      s.closings[k]? = some closing → closing.phase = .aborting (i :: rest) →
      s.managed[i]? = some m →
      Move graceful s (.abortNext k)
        ((s.setSource i (m.trySend .shutdown).abort).setClosing k (.aborting rest))
  | finished {k : Nat} {closing : Closing} : s.closings[k]? = some closing →
      closing.phase = .joining [] ∨ closing.phase = .aborting [] →
      Move graceful s (.finish k) (s.setClosing k .finished)

theorem stepRestart_move {k : Nat} (h : stepRestart s k = some s') :
    Move graceful s (.sendRestart k) s' := by
  obtain ⟨call, hcall, h⟩ := Option.bind_eq_some_iff.mp h
  split at h
  · rename_i i hphase
    obtain ⟨m, hm, h⟩ := Option.bind_eq_some_iff.mp h
    split at h
    · exact nomatch h
    · rename_i hsend
      rw [← Option.some.inj h]
      exact .restartRefused hcall hphase hm hsend
    · rename_i commands hsend
      rw [← Option.some.inj h]
      exact .restartSent hcall hphase hm hsend
  · exact nomatch h

theorem stepClosing_move {k : Nat}
    (he : e = .sendShutdown k ∨ e = .join k ∨ e = .joinTimeout k ∨ e = .abortNext k ∨ e = .finish k)
    (h : stepClosing s k e = some s') : Move graceful s e s' := by
  obtain ⟨closing, hclosing, h⟩ := Option.bind_eq_some_iff.mp h
  split at h
  · rename_i i rest k' hphase _
    obtain rfl : k' = k := by simpa using he
    obtain ⟨m, hm, h⟩ := Option.bind_eq_some_iff.mp h
    split at h
    · exact nomatch h
    · rename_i hsend
      rw [← Option.some.inj h]
      exact .shutdownRefused hclosing hphase hm hsend
    · rename_i commands hsend
      rw [← Option.some.inj h]
      exact .shutdownSent hclosing hphase hm hsend
  · rename_i i rest k' hphase _
    obtain rfl : k' = k := by simpa using he
    obtain ⟨m, hm, h⟩ := Option.bind_eq_some_iff.mp h
    obtain ⟨hended, h⟩ := Option.ite_none_right_eq_some.mp h
    rw [← Option.some.inj h]
    exact .joined hclosing hphase hm hended
  · rename_i i rest k' hphase _
    obtain rfl : k' = k := by simpa using he
    obtain ⟨m, hm, h⟩ := Option.bind_eq_some_iff.mp h
    rw [← Option.some.inj h]
    exact .timedOut hclosing hphase hm
  · rename_i i rest k' hphase _
    obtain rfl : k' = k := by simpa using he
    obtain ⟨m, hm, h⟩ := Option.bind_eq_some_iff.mp h
    rw [← Option.some.inj h]
    exact .aborted hclosing hphase hm
  · rename_i k' hphase _
    obtain rfl : k' = k := by simpa using he
    rw [← Option.some.inj h]
    exact .finished hclosing (.inl hphase)
  · rename_i k' hphase _
    obtain rfl : k' = k := by simpa using he
    rw [← Option.some.inj h]
    exact .finished hclosing (.inr hphase)
  · exact nomatch h

theorem step_move (h : step graceful s e = some s') : Move graceful s e s' := by
  cases e with
  | start descriptor now =>
      rw [← Option.some.inj h]
      exact .start descriptor now
  | actor i what =>
      obtain ⟨m, hm, h⟩ := Option.bind_eq_some_iff.mp h
      split at h
      · exact nomatch h
      · rename_i what _ _ hnot _
        obtain ⟨m', hact, h⟩ := Option.bind_eq_some_iff.mp h
        obtain ⟨actor, commands, hdropped, hactor, hcommands, rfl⟩ := act_change hact
        rw [← Option.some.inj h]
        refine .acts rfl hm ?_ hdropped hactor hcommands
        cases what with
        | health answer => exact fun hphase => hnot answer hphase rfl
        | _ => exact id
  | tick i answer =>
      obtain ⟨m, hm, h⟩ := Option.bind_eq_some_iff.mp h
      obtain ⟨-, h⟩ := Option.ite_none_right_eq_some.mp h
      obtain ⟨m', hact, h⟩ := Option.bind_eq_some_iff.mp h
      obtain ⟨actor, commands, hdropped, hactor, hcommands, rfl⟩ := act_change hact
      rw [← Option.some.inj h]
      exact .acts rfl hm id hdropped hactor hcommands
  | dropActor i =>
      obtain ⟨m, hm, h⟩ := Option.bind_eq_some_iff.mp h
      obtain ⟨m', hdrop, h⟩ := Option.bind_eq_some_iff.mp h
      obtain ⟨haborted, hended, rfl⟩ := drop_change hdrop
      rw [← Option.some.inj h]
      exact .drops hm haborted hended
  | restart sourceId =>
      rw [← Option.some.inj h]
      exact .restart sourceId
  | sendRestart k => exact stepRestart_move h
  | dropRestart k =>
      obtain ⟨call, hcall, h⟩ := Option.bind_eq_some_iff.mp h
      split at h
      · rename_i i hphase
        rw [← Option.some.inj h]
        exact .restartDropped hcall hphase
      · exact nomatch h
  | shutdown =>
      rw [← Option.some.inj h]
      exact .shutdown
  | abort =>
      rw [← Option.some.inj h]
      exact .abort
  | sendShutdown k | join k | joinTimeout k | abortNext k | finish k =>
      exact stepClosing_move (by simp) h

end Steps

/-! ## What a source keeps -/

section Sources

variable {graceful : Nat} {held : Bool} {m m' : ManagedSource} {commands commands' : Commands}
  {what : ServiceEventSource.Event} {actor actor' : SourceActor}

/-- The command that a step of the actor takes. -/
def takes : ServiceEventSource.Event → Option SourceCommand
  | .command command => command
  | _ => none

theorem receive_same (h : takes what = none) (hreceive : ManagedSource.receive held commands what
    = some commands') : commands' = commands := by
  cases what with
  | command command =>
      cases command with
      | none => exact (Option.some.inj (Option.ite_none_right_eq_some.mp hreceive).2).symm
      | some command => exact nomatch h
  | _ => exact (Option.some.inj hreceive).symm

theorem receive_first {command : SourceCommand} (h : ManagedSource.receive held commands
    (.command (some command)) = some commands') : commands.receive = some (command, commands') := by
  rw [ManagedSource.receive] at h
  split at h
  · rename_i first commands'' hfirst
    obtain ⟨rfl, hsome⟩ := Option.ite_none_right_eq_some.mp h
    rw [hfirst, Option.some.inj hsome]
  · exact nomatch h

/-- What a step of the actor leaves of the channel. -/
theorem receive_law (h : ManagedSource.receive held commands what = some commands') :
    commands'.taken = commands.taken ++ (takes what).toList ∧
      commands'.accepted = commands.accepted ∧ commands'.isOpen = commands.isOpen ∧
      commands.queue.length = commands'.queue.length + (takes what).toList.length := by
  cases htakes : takes what with
  | none =>
      rw [receive_same htakes h]
      simp
  | some command =>
      have hwhat : what = .command (some command) := by
        cases what with
        | command command' => exact congrArg _ htakes
        | _ => exact nomatch htakes
      rw [hwhat] at h
      have hfirst := receive_first h
      obtain ⟨hqueue, htaken, -, hopen⟩ := Mailbox.receive_some hfirst
      exact ⟨htaken, Mailbox.accepted_receive hfirst, hopen, by rw [hqueue]; rfl⟩

@[simp] theorem settle_actor (m : ManagedSource) : m.settle.actor = m.actor := by
  rw [ManagedSource.settle]
  split <;> rfl

@[simp] theorem settle_aborted (m : ManagedSource) : m.settle.aborted = m.aborted := by
  rw [ManagedSource.settle]
  split <;> rfl

@[simp] theorem settle_dropped (m : ManagedSource) : m.settle.dropped = m.dropped := by
  rw [ManagedSource.settle]
  split <;> rfl

@[simp] theorem settle_taken (m : ManagedSource) : m.settle.commands.taken = m.commands.taken := by
  rw [ManagedSource.settle]
  split <;> rfl

@[simp] theorem settle_accepted (m : ManagedSource) :
    m.settle.commands.accepted = m.commands.accepted := by
  rw [ManagedSource.settle]
  split
  · exact Mailbox.accepted_close _
  · rfl

@[simp] theorem settle_ended (m : ManagedSource) : m.settle.ended ↔ m.ended := by
  rw [ManagedSource.ended, ManagedSource.ended, settle_actor, settle_dropped]

/-- The sending that is given up when there is no room. -/
theorem trySend_cases (m : ManagedSource) (command : SourceCommand) :
    m.trySend command = m ∨ ∃ commands, m.commands.send command = .accepted commands ∧
      m.trySend command = { m with commands } := by
  rw [ManagedSource.trySend]
  split
  · rename_i commands hsend
    exact .inr ⟨commands, hsend, rfl⟩
  · exact .inl rfl
  · exact .inl rfl

theorem afterStop_sourceId (graceful : Nat) (terminal : Bool) (status : EventSourceStatus)
    (outcome : ServiceEventSource.StopOutcome) :
    (status.afterStop graceful terminal outcome).sourceId = status.sourceId := by
  obtain ⟨-, h⟩ | ⟨-, error, h⟩ :=
    ServiceEventSource.afterStop_cases graceful terminal status outcome
  · rw [h]
    split <;> rfl
  · rw [h]
    rfl

/-- A source keeps its id. -/
theorem step_sourceId (h : ServiceEventSource.step graceful actor what = some actor') :
    actor'.status.sourceId = actor.status.sourceId := by
  cases ServiceEventSource.step_move h with
  | outside what =>
      cases what with
      | cloneToken =>
          rw [SourceActor.outside]
          split <;> rfl
      | dropToken | submitted => rfl
  | command waited command =>
      rcases command with _ | _ | _
      · rfl
      · rfl
      · rfl
  | stopped terminal waited outcome => exact afterStop_sourceId graceful terminal _ outcome
  | _ => rfl

/-- An actor that has returned stays so. -/
theorem step_returned (h : ServiceEventSource.step graceful actor what = some actor')
    (hphase : actor.phase = .returned) : actor'.phase = .returned := by
  obtain ⟨-, hsame⟩ | ⟨-, htop⟩ | ⟨-, hwaiting⟩ :=
    (ServiceEventSource.step_move h).of_idle (.inr (.inr hphase))
  · exact hsame.trans hphase
  · exact nomatch hphase.symm.trans htop
  · exact nomatch hphase.symm.trans hwaiting

/-- What the steps leave of a source. -/
structure Kept (m m' : ManagedSource) : Prop where
  sourceId : m'.actor.status.sourceId = m.actor.status.sourceId
  ended : m.ended → m'.ended
  aborted : m.aborted = true → m'.aborted = true

theorem Kept.refl (m : ManagedSource) : Kept m m := ⟨rfl, id, id⟩

theorem Kept.trans {m'' : ManagedSource} (h : Kept m m') (h' : Kept m' m'') : Kept m m'' :=
  ⟨h'.sourceId.trans h.sourceId, fun hended => h'.ended (h.ended hended),
    fun haborted => h'.aborted (h.aborted haborted)⟩

/-- A source that has a life: the actor has come from its beginning to where it
    is with the commands that it took from the channel, and the channel is open
    until the task ends. -/
structure Lives (graceful : Nat) (m : ManagedSource) : Prop where
  life : ∃ descriptor now es, Trace (ServiceEventSource.step graceful)
    (SourceActor.init descriptor now) es m.actor ∧ es.filterMap takes = m.commands.taken
  isOpen : m.commands.isOpen = true ↔ ¬ m.ended

theorem Lives.spawn (descriptor : HostEventSourceDescriptor) (now : Option Nat) :
    Lives graceful (.spawn descriptor now) where
  life := ⟨descriptor, now, [], trace_nil.mpr rfl, rfl⟩
  isOpen := iff_of_true rfl (by simp [ManagedSource.ended, ManagedSource.spawn, SourceActor.init])

theorem Change.kept (h : Change graceful held m m') : Kept m m' := by
  cases h with
  | acts what actor commands hdropped hactor =>
      refine ⟨by simpa using step_sourceId hactor, fun hended => ?_, by simp⟩
      obtain hphase | hgone := hended
      · exact (settle_ended _).mpr (.inl (step_returned hactor hphase))
      · exact nomatch hdropped.symm.trans hgone
  | sent => exact ⟨rfl, id, id⟩
  | aborted => exact ⟨rfl, id, fun _ => rfl⟩
  | dropped haborted => exact ⟨rfl, fun _ => .inr rfl, id⟩

theorem Change.lives (h : Change graceful held m m') (hlives : Lives graceful m) :
    Lives graceful m' := by
  obtain ⟨⟨descriptor, now, es, htrace, htaken⟩, hopen⟩ := hlives
  cases h with
  | acts what actor commands hdropped hactor hcommands =>
      obtain ⟨htaken', -, hopen', -⟩ := receive_law hcommands
      refine ⟨⟨descriptor, now, es ++ [what], ?_, ?_⟩, ?_⟩
      · rw [settle_actor]
        exact htrace.concat hactor
      · rw [settle_taken, htaken', List.filterMap_append, htaken, List.filterMap_cons]
        cases takes what <;> rfl
      · rw [settle_ended, ManagedSource.settle]
        split
        · rename_i hphase
          exact iff_of_false Bool.false_ne_true (not_not_intro (.inl hphase))
        · rename_i hphase
          have hbefore : ¬ m.ended := by
            rintro (hreturned | hgone)
            · exact hphase (step_returned hactor hreturned)
            · exact nomatch hdropped.symm.trans hgone
          refine iff_of_true (hopen'.trans (hopen.mpr hbefore)) ?_
          rintro (hreturned | hgone)
          · exact hphase hreturned
          · exact nomatch hdropped.symm.trans hgone
  | sent command commands hsend =>
      obtain ⟨hbefore, hafter, -, htaken'⟩ := Mailbox.send_accepted hsend
      exact ⟨⟨descriptor, now, es, htrace, htaken.trans htaken'.symm⟩,
        iff_of_true hafter (hopen.mp hbefore)⟩
  | aborted => exact ⟨⟨descriptor, now, es, htrace, htaken⟩, hopen⟩
  | dropped =>
      exact ⟨⟨descriptor, now, es, htrace, htaken⟩,
        iff_of_false Bool.false_ne_true (not_not_intro (.inr rfl))⟩

/-- Some changes in a row. -/
def Changes (graceful : Nat) : ManagedSource → ManagedSource → Prop :=
  Relation.ReflTransGen fun m m' => ∃ held, Change graceful held m m'

theorem Changes.single (h : Change graceful held m m') : Changes graceful m m' :=
  Relation.ReflTransGen.single ⟨held, h⟩

/-- A change the loop of the actor has no part in. -/
theorem Changes.free (h : Change graceful false m m') : Changes graceful m m' :=
  .single h

theorem Changes.kept (h : Changes graceful m m') : Kept m m' := by
  induction h with
  | refl => exact Kept.refl m
  | tail _ hlast ih =>
      obtain ⟨held, hlast⟩ := hlast
      exact ih.trans hlast.kept

theorem Changes.lives (h : Changes graceful m m') (hlives : Lives graceful m) :
    Lives graceful m' := by
  induction h with
  | refl => exact hlives
  | tail _ hlast ih =>
      obtain ⟨held, hlast⟩ := hlast
      exact hlast.lives ih

/-- A turn of the loop of `abort`. -/
theorem changes_abortNext (graceful : Nat) (m : ManagedSource) :
    Changes graceful m (m.trySend .shutdown).abort := by
  obtain h | ⟨commands, hsend, h⟩ := trySend_cases m .shutdown
  · rw [h]
    exact Changes.free .aborted
  · rw [h]
    exact (Changes.free (.sent .shutdown commands hsend)).trans (Changes.free .aborted)

end Sources

/-! ## The sources of a supervisor -/

section Managed

variable {graceful : Nat} {s s' : EventSourceSupervisor} {e : Event} {i : Nat}
  {m m' : ManagedSource}

theorem getElem?_setSource_self (m' : ManagedSource) (hm : s.managed[i]? = some m) :
    (s.setSource i m').managed[i]? = some m' :=
  List.getElem?_set_self (ListUpdate.lt_length_of_getElem? hm)

/-- What a step makes of the sources: one is started, or none or one changes. -/
theorem Move.managed (h : Move graceful s e s') :
    (∃ descriptor now, e = .start descriptor now ∧
      s'.managed = s.managed ++ [.spawn descriptor now]) ∨
    s'.managed = s.managed ∨
    ∃ i m m', s.managed[i]? = some m ∧ Changes graceful m m' ∧ s'.managed = s.managed.set i m' := by
  cases h with
  | start descriptor now => exact .inl ⟨descriptor, now, rfl, rfl⟩
  | acts _ hm _ hdropped hactor hcommands =>
      exact .inr (.inr ⟨_, _, _, hm, .single (.acts _ _ _ hdropped hactor hcommands), rfl⟩)
  | drops hm haborted hended =>
      exact .inr (.inr ⟨_, _, _, hm, .free (.dropped haborted hended), rfl⟩)
  | restartSent _ _ hm hsend | shutdownSent _ _ hm hsend =>
      exact .inr (.inr ⟨_, _, _, hm, .free (.sent _ _ hsend), rfl⟩)
  | timedOut _ _ hm =>
      exact .inr (.inr ⟨_, _, _, hm, .free .aborted, rfl⟩)
  | aborted _ _ hm => exact .inr (.inr ⟨_, _, _, hm, changes_abortNext graceful _, rfl⟩)
  | restart | restartRefused | restartDropped | shutdown | abort | shutdownRefused | joined
  | finished => exact .inr (.inl rfl)

/-- A source of the new state is started or comes from one of the old. -/
theorem Move.managed_inv (h : Move graceful s e s') (hm : s'.managed[i]? = some m') :
    (∃ m, s.managed[i]? = some m ∧ Changes graceful m m') ∨
      (i = s.managed.length ∧ ∃ descriptor now, e = .start descriptor now ∧
        m' = .spawn descriptor now) := by
  obtain ⟨descriptor, now, he, hmanaged⟩ | hmanaged | ⟨j, m, m'', hj, hchanges, hmanaged⟩ :=
    h.managed
  · rw [hmanaged] at hm
    obtain hold | ⟨hi, hnew⟩ := ListUpdate.getElem?_concat_inv hm
    · exact .inl ⟨m', hold, .refl⟩
    · exact .inr ⟨hi, descriptor, now, he, hnew⟩
  · rw [hmanaged] at hm
    exact .inl ⟨m', hm, .refl⟩
  · rw [hmanaged] at hm
    obtain ⟨rfl, rfl⟩ | ⟨-, hold⟩ := ListUpdate.getElem?_set_inv hm
    · exact .inl ⟨m, hj, hchanges⟩
    · exact .inl ⟨m', hold, .refl⟩

/-- A source is not lost. -/
theorem Move.managed_of_some (h : Move graceful s e s') (hm : s.managed[i]? = some m) :
    ∃ m', s'.managed[i]? = some m' ∧ Changes graceful m m' := by
  obtain ⟨descriptor, now, -, hmanaged⟩ | hmanaged | ⟨j, m₀, m'', hj, hchanges, hmanaged⟩ :=
    h.managed
  · rw [hmanaged]
    exact ⟨m, ListUpdate.getElem?_concat_of_some hm, .refl⟩
  · rw [hmanaged]
    exact ⟨m, hm, .refl⟩
  · rw [hmanaged]
    by_cases hij : j = i
    · subst hij
      obtain rfl : m₀ = m := Option.some.inj (hj.symm.trans hm)
      exact ⟨m'', getElem?_setSource_self m'' hm, hchanges⟩
    · exact ⟨m, by rw [List.getElem?_set_ne hij]; exact hm, .refl⟩

end Managed

/-! ## The invariant -/

section Invariant

variable {graceful : Nat} {s s' : EventSourceSupervisor} {e : Event} {i : Nat}

/-- Source `i` has this id. -/
def Names (s : EventSourceSupervisor) (i : Nat) (sourceId : String) : Prop :=
  ∃ m, s.managed[i]? = some m ∧ m.actor.status.sourceId = sourceId

/-- The task of source `i` has ended or was asked to abort. -/
def Gone (s : EventSourceSupervisor) (i : Nat) : Prop :=
  ∃ m, s.managed[i]? = some m ∧ (m.ended ∨ m.aborted = true)

/-- A closing call has gone as far as its phase says. -/
def Closing.Valid (s : EventSourceSupervisor) (closing : Closing) : Prop :=
  match closing.phase with
  | .sending rest => rest ≠ [] ∧ rest <:+ closing.taken
  | .joining rest | .aborting rest =>
      ∃ past, closing.taken = past ++ rest ∧ ∀ i ∈ past, Gone s i
  | .finished => ∀ i ∈ closing.taken, Gone s i

/-- The source that a call of `restart` has found. -/
def RestartPhase.source : RestartPhase → Option Nat
  | .sending i | .accepted i => some i
  | .failed _ | .dropped => none

/-- The calls of `restart` that source `i` has answered with `Ok`. -/
def answers (s : EventSourceSupervisor) (i : Nat) : Nat :=
  s.restarts.countP fun call => call.phase = .accepted i

/-- The Restart commands that a source was sent. -/
def ManagedSource.restarts (m : ManagedSource) : Nat := m.commands.accepted.count .restart

/-- The sources in the table and those that were taken from it. -/
def owned (s : EventSourceSupervisor) : List Nat :=
  s.sources.map Prod.snd ++ (s.closings.map Closing.taken).flatten

/-- What holds in every state of a supervisor. -/
structure Lawful (graceful : Nat) (s : EventSourceSupervisor) : Prop where
  lives : ∀ (i : Nat) (m : ManagedSource), s.managed[i]? = some m → Lives graceful m
  /-- every id is there once, -/
  table : Ascending s.sources
  /-- with a source of this id, -/
  entries : ∀ entry ∈ s.sources, Names s entry.2 entry.1
  /-- and a source is in the table or was taken by one call -/
  nodup : (owned s).Nodup
  started : ∀ i ∈ owned s, i < s.managed.length
  calls : ∀ call ∈ s.restarts, ∀ i, call.phase.source = some i → Names s i call.sourceId
  /-- an `Ok` of `restart` is a command that was accepted -/
  answered : ∀ (i : Nat) (m : ManagedSource), s.managed[i]? = some m → m.restarts = answers s i
  closing : ∀ closing ∈ s.closings, closing.Valid s

theorem lawful_default (graceful : Nat) : Lawful graceful .default where
  lives _ _ h := by simp [EventSourceSupervisor.default] at h
  table := List.Pairwise.nil
  entries := List.forall_mem_nil _
  nodup := List.nodup_nil
  started := List.forall_mem_nil _
  calls := List.forall_mem_nil _
  answered _ _ h := by simp [EventSourceSupervisor.default] at h
  closing := List.forall_mem_nil _

theorem Move.names (h : Move graceful s e s') {sourceId : String} (hn : Names s i sourceId) :
    Names s' i sourceId := by
  obtain ⟨m, hm, hid⟩ := hn
  obtain ⟨m', hm', hchanges⟩ := h.managed_of_some hm
  exact ⟨m', hm', hchanges.kept.sourceId.trans hid⟩

theorem Move.gone (h : Move graceful s e s') (hg : Gone s i) : Gone s' i := by
  obtain ⟨m, hm, hgone⟩ := hg
  obtain ⟨m', hm', hchanges⟩ := h.managed_of_some hm
  exact ⟨m', hm', hgone.imp hchanges.kept.ended hchanges.kept.aborted⟩

theorem Move.valid (h : Move graceful s e s') {closing : Closing} (hv : closing.Valid s) :
    closing.Valid s' := by
  rw [Closing.Valid] at hv ⊢
  split at hv
  · exact hv
  · obtain ⟨past, htaken, hpast⟩ := hv
    exact ⟨past, htaken, fun i hi => h.gone (hpast i hi)⟩
  · obtain ⟨past, htaken, hpast⟩ := hv
    exact ⟨past, htaken, fun i hi => h.gone (hpast i hi)⟩
  · exact fun i hi => h.gone (hv i hi)

theorem Move.lives (h : Move graceful s e s') (hs : Lawful graceful s) (i : Nat)
    (m' : ManagedSource) (hm : s'.managed[i]? = some m') : Lives graceful m' := by
  obtain ⟨m, hm, hchanges⟩ | ⟨-, descriptor, now, -, rfl⟩ := h.managed_inv hm
  · exact hchanges.lives (hs.lives i m hm)
  · exact .spawn descriptor now

/-- The table after a step. -/
theorem Move.sources (h : Move graceful s e s') :
    s'.sources = s.sources ∨ s'.sources = [] ∨ ∃ descriptor now, e = .start descriptor now ∧
      s'.managed = s.managed ++ [.spawn descriptor now] ∧
      s'.sources = insertKey descriptor.sourceId s.managed.length s.sources := by
  cases h with
  | start descriptor now => exact .inr (.inr ⟨descriptor, now, rfl, rfl, rfl⟩)
  | shutdown | abort => exact .inr (.inl rfl)
  | acts | drops | restart | restartSent | restartRefused | restartDropped | shutdownSent
  | shutdownRefused | joined | timedOut | aborted | finished => exact .inl rfl

theorem Move.table (h : Move graceful s e s') (hs : Lawful graceful s) : Ascending s'.sources := by
  obtain hsame | hnil | ⟨descriptor, now, -, -, hsources⟩ := h.sources
  · rw [hsame]
    exact hs.table
  · rw [hnil]
    exact List.Pairwise.nil
  · rw [hsources]
    exact insertKey_ascending hs.table

theorem Move.entries (h : Move graceful s e s') (hs : Lawful graceful s) :
    ∀ entry ∈ s'.sources, Names s' entry.2 entry.1 := by
  intro entry hentry
  obtain hsame | hnil | ⟨descriptor, now, -, hmanaged, hsources⟩ := h.sources
  · rw [hsame] at hentry
    exact h.names (hs.entries entry hentry)
  · rw [hnil] at hentry
    exact nomatch hentry
  · rw [hsources] at hentry
    obtain rfl | hold := mem_insertKey hentry
    · exact ⟨_, by rw [hmanaged]; exact ListUpdate.getElem?_concat_self, rfl⟩
    · exact h.names (hs.entries entry hold)

/-- A fresh source takes its place in the table. -/
theorem nodup_insertKey {sourceId : String} {sources : List (String × Nat)} {others : List Nat}
    (h : (sources.map Prod.snd ++ others).Nodup) (hi : i ∉ sources.map Prod.snd ++ others) :
    ((insertKey sourceId i sources).map Prod.snd ++ others).Nodup := by
  induction sources with
  | nil => exact List.nodup_cons.mpr ⟨hi, h⟩
  | cons entry sources ih =>
      obtain ⟨hentry, hrest⟩ := List.nodup_cons.mp h
      obtain ⟨hne, hi'⟩ := not_or.mp (mt List.mem_cons.mpr hi)
      rw [insertKey]
      split
      · exact List.nodup_cons.mpr ⟨hi, h⟩
      · split
        · exact List.nodup_cons.mpr ⟨hi', hrest⟩
        · refine List.nodup_cons.mpr ⟨fun hmem => ?_, ih hrest hi'⟩
          obtain hmem | hmem := List.mem_append.mp hmem
          · obtain ⟨entry', hentry', hsame⟩ := List.mem_map.mp hmem
            obtain rfl | hold := mem_insertKey hentry'
            · exact hne hsame
            · exact hentry (List.mem_append_left _ (List.mem_map.mpr ⟨entry', hold, hsame⟩))
          · exact hentry (List.mem_append_right _ hmem)

theorem map_taken_setClosing (s : EventSourceSupervisor) (k : Nat) (phase : ClosingPhase) :
    (s.setClosing k phase).closings.map Closing.taken = s.closings.map Closing.taken :=
  ListUpdate.map_modify fun _ => rfl

/-- Who owns the sources after a step. -/
theorem Move.owns (h : Move graceful s e s') :
    (∃ descriptor now, s'.managed = s.managed ++ [.spawn descriptor now] ∧
      s'.sources = insertKey descriptor.sourceId s.managed.length s.sources ∧
      s'.closings = s.closings) ∨ (owned s').Perm (owned s) := by
  cases h with
  | start descriptor now => exact .inl ⟨descriptor, now, rfl, rfl, rfl⟩
  | shutdown | abort =>
      refine .inr ?_
      rw [owned, owned]
      simp only [takeSources, List.map_nil, List.nil_append, List.map_append, List.flatten_append,
        List.map_cons, List.flatten_cons, List.flatten_nil, List.append_nil]
      exact List.perm_append_comm
  | acts | drops | restart | restartSent | restartRefused | restartDropped => exact .inr (.refl _)
  | shutdownSent | shutdownRefused | joined | timedOut | aborted | finished =>
      refine .inr (List.Perm.of_eq ?_)
      rw [owned, owned, map_taken_setClosing]
      rfl

theorem Move.length_le (h : Move graceful s e s') : s.managed.length ≤ s'.managed.length := by
  obtain ⟨descriptor, now, -, hmanaged⟩ | hmanaged | ⟨i, m, m', -, -, hmanaged⟩ := h.managed
  · rw [hmanaged, List.length_append]
    exact Nat.le_add_right _ _
  · rw [hmanaged]
  · rw [hmanaged, List.length_set]

theorem Move.nodup (h : Move graceful s e s') (hs : Lawful graceful s) : (owned s').Nodup := by
  obtain ⟨descriptor, now, -, hsources, hclosings⟩ | hperm := h.owns
  · rw [owned, hsources, hclosings]
    exact nodup_insertKey hs.nodup fun hmem => Nat.lt_irrefl _ (hs.started _ hmem)
  · exact hperm.nodup_iff.mpr hs.nodup

theorem Move.started (h : Move graceful s e s') (hs : Lawful graceful s) :
    ∀ i ∈ owned s', i < s'.managed.length := by
  intro i hi
  obtain ⟨descriptor, now, hmanaged, hsources, hclosings⟩ | hperm := h.owns
  · rw [hmanaged, List.length_append]
    rw [owned, hsources, hclosings] at hi
    obtain hi | hi := List.mem_append.mp hi
    · obtain ⟨entry, hentry, rfl⟩ := List.mem_map.mp hi
      obtain rfl | hold := mem_insertKey hentry
      · exact Nat.lt_succ_self _
      · have := hs.started _ (List.mem_append_left _ (List.mem_map.mpr ⟨entry, hold, rfl⟩))
        exact Nat.lt_succ_of_lt this
    · exact Nat.lt_succ_of_lt (hs.started i (List.mem_append_right _ hi))
  · exact Nat.lt_of_lt_of_le (hs.started i (hperm.mem_iff.mp hi)) h.length_le

/-- The calls of `restart` after a step. -/
theorem Move.restarts (h : Move graceful s e s') : s'.restarts = s.restarts ∨
    (∃ sourceId, s'.restarts = s.restarts ++ [⟨sourceId, s.lookup sourceId⟩]) ∨
    (∃ k i call phase, s.restarts[k]? = some call ∧ call.phase = .sending i ∧
      s'.restarts = s.restarts.modify k (fun call => { call with phase := phase }) ∧
      (phase = .accepted i ∨ phase.source = none)) := by
  cases h with
  | restart sourceId => exact .inr (.inl ⟨sourceId, rfl⟩)
  | restartSent hcall hphase =>
      exact .inr (.inr ⟨_, _, _, _, hcall, hphase, rfl, .inl rfl⟩)
  | restartRefused hcall hphase | restartDropped hcall hphase =>
      exact .inr (.inr ⟨_, _, _, _, hcall, hphase, rfl, .inr rfl⟩)
  | start | acts | drops | shutdown | abort | shutdownSent | shutdownRefused | joined | timedOut
  | aborted | finished => exact .inl rfl

/-- What `restart` finds is a source with the id. -/
theorem lookup_names (hs : Lawful graceful s) {sourceId : String}
    (h : (s.lookup sourceId).source = some i) : (sourceId, i) ∈ s.sources ∧
      s.lookup sourceId = .sending i := by
  rw [lookup] at h ⊢
  cases hlookup : s.sources.lookup sourceId with
  | none =>
      rw [hlookup] at h
      exact nomatch h
  | some j =>
      rw [hlookup] at h
      obtain rfl : j = i := Option.some.inj h
      have hkeys : (s.sources.map Prod.fst).Nodup := by
        rw [List.Nodup, List.pairwise_map]
        exact hs.table.imp fun hlt => ne_of_lt hlt
      exact ⟨(ListUpdate.lookup_eq_some_iff hkeys).mp hlookup, rfl⟩

theorem Move.calls (h : Move graceful s e s') (hs : Lawful graceful s) :
    ∀ call ∈ s'.restarts, ∀ i, call.phase.source = some i → Names s' i call.sourceId := by
  intro call hcall i hi
  obtain hsame | ⟨sourceId, hnew⟩ | ⟨k, j, old, phase, hold, hphase, hmodify, hnext⟩ := h.restarts
  · rw [hsame] at hcall
    exact h.names (hs.calls call hcall i hi)
  · rw [hnew] at hcall
    obtain hcall | hcall := List.mem_append.mp hcall
    · exact h.names (hs.calls call hcall i hi)
    · obtain rfl := List.mem_singleton.mp hcall
      exact h.names (hs.entries _ (lookup_names hs hi).1)
  · rw [hmodify] at hcall
    obtain ⟨k', hk'⟩ := List.mem_iff_getElem?.mp hcall
    obtain ⟨before, hbefore, ⟨rfl, rfl⟩ | ⟨-, rfl⟩⟩ := ListUpdate.getElem?_modify_inv hk'
    · obtain rfl : before = old := Option.some.inj (hbefore.symm.trans hold)
      obtain rfl | hnone := hnext
      · obtain rfl : j = i := Option.some.inj hi
        have hsource : before.phase.source = some j := by rw [hphase]; rfl
        exact h.names (hs.calls before (List.mem_of_getElem? hold) j hsource)
      · exact nomatch hnone.symm.trans hi
    · exact h.names (hs.calls call (List.mem_of_getElem? hbefore) i hi)

/-- The closing calls after a step. -/
theorem Move.closings (h : Move graceful s e s') : s'.closings = s.closings ∨
    (s'.closings = s.closings ++ [⟨s.sources.map Prod.snd,
      afterSend (s.sources.map Prod.snd) (s.sources.map Prod.snd)⟩]) ∨
    (s'.closings = s.closings ++ [⟨s.sources.map Prod.snd, .aborting (s.sources.map Prod.snd)⟩]) ∨
    ∃ k closing phase, s.closings[k]? = some closing ∧
      s'.closings = s.closings.modify k (fun closing => { closing with phase := phase }) ∧
      ((∃ i rest, closing.phase = .sending (i :: rest) ∧ phase = afterSend closing.taken rest) ∨
        (∃ i rest, (closing.phase = .joining (i :: rest) ∧ phase = .joining rest ∨
          closing.phase = .aborting (i :: rest) ∧ phase = .aborting rest) ∧ Gone s' i) ∨
        ((closing.phase = .joining [] ∨ closing.phase = .aborting []) ∧ phase = .finished)) := by
  cases h with
  | shutdown => exact .inr (.inl rfl)
  | abort => exact .inr (.inr (.inl rfl))
  | shutdownSent hclosing hphase | shutdownRefused hclosing hphase =>
      exact .inr (.inr (.inr ⟨_, _, _, hclosing, rfl, .inl ⟨_, _, hphase, rfl⟩⟩))
  | joined hclosing hphase hm hended =>
      exact .inr (.inr (.inr ⟨_, _, _, hclosing, rfl,
        .inr (.inl ⟨_, _, .inl ⟨hphase, rfl⟩, _, hm, .inl hended⟩)⟩))
  | timedOut hclosing hphase hm =>
      exact .inr (.inr (.inr ⟨_, _, _, hclosing, rfl,
        .inr (.inl ⟨_, _, .inl ⟨hphase, rfl⟩, _, getElem?_setSource_self _ hm, .inr rfl⟩)⟩))
  | aborted hclosing hphase hm =>
      exact .inr (.inr (.inr ⟨_, _, _, hclosing, rfl,
        .inr (.inl ⟨_, _, .inr ⟨hphase, rfl⟩, _, getElem?_setSource_self _ hm, .inr rfl⟩)⟩))
  | finished hclosing hphase =>
      exact .inr (.inr (.inr ⟨_, _, _, hclosing, rfl, .inr (.inr ⟨hphase, rfl⟩)⟩))
  | start | acts | drops | restart | restartSent | restartRefused | restartDropped => exact .inl rfl

theorem afterSend_valid (s : EventSourceSupervisor) {taken rest : List Nat}
    (h : rest <:+ taken) : (Closing.mk taken (afterSend taken rest)).Valid s := by
  cases rest with
  | nil => exact ⟨[], rfl, List.forall_mem_nil _⟩
  | cons i rest => exact ⟨List.cons_ne_nil i rest, h⟩

/-- One more source is seen to be gone. -/
theorem valid_next {taken rest : List Nat}
    (h : ∃ past, taken = past ++ i :: rest ∧ ∀ j ∈ past, Gone s j) (hi : Gone s i) :
    ∃ past, taken = past ++ rest ∧ ∀ j ∈ past, Gone s j := by
  obtain ⟨past, htaken, hpast⟩ := h
  refine ⟨past ++ [i], htaken.trans (List.append_cons past i rest), fun j hj => ?_⟩
  obtain hj | hj := List.mem_append.mp hj
  · exact hpast j hj
  · exact List.mem_singleton.mp hj ▸ hi

/-- No source is left. -/
theorem valid_last {taken : List Nat}
    (h : ∃ past, taken = past ++ [] ∧ ∀ j ∈ past, Gone s j) : ∀ j ∈ taken, Gone s j := by
  obtain ⟨past, htaken, hpast⟩ := h
  rw [htaken, List.append_nil]
  exact hpast

theorem Move.closing (h : Move graceful s e s') (hs : Lawful graceful s) :
    ∀ closing ∈ s'.closings, closing.Valid s' := by
  intro closing hclosing
  obtain hsame | hnew | hnew | ⟨k, old, phase, hold, hmodify, hnext⟩ := h.closings
  · rw [hsame] at hclosing
    exact h.valid (hs.closing closing hclosing)
  · rw [hnew] at hclosing
    obtain hmem | hmem := List.mem_append.mp hclosing
    · exact h.valid (hs.closing closing hmem)
    · rw [List.mem_singleton.mp hmem]
      exact afterSend_valid s' (List.suffix_refl _)
  · rw [hnew] at hclosing
    obtain hmem | hmem := List.mem_append.mp hclosing
    · exact h.valid (hs.closing closing hmem)
    · rw [List.mem_singleton.mp hmem]
      exact ⟨[], rfl, List.forall_mem_nil _⟩
  · rw [hmodify] at hclosing
    obtain ⟨k', hk'⟩ := List.mem_iff_getElem?.mp hclosing
    obtain ⟨before, hbefore, ⟨rfl, rfl⟩ | ⟨-, rfl⟩⟩ := ListUpdate.getElem?_modify_inv hk'
    · obtain rfl : before = old := Option.some.inj (hbefore.symm.trans hold)
      have hvalid := h.valid (hs.closing before (List.mem_of_getElem? hold))
      rw [Closing.Valid] at hvalid
      obtain ⟨i, rest, hphase, rfl⟩ | ⟨i, rest, ⟨hphase, rfl⟩ | ⟨hphase, rfl⟩, hgone⟩ |
        ⟨hphase | hphase, rfl⟩ := hnext
      · rw [hphase] at hvalid
        exact afterSend_valid s' ((List.suffix_cons i rest).trans hvalid.2)
      · rw [hphase] at hvalid
        exact valid_next hvalid hgone
      · rw [hphase] at hvalid
        exact valid_next hvalid hgone
      · rw [hphase] at hvalid
        exact valid_last hvalid
      · rw [hphase] at hvalid
        exact valid_last hvalid
    · exact h.valid (hs.closing closing (List.mem_of_getElem? hbefore))

/-! ### Every `Ok` is an accepted command -/

theorem restarts_send {command : SourceCommand} {m : ManagedSource} {commands : Commands}
    (h : m.commands.send command = .accepted commands) :
    ({ m with commands } : ManagedSource).restarts
      = m.restarts + if command = .restart then 1 else 0 := by
  rw [ManagedSource.restarts, ManagedSource.restarts, Mailbox.accepted_send h, List.count_append,
    List.count_singleton]
  cases command <;> rfl

theorem restarts_abortNext (m : ManagedSource) :
    (m.trySend .shutdown).abort.restarts = m.restarts := by
  obtain h | ⟨commands, hsend, h⟩ := trySend_cases m .shutdown
  · rw [h]
    rfl
  · rw [h]
    exact restarts_send hsend

theorem answers_setRestart {k j : Nat} {call : RestartCall} (phase : RestartPhase)
    (hcall : s.restarts[k]? = some call) (hphase : call.phase = .sending j) :
    answers (s.setRestart k phase) i = answers s i + if phase = .accepted i then 1 else 0 := by
  have hcount := ListUpdate.countP_modify (p := fun call : RestartCall => call.phase = .accepted i)
    (f := fun call => { call with phase := phase }) hcall
  simp only [hphase, reduceCtorEq, decide_false, Bool.toNat_false, Nat.add_zero] at hcount
  rw [answers, answers, setRestart, hcount]
  split
  · rename_i haccepted
    rw [haccepted, decide_eq_true rfl]
    rfl
  · rename_i hnot
    rw [decide_eq_false hnot]
    rfl

/-- What a step adds to the commands and to the answers of a source is the same. -/
theorem Move.answers (h : Move graceful s e s') {m m' : ManagedSource}
    (hm : s.managed[i]? = some m) (hm' : s'.managed[i]? = some m') :
    m'.restarts + answers s i = m.restarts + answers s' i := by
  have hset : ∀ {j : Nat} {old new : ManagedSource}, s.managed[j]? = some old →
      (s.managed.set j new)[i]? = some m' → new.restarts = old.restarts →
        m'.restarts = m.restarts := by
    intro j old new hold hnew hsame
    obtain ⟨rfl, rfl⟩ | ⟨-, hother⟩ := ListUpdate.getElem?_set_inv hnew
    · obtain rfl : old = m := Option.some.inj (hold.symm.trans hm)
      exact hsame
    · rw [Option.some.inj (hother.symm.trans hm)]
  cases h with
  | start descriptor now =>
      have hstay := ListUpdate.getElem?_concat_of_some (a := ManagedSource.spawn descriptor now) hm
      rw [Option.some.inj (hm'.symm.trans hstay)]
      rfl
  | acts _ hold _ _ _ hcommands =>
      rw [hset hold hm' ?_]
      · rfl
      · rw [ManagedSource.restarts, settle_accepted, (receive_law hcommands).2.1]
        rfl
  | drops hold =>
      rw [hset hold hm' ?_]
      · rfl
      · exact congrArg (List.count _) (Mailbox.accepted_close _)
  | restart sourceId =>
      rw [Option.some.inj (hm'.symm.trans hm)]
      have hnone : decide ((s.lookup sourceId) = .accepted i) = false := by
        rw [lookup]
        split <;> rfl
      simp [ServiceSourceTable.answers, hnone]
  | restartSent hcall hphase hold hsend =>
      rw [answers_setRestart (s := s.setSource _ _) _ hcall hphase]
      obtain ⟨rfl, rfl⟩ | ⟨hne, hother⟩ := ListUpdate.getElem?_set_inv hm'
      · obtain rfl := Option.some.inj (hold.symm.trans hm)
        rw [restarts_send hsend, if_pos rfl, if_pos rfl]
        show _ + 1 + ServiceSourceTable.answers s _ = _ + (ServiceSourceTable.answers s _ + 1)
        omega
      · rw [Option.some.inj (hother.symm.trans hm), if_neg fun heq => hne (by simpa using heq)]
        rfl
  | restartRefused hcall hphase | restartDropped hcall hphase =>
      rw [answers_setRestart _ hcall hphase, if_neg nofun, Option.some.inj (hm'.symm.trans hm)]
      rfl
  | shutdownSent _ _ hold hsend =>
      rw [hset hold hm' (restarts_send hsend)]
      rfl
  | timedOut _ _ hold =>
      rw [hset hold hm' rfl]
      rfl
  | aborted _ _ hold =>
      rw [hset hold hm' (restarts_abortNext _)]
      rfl
  | shutdown | abort | shutdownRefused | joined | finished =>
      rw [Option.some.inj (hm'.symm.trans hm)]
      rfl

theorem Move.answered (h : Move graceful s e s') (hs : Lawful graceful s) (i : Nat)
    (m' : ManagedSource) (hm' : s'.managed[i]? = some m') :
    m'.restarts = ServiceSourceTable.answers s' i := by
  obtain ⟨m, hm, -⟩ | ⟨rfl, descriptor, now, rfl, rfl⟩ := h.managed_inv hm'
  · have hstep := h.answers hm hm'
    have hbefore := hs.answered i m hm
    omega
  · -- nobody can have found the source before it was started
    cases h with
    | start =>
        refine (List.countP_eq_zero.mpr fun call hcall haccepted => ?_).symm
        have hsource : call.phase.source = some s.managed.length := by
          rw [of_decide_eq_true haccepted]
          rfl
        obtain ⟨m, hm, -⟩ := hs.calls call hcall _ hsource
        exact Nat.lt_irrefl _ (ListUpdate.lt_length_of_getElem? hm)
    | acts hacts => exact nomatch hacts

theorem Move.lawful (h : Move graceful s e s') (hs : Lawful graceful s) : Lawful graceful s' where
  lives := h.lives hs
  table := h.table hs
  entries := h.entries hs
  nodup := h.nodup hs
  started := h.started hs
  calls := h.calls hs
  answered := h.answered hs
  closing := h.closing hs

theorem lawful_of_reaches (h : Reaches (step graceful) Free .default s) : Lawful graceful s :=
  h.invariant (lawful_default graceful) fun _ _ _ hs _ hstep => (step_move hstep).lawful hs

end Invariant

/-! ## The law of the supervisor -/

section Law

variable {graceful : Nat} {s s' : EventSourceSupervisor} {i : Nat}

/-- The Restart commands of a history are the ones it takes from the channel. -/
theorem countP_isRestart (es : List ServiceEventSource.Event) :
    es.countP ServiceEventSource.Event.isRestart = (es.filterMap takes).count .restart := by
  induction es with
  | nil => rfl
  | cons e es ih =>
      rw [List.countP_cons, List.filterMap_cons, ih]
      cases e with
      | command command =>
          match command with
          | none => rfl
          | some .restart => exact (List.count_cons_self ..).symm
          | some .shutdown =>
              have hne : SourceCommand.shutdown ≠ .restart := by decide
              exact (List.count_cons_of_ne hne).symm
      | _ => rfl

/-- The counter of a source counts the commands that it took. -/
theorem Lives.reconnects {m : ManagedSource} (h : Lives graceful m) :
    m.actor.status.reconnects
      = min (m.commands.taken.count .restart) ServiceEventSource.u32Max := by
  obtain ⟨descriptor, now, es, htrace, htaken⟩ := h.life
  rw [← htaken, ← countP_isRestart]
  exact htrace.invariant (fun es a => a.status.reconnects
      = min (es.countP ServiceEventSource.Event.isRestart) ServiceEventSource.u32Max)
    (Nat.zero_min _).symm fun _ _ _ _ ih hs => (ServiceEventSource.step_move hs).reconnects ih

/-- **THE LAW OF THE SUPERVISOR**, in every state of every interleaving of its
    sources and of the calls of `start`, `restart`, `shutdown` and `abort`: each
    source lives a life of `run_source_actor` with the commands it took, which
    were accepted before all others; its Restart commands are the calls of
    `restart` that returned `Ok` from it, which asked for its id, and those it
    took are its reconnects; a source is in the table or belongs to one call
    that closes, and those of a call that returned have ended or are aborted. -/
theorem supervisor_law (h : Reaches (step graceful) Free .default s) :
    (∀ (i : Nat) (m : ManagedSource), s.managed[i]? = some m →
      (∃ descriptor now es, Trace (ServiceEventSource.step graceful)
        (SourceActor.init descriptor now) es m.actor ∧ es.filterMap takes = m.commands.taken) ∧
      m.commands.taken <+: m.commands.accepted ∧
      m.commands.accepted.count .restart = answers s i ∧
      m.actor.status.reconnects
        = min (m.commands.taken.count .restart) ServiceEventSource.u32Max ∧
      (m.commands.isOpen = true ↔ ¬ m.ended)) ∧
    (∀ call ∈ s.restarts, ∀ i, call.phase = .accepted i → Names s i call.sourceId) ∧
    (owned s).Nodup ∧
    ∀ closing ∈ s.closings, closing.phase = .finished → ∀ i ∈ closing.taken, Gone s i := by
  have hs := lawful_of_reaches h
  refine ⟨fun i m hm => ?_, fun call hcall i hi => ?_, hs.nodup, fun closing hclosing hphase => ?_⟩
  · have hlives := hs.lives i m hm
    exact ⟨hlives.life, m.commands.taken_prefix, hs.answered i m hm, hlives.reconnects,
      hlives.isOpen⟩
  · exact hs.calls call hcall i (by rw [hi]; rfl)
  · have hvalid := hs.closing closing hclosing
    rw [Closing.Valid, hphase] at hvalid
    exact hvalid

/-! ### Two restarts and a shutdown -/

/-- A source is restarted, a second restart finds it shut down, a third one does
    not find it. -/
def closedRun : List Event :=
  [.start ⟨"demo", "demo.plugin", "demo"⟩ none, .actor 0 .callStart, .actor 0 .startReturned,
    .actor 0 (.health (.ok .healthy)), .restart "demo", .sendRestart 0,
    .actor 0 (.command (some .restart)), .restart "demo", .shutdown, .sendShutdown 0,
    .actor 0 .callShutdown, .actor 0 .shutdownReturned, .actor 0 (.stopped (.finished .ok)),
    .actor 0 .callStart, .actor 0 (.startPanicked .other), .actor 0 (.command (some .shutdown)),
    .actor 0 .callShutdown, .actor 0 .shutdownReturned, .actor 0 (.stopped .timedOut),
    .sendRestart 1, .join 0, .finish 0, .restart "demo"]

/-- The supervisor after that. -/
def closedState : EventSourceSupervisor :=
  (run (step 50) Free .default closedRun).getD .default

theorem closedState_reached : Reaches (step 50) Free .default closedState :=
  reaches_getD (by decide)

theorem supervisor_law_closed :
    (∀ call ∈ closedState.restarts, ∀ i, call.phase = .accepted i →
      Names closedState i call.sourceId) ∧
    (owned closedState).Nodup ∧ ∀ closing ∈ closedState.closings, closing.phase = .finished →
      ∀ i ∈ closing.taken, Gone closedState i :=
  (supervisor_law closedState_reached).2

end Law

/-! ## A call that closes comes to its end -/

section Closings

variable {graceful : Nat} {s s' : EventSourceSupervisor} {e : Event} {i k : Nat}
  {m : ManagedSource} {taken : List Nat}

/-- The actor has its last command. -/
def last : Phase → Bool
  | .signal terminal _ | .shutdown terminal _ | .stopping terminal _ => terminal
  | .returned => true
  | .top | .starting | .started | .select | .waiting => false

/-- The steps of its own that an actor makes at most before it waits, and those
    that a last command costs. -/
def phaseWork : Phase → Nat
  | .signal true _ => 3
  | .shutdown true _ => 2
  | .stopping true _ => 1
  | .returned => 0
  | .signal false _ => 11
  | .shutdown false _ => 10
  | .stopping false _ => 9
  | .top => 8
  | .starting => 7
  | .started => 6
  | .select => 5
  | .waiting => 4

/-- The steps that a source makes at most by itself; a command costs nine. -/
def ManagedSource.work (m : ManagedSource) : Nat :=
  if m.dropped then 0
  else phaseWork m.actor.phase
    + if last m.actor.phase then 0 else 9 * m.commands.queue.length

theorem work_of_not_dropped (h : m.dropped = false) :
    m.work = phaseWork m.actor.phase
      + if last m.actor.phase then 0 else 9 * m.commands.queue.length :=
  if_neg (Bool.not_eq_true _ ▸ h)

theorem work_settle (m : ManagedSource) : m.settle.work = m.work := by
  rw [ManagedSource.settle]
  split
  · rename_i hphase
    simp [ManagedSource.work, hphase, last]
  · rfl

theorem phaseWork_le (phase : Phase) : phaseWork phase ≤ 11 := by
  cases phase with
  | signal terminal waited | shutdown terminal waited | stopping terminal waited =>
      cases terminal <;> simp [phaseWork]
  | _ => simp [phaseWork]

theorem work_le (m : ManagedSource) : m.work ≤ 47 := by
  have hphase := phaseWork_le m.actor.phase
  have hqueue := m.commands.bounded
  rw [ManagedSource.work]
  split
  · exact Nat.zero_le _
  · split <;> omega

theorem work_sent {command : SourceCommand} {commands : Commands}
    (h : m.commands.send command = .accepted commands) :
    ({ m with commands } : ManagedSource).work ≤ m.work + 9 := by
  have hlength : commands.queue.length = m.commands.queue.length + 1 := by
    rw [(Mailbox.send_accepted h).2.2.1, List.length_append]
    rfl
  simp only [ManagedSource.work, hlength]
  split
  · exact Nat.zero_le _
  · split <;> omega

theorem work_abort (m : ManagedSource) : m.abort.work = m.work := rfl

theorem work_abortNext (m : ManagedSource) : (m.trySend .shutdown).abort.work ≤ m.work + 9 := by
  rw [work_abort]
  obtain h | ⟨commands, hsend, h⟩ := trySend_cases m .shutdown
  · rw [h]
    exact Nat.le_add_right _ _
  · rw [h]
    exact work_sent hsend

theorem not_last_of_waiting {waited : Bool} {phase : Phase}
    (h : phase = if waited then .waiting else .select) :
    last phase = false ∧ 4 ≤ phaseWork phase := by
  subst h
  cases waited <;> decide

/-- The end of `stop_source` is a step ahead. -/
theorem phaseWork_stop (graceful : Nat) (a : SourceActor) (terminal waited : Bool)
    (outcome : ServiceEventSource.StopOutcome)
    (h : a.phase = .shutdown terminal waited ∨ a.phase = .stopping terminal waited) :
    last (a.stop graceful terminal waited outcome).phase = last a.phase ∧
      phaseWork (a.stop graceful terminal waited outcome).phase < phaseWork a.phase := by
  have hafter : ∀ status, ServiceEventSource.afterInner status = .waiting ∨
      ServiceEventSource.afterInner status = .top := by
    intro status
    rw [ServiceEventSource.afterInner]
    split
    · exact .inl rfl
    · exact .inr rfl
  cases terminal with
  | true =>
      obtain h | h := h <;> rw [h] <;>
        exact ⟨rfl, by show phaseWork .returned < _; simp [phaseWork]⟩
  | false =>
      have hphase : (a.stop graceful false waited outcome).phase = .waiting ∨
          (a.stop graceful false waited outcome).phase = .top := by
        cases waited with
        | true => exact .inr rfl
        | false => exact hafter _
      obtain hphase | hphase := hphase <;> obtain h | h := h <;> rw [h, hphase] <;>
        exact ⟨rfl, by simp [phaseWork]⟩

/-- **AN ACTOR'S OWN STEP** brings it nearer to where it waits or ends, unless it
    is a health tick; the steps of others leave it where it is. -/
theorem work_acts {held : Bool} {what : ServiceEventSource.Event} {actor : SourceActor}
    {commands : Commands} (hdropped : m.dropped = false)
    (hactor : ServiceEventSource.step graceful m.actor what = some actor)
    (hcommands : ManagedSource.receive held m.commands what = some commands) :
    (ManagedSource.settle { m with actor, commands }).work ≤ m.work ∧
      (what.own = true → (∀ answer, what = .health answer → m.actor.phase ≠ .select) →
        (ManagedSource.settle { m with actor, commands }).work < m.work) := by
  rw [work_settle, work_of_not_dropped (m := { m with actor, commands }) hdropped,
    work_of_not_dropped hdropped]
  have hqueue := (receive_law hcommands).2.2.2
  -- a step that takes nothing and goes on to a phase that is nearer
  have hnear : takes what = none → last actor.phase = last m.actor.phase →
      phaseWork actor.phase < phaseWork m.actor.phase →
      phaseWork actor.phase + (if last actor.phase then 0 else 9 * commands.queue.length)
        < phaseWork m.actor.phase
          + if last m.actor.phase then 0 else 9 * m.commands.queue.length := by
    intro htakes hlast hlt
    rw [receive_same htakes hcommands, hlast]
    omega
  cases ServiceEventSource.step_move hactor with
  | outside what =>
      rw [receive_same rfl hcommands, SourceActor.outside_phase]
      exact ⟨Nat.le_refl _, nofun⟩
  | tick answer hphase =>
      rw [receive_same rfl hcommands]
      exact ⟨Nat.le_refl _, fun _ htick => absurd hphase (htick answer rfl)⟩
  | callStart hphase | startReturned hphase | startPanicked _ hphase | running _ hphase
  | ended _ hphase =>
      have hlt := hnear rfl (by rw [hphase]; rfl) (by rw [hphase]; simp [phaseWork])
      exact ⟨Nat.le_of_lt hlt, fun _ _ => hlt⟩
  | callShutdown terminal waited hphase | shutdownReturned terminal waited hphase =>
      have hlt := hnear rfl (by rw [hphase]; rfl)
        (by rw [hphase]; cases terminal <;> simp [phaseWork])
      exact ⟨Nat.le_of_lt hlt, fun _ _ => hlt⟩
  | stopped terminal waited outcome hphase =>
      obtain ⟨hlast, hwork⟩ := phaseWork_stop graceful m.actor terminal waited outcome hphase
      have hlt := hnear rfl hlast hwork
      exact ⟨Nat.le_of_lt hlt, fun _ _ => hlt⟩
  | command waited command hphase =>
      obtain ⟨hlast, hwork⟩ := not_last_of_waiting hphase
      rw [hlast]
      match command with
      | some .restart =>
          have hlength : m.commands.queue.length = commands.queue.length + 1 := hqueue
          rw [hlength]
          show 11 + 9 * commands.queue.length ≤ _ ∧ (_ → _ → 11 + 9 * commands.queue.length < _)
          simp only [Bool.false_eq_true, if_false]
          exact ⟨by omega, fun _ _ => by omega⟩
      | some .shutdown | none =>
          show 3 ≤ _ ∧ (_ → _ → 3 < _)
          exact ⟨by omega, fun _ _ => by omega⟩

/-- The steps that source `i` makes at most by itself. -/
def workAt (s : EventSourceSupervisor) (i : Nat) : Nat :=
  match s.managed[i]? with
  | some m => m.work
  | none => 0

/-- The call will send to one of these sources. -/
def RestartCall.sendsTo (taken : List Nat) (call : RestartCall) : Bool :=
  match call.phase with
  | .sending i => i ∈ taken
  | .accepted _ | .failed _ | .dropped => false

/-- The calls of `restart` that have found one of these sources. -/
def pending (s : EventSourceSupervisor) (taken : List Nat) : Nat :=
  s.restarts.countP (·.sendsTo taken)

/-- What a call that closes has before it, in steps of its own and of the
    sources that it gives a command. -/
def ClosingPhase.left (count : Nat) : ClosingPhase → Nat
  | .sending rest => 10 * rest.length + count
  | .joining rest => rest.length
  | .aborting rest => 10 * rest.length
  | .finished => 0

/-- The steps until call `k` is over. -/
def rank (k : Nat) (taken : List Nat) (s : EventSourceSupervisor) : Nat :=
  10 * pending s taken + (match s.closings[k]? with
    | some closing => closing.phase.left taken.length
    | none => 0) + (taken.map (workAt s)).sum

/-- Call `k` has taken these sources. -/
def Took (graceful k : Nat) (taken : List Nat) (s : EventSourceSupervisor) : Prop :=
  Lawful graceful s ∧ ∃ phase, s.closings[k]? = some ⟨taken, phase⟩

/-- Call `k` is under way with these sources. -/
def Closes (graceful k : Nat) (taken : List Nat) (s : EventSourceSupervisor) : Prop :=
  Lawful graceful s ∧ ∃ phase, s.closings[k]? = some ⟨taken, phase⟩ ∧ phase ≠ .finished

theorem Closes.took (h : Closes graceful k taken s) : Took graceful k taken s :=
  ⟨h.1, h.2.imp fun _ => And.left⟩

theorem workAt_of_some (h : s.managed[i]? = some m) : workAt s i = m.work := by
  rw [workAt, h]

theorem sum_work_set (m' : ManagedSource) (hn : taken.Nodup) (hm : s.managed[i]? = some m) :
    (taken.map (workAt (s.setSource i m'))).sum + (if i ∈ taken then m.work else 0)
      = (taken.map (workAt s)).sum + if i ∈ taken then m'.work else 0 := by
  have hother : ∀ j, j ≠ i → workAt (s.setSource i m') j = workAt s j := by
    intro j hj
    rw [workAt, workAt, setSource, List.getElem?_set_ne (Ne.symm hj)]
  by_cases hi : i ∈ taken
  · rw [if_pos hi, if_pos hi, ← workAt_of_some hm, ← workAt_of_some (getElem?_setSource_self m' hm)]
    exact ListUpdate.sum_map_update hn hi fun j _ hj => hother j hj
  · rw [if_neg hi, if_neg hi, List.map_congr_left fun j hj => hother j fun hji => hi (hji ▸ hj)]

/-- Two calls have taken different sources. -/
theorem Lawful.disjoint (hs : Lawful graceful s) {k' : Nat} {closing closing' : Closing}
    (hk : s.closings[k]? = some closing) (hk' : s.closings[k']? = some closing') (hne : k' ≠ k)
    (hi : i ∈ closing'.taken) : i ∉ closing.taken := by
  have hflatten := (List.nodup_append.mp hs.nodup).2.1
  have hpairwise := (List.nodup_flatten.mp hflatten).2
  rw [List.pairwise_map, List.pairwise_iff_getElem] at hpairwise
  obtain ⟨hlt, rfl⟩ := List.getElem?_eq_some_iff.mp hk
  obtain ⟨hlt', rfl⟩ := List.getElem?_eq_some_iff.mp hk'
  intro hmem
  obtain hless | hless := Nat.lt_or_gt_of_ne hne
  · exact hpairwise k' k hlt' hlt hless hi hmem
  · exact hpairwise k k' hlt hlt' hless hmem hi

theorem Lawful.taken_nodup (hs : Lawful graceful s) {closing : Closing}
    (hk : s.closings[k]? = some closing) : closing.taken.Nodup := by
  have hflatten := (List.nodup_append.mp hs.nodup).2.1
  refine (List.nodup_flatten.mp hflatten).1 _ ?_
  exact List.mem_map.mpr ⟨closing, List.mem_of_getElem? hk, rfl⟩

theorem Lawful.mem_owned (hs : Lawful graceful s) {closing : Closing}
    (hk : s.closings[k]? = some closing) (hi : i ∈ closing.taken) :
    i < s.managed.length ∧ i ∉ s.sources.map Prod.snd := by
  have hmem : i ∈ (s.closings.map Closing.taken).flatten := List.mem_flatten.mpr
    ⟨closing.taken, List.mem_map.mpr ⟨closing, List.mem_of_getElem? hk, rfl⟩, hi⟩
  refine ⟨hs.started i (List.mem_append_right _ hmem), fun htable => ?_⟩
  exact (List.nodup_append.mp hs.nodup).2.2 i htable i hmem rfl

/-- Where call `k` is when the phase of a call is replaced. -/
theorem getElem?_setClosing {k' : Nat} {closing : Closing} {phase : ClosingPhase}
    (next : ClosingPhase) (hk : s.closings[k]? = some ⟨taken, phase⟩)
    (hk' : s.closings[k']? = some closing) :
    (k' = k ∧ closing = ⟨taken, phase⟩ ∧
      (s.setClosing k' next).closings[k]? = some ⟨taken, next⟩) ∨
    (k' ≠ k ∧ (s.setClosing k' next).closings[k]? = some ⟨taken, phase⟩) := by
  by_cases hne : k' = k
  · subst hne
    exact .inl ⟨rfl, Option.some.inj (hk'.symm.trans hk), ListUpdate.getElem?_modify_self hk⟩
  · exact .inr ⟨hne, (ListUpdate.getElem?_modify_ne hne).trans hk⟩

/-- The steps of call `k` and of the sources that it took. -/
def own (taken : List Nat) (k : Nat) : Event → Bool
  | .actor i what => what.own && decide (i ∈ taken)
  | .sendShutdown k' | .join k' | .joinTimeout k' | .abortNext k' | .finish k' => k' = k
  | _ => false

/-- Call `k` returns. -/
def finishes (k : Nat) : Event → Bool
  | .finish k' => k' = k
  | _ => false

/-- A call that is not counted leaves the others as they are. -/
theorem pending_setRestart (taken : List Nat) {k' j : Nat} {call : RestartCall}
    (phase : RestartPhase) (hcall : s.restarts[k']? = some call)
    (hphase : call.phase = .sending j)
    (hnext : ∀ i, phase ≠ .sending i) :
    pending (s.setRestart k' phase) taken + (if j ∈ taken then 1 else 0) = pending s taken := by
  have hcount := ListUpdate.countP_modify (p := RestartCall.sendsTo taken)
    (f := fun call => { call with phase := phase }) hcall
  have hafter : RestartCall.sendsTo taken { call with phase := phase } = false := by
    cases phase with
    | sending i => exact absurd rfl (hnext i)
    | accepted | failed | dropped => rfl
  have hbefore : RestartCall.sendsTo taken call = decide (j ∈ taken) := by
    rw [RestartCall.sendsTo, hphase]
  rw [hafter, hbefore] at hcount
  by_cases hj : j ∈ taken
  · rw [decide_eq_true hj] at hcount
    rw [if_pos hj]
    exact hcount
  · rw [decide_eq_false hj] at hcount
    rw [if_neg hj]
    exact hcount

/-- What a call of `restart` finds was not taken by another call. -/
theorem sendsTo_lookup (hs : Lawful graceful s) {phase : ClosingPhase}
    (hk : s.closings[k]? = some ⟨taken, phase⟩) (sourceId : String) :
    RestartCall.sendsTo taken ⟨sourceId, s.lookup sourceId⟩ = false := by
  cases hlookup : s.lookup sourceId with
  | sending i =>
      have hfound := (lookup_names (i := i) hs (by rw [hlookup]; rfl)).1
      refine decide_eq_false fun hi => ?_
      exact (hs.mem_owned hk hi).2 (List.mem_map.mpr ⟨_, hfound, rfl⟩)
  | accepted | failed | dropped => rfl

/-- The source whose turn it is was taken. -/
theorem Lawful.mem_taken (hs : Lawful graceful s) {closing : Closing} {rest : List Nat}
    (hk : s.closings[k]? = some closing) (hphase : closing.phase = .sending (i :: rest) ∨
      closing.phase = .joining (i :: rest) ∨ closing.phase = .aborting (i :: rest)) :
    i ∈ closing.taken := by
  have hvalid := hs.closing closing (List.mem_of_getElem? hk)
  rw [Closing.Valid] at hvalid
  obtain hphase | hphase | hphase := hphase
  · rw [hphase] at hvalid
    exact hvalid.2.subset List.mem_cons_self
  · rw [hphase] at hvalid
    obtain ⟨past, htaken, -⟩ := hvalid
    exact htaken ▸ List.mem_append_right past List.mem_cons_self
  · rw [hphase] at hvalid
    obtain ⟨past, htaken, -⟩ := hvalid
    exact htaken ▸ List.mem_append_right past List.mem_cons_self

theorem afterSend_left (taken rest : List Nat) :
    (afterSend taken rest).left taken.length = 10 * rest.length + taken.length ∧
      afterSend taken rest ≠ .finished := by
  cases rest with
  | nil => exact ⟨(Nat.zero_add _).symm, nofun⟩
  | cons => exact ⟨rfl, nofun⟩

theorem rank_eq {phase : ClosingPhase} (hk : s.closings[k]? = some ⟨taken, phase⟩) :
    rank k taken s
      = 10 * pending s taken + phase.left taken.length + (taken.map (workAt s)).sum := by
  rw [rank, hk]

/-- What a step has to do for call `k`. -/
theorem ranked_of {phase phase' : ClosingPhase} (hs' : Lawful graceful s')
    (hk : s.closings[k]? = some ⟨taken, phase⟩) (hk' : s'.closings[k]? = some ⟨taken, phase'⟩)
    {b : Bool}
    (hle : 10 * pending s' taken + phase'.left taken.length + (taken.map (workAt s')).sum
        + b.toNat
      ≤ 10 * pending s taken + phase.left taken.length + (taken.map (workAt s)).sum) :
    Took graceful k taken s' ∧ rank k taken s' ≤ rank k taken s ∧
      (b = true → rank k taken s' < rank k taken s) := by
  rw [rank_eq hk, rank_eq hk']
  refine ⟨⟨hs', phase', hk'⟩, by omega, fun hown => ?_⟩
  rw [hown, Bool.toNat_true] at hle
  omega

/-- A turn of a call that closes: it is nearer to its end, or another call. -/
theorem ranked_of_turn {phase next : ClosingPhase} {t : EventSourceSupervisor} {k' : Nat}
    {closing : Closing} (hs' : Lawful graceful (t.setClosing k' next))
    (hrestarts : t.restarts = s.restarts) (hclosings : t.closings = s.closings)
    (hk : s.closings[k]? = some ⟨taken, phase⟩) (hk' : s.closings[k']? = some closing)
    (hturn : k' = k → closing = ⟨taken, phase⟩ →
      next.left taken.length + (taken.map (workAt t)).sum + 1
        ≤ phase.left taken.length + (taken.map (workAt s)).sum)
    (hother : k' ≠ k → (taken.map (workAt t)).sum ≤ (taken.map (workAt s)).sum) :
    Took graceful k taken (t.setClosing k' next) ∧
      rank k taken (t.setClosing k' next) ≤ rank k taken s ∧
      (decide (k' = k) = true → rank k taken (t.setClosing k' next) < rank k taken s) := by
  have hpending : pending (t.setClosing k' next) taken = pending s taken := by
    rw [pending, pending, ← hrestarts]
    rfl
  have hwork : (taken.map (workAt (t.setClosing k' next))).sum = (taken.map (workAt t)).sum := rfl
  rw [← hclosings] at hk hk'
  obtain ⟨hsame, hclosing, hafter⟩ | ⟨hdiffer, hafter⟩ := getElem?_setClosing next hk hk'
  · have hle := hturn hsame hclosing
    rw [hclosings] at hk
    refine ranked_of hs' hk hafter ?_
    rw [decide_eq_true hsame, Bool.toNat_true, hpending, hwork]
    omega
  · have hle := hother hdiffer
    rw [hclosings] at hk
    refine ranked_of hs' hk hafter ?_
    rw [decide_eq_false hdiffer, Bool.toNat_false, hpending, hwork]
    omega

/-- **A STEP OF THE SYSTEM** for call `k`, under way or over. -/
theorem Move.ranked (h : Move graceful s e s') (hI : Took graceful k taken s) :
    Took graceful k taken s' ∧ rank k taken s' ≤ rank k taken s ∧
      (own taken k e = true → finishes k e = false → rank k taken s' < rank k taken s) := by
  suffices hmoved : Took graceful k taken s' ∧ rank k taken s' ≤ rank k taken s ∧
      ((own taken k e && !finishes k e) = true → rank k taken s' < rank k taken s) by
    refine ⟨hmoved.1, hmoved.2.1, ?_⟩
    intro hown hgoal
    refine hmoved.2.2 ?_
    rw [hown, hgoal]
    rfl
  obtain ⟨hs, phase, hk⟩ := hI
  have hs' := h.lawful hs
  have hn : taken.Nodup := hs.taken_nodup hk
  cases h with
  | start descriptor now =>
      have hwork : (taken.map (workAt { s with
          managed := s.managed ++ [.spawn descriptor now]
          sources := insertKey descriptor.sourceId s.managed.length s.sources }))
          = taken.map (workAt s) := by
        refine List.map_congr_left fun i hi => ?_
        rw [workAt, workAt, List.getElem?_append_left (hs.mem_owned hk hi).1]
      exact ranked_of hs' hk hk (by rw [hwork]; exact Nat.le_refl _)
  | @acts _ i m what actor commands hacts hm htick hdropped hactor hcommands =>
      have hsum := sum_work_set (ManagedSource.settle { m with actor, commands }) hn hm
      obtain ⟨hle, hlt⟩ := work_acts hdropped hactor hcommands
      refine ranked_of hs' hk hk ?_
      show 10 * pending s taken + _ + _ + _ ≤ _
      cases e with
      | actor i' what' =>
          obtain ⟨rfl, rfl⟩ := Prod.mk.inj (Option.some.inj hacts)
          by_cases hi : i' ∈ taken
          · rw [if_pos hi, if_pos hi] at hsum
            cases hown : what'.own with
            | true =>
                have hless := hlt hown fun answer hwhat hphase =>
                  htick (by rw [hwhat]; exact hphase)
                simp only [own, finishes, hown, hi, decide_true, Bool.and_self, Bool.not_false,
                  Bool.toNat_true]
                omega
            | false =>
                simp only [own, hown, Bool.false_and, Bool.toNat_false]
                omega
          · rw [if_neg hi, if_neg hi] at hsum
            simp only [own, hi, decide_false, Bool.and_false, Bool.false_and, Bool.toNat_false]
            omega
      | tick i' answer =>
          obtain ⟨rfl, rfl⟩ := Prod.mk.inj (Option.some.inj hacts)
          show _ + 0 ≤ _
          split at hsum <;> omega
      | _ => exact nomatch hacts
  | @drops i m hm haborted hended =>
      have hsum := sum_work_set { m with commands := m.commands.close, dropped := true } hn hm
      have hzero : ({ m with commands := m.commands.close, dropped := true } : ManagedSource).work
        = 0 := rfl
      refine ranked_of (b := false) hs' hk hk ?_
      show 10 * pending s taken + _ + _ + 0 ≤ _
      rw [hzero] at hsum
      split at hsum <;> omega
  | restart sourceId =>
      have hpending : pending { s with
          restarts := s.restarts ++ [⟨sourceId, s.lookup sourceId⟩] } taken = pending s taken := by
        rw [pending, List.countP_append, List.countP_singleton, sendsTo_lookup hs hk]
        rfl
      exact ranked_of (b := false) hs' hk hk (by rw [hpending]; exact Nat.le_refl _)
  | @restartSent k' j call m commands hcall hphase hm hsend =>
      have hsum := sum_work_set { m with commands } hn hm
      have hpending := pending_setRestart (s := s.setSource j { m with commands }) taken
        (.accepted j) hcall hphase nofun
      have hwork := work_sent hsend
      refine ranked_of (b := false) hs' hk hk ?_
      show 10 * pending ((s.setSource j { m with commands }).setRestart k' (.accepted j)) taken + _
        + ((taken.map (workAt (s.setSource j { m with commands }))).sum) + 0 ≤ _
      have hsame : pending (s.setSource j { m with commands }) taken = pending s taken := rfl
      split at hsum
      · rename_i hj
        rw [if_pos hj] at hpending
        omega
      · rename_i hj
        rw [if_neg hj] at hpending
        omega
  | @restartRefused k' j call m hcall hphase =>
      have hpending := pending_setRestart taken (.failed (stoppedSource call.sourceId)) hcall
        hphase nofun
      refine ranked_of (b := false) hs' hk hk ?_
      show 10 * pending (s.setRestart k' _) taken + _ + (taken.map (workAt s)).sum + 0 ≤ _
      omega
  | @restartDropped k' j call hcall hphase =>
      have hpending := pending_setRestart taken .dropped hcall hphase nofun
      refine ranked_of (b := false) hs' hk hk ?_
      show 10 * pending (s.setRestart k' _) taken + _ + (taken.map (workAt s)).sum + 0 ≤ _
      omega
  | shutdown | abort =>
      exact ranked_of (b := false) hs' hk (ListUpdate.getElem?_concat_of_some hk)
        (Nat.le_refl _)
  | @shutdownSent k' i rest closing m commands hclosing hphase hm hsend =>
      simp only [own, finishes, Bool.not_false, Bool.and_true]
      have hsum := sum_work_set { m with commands } hn hm
      have hwork := work_sent hsend
      have hmem := hs.mem_taken hclosing (.inl hphase)
      refine ranked_of_turn (t := s.setSource i _) hs' rfl rfl hk hclosing ?_ ?_
      · rintro - rfl
        have hleft := (afterSend_left taken rest).1
        rw [if_pos hmem, if_pos hmem] at hsum
        obtain rfl : phase = .sending (i :: rest) := hphase
        rw [hleft]
        show _ ≤ 10 * (rest.length + 1) + taken.length + _
        omega
      · intro hother
        have hnot := hs.disjoint hk hclosing hother hmem
        rw [if_neg hnot, if_neg hnot] at hsum
        exact Nat.le_of_eq hsum
  | @shutdownRefused k' i rest closing m hclosing hphase hm hsend =>
      simp only [own, finishes, Bool.not_false, Bool.and_true]
      refine ranked_of_turn (t := s) hs' rfl rfl hk hclosing ?_ fun _ => Nat.le_refl _
      rintro - rfl
      have hleft := (afterSend_left taken rest).1
      obtain rfl : phase = .sending (i :: rest) := hphase
      rw [hleft]
      show _ ≤ 10 * (rest.length + 1) + taken.length + _
      omega
  | @joined k' i rest closing m hclosing hphase hm hended =>
      simp only [own, finishes, Bool.not_false, Bool.and_true]
      refine ranked_of_turn (t := s) hs' rfl rfl hk hclosing ?_ fun _ => Nat.le_refl _
      rintro - rfl
      obtain rfl : phase = .joining (i :: rest) := hphase
      show rest.length + _ + 1 ≤ rest.length + 1 + _
      omega
  | @timedOut k' i rest closing m hclosing hphase hm =>
      simp only [own, finishes, Bool.not_false, Bool.and_true]
      have hsum := sum_work_set m.abort hn hm
      have hsame : (taken.map (workAt (s.setSource i m.abort))).sum = (taken.map (workAt s)).sum :=
        Nat.add_right_cancel hsum
      refine ranked_of_turn (t := s.setSource i _) hs' rfl rfl hk hclosing ?_
        fun _ => Nat.le_of_eq hsame
      rintro - rfl
      obtain rfl : phase = .joining (i :: rest) := hphase
      show rest.length + _ + 1 ≤ rest.length + 1 + _
      omega
  | @aborted k' i rest closing m hclosing hphase hm =>
      simp only [own, finishes, Bool.not_false, Bool.and_true]
      have hsum := sum_work_set (m.trySend .shutdown).abort hn hm
      have hwork := work_abortNext m
      have hmem := hs.mem_taken hclosing (.inr (.inr hphase))
      refine ranked_of_turn (t := s.setSource i _) hs' rfl rfl hk hclosing ?_ ?_
      · rintro - rfl
        obtain rfl : phase = .aborting (i :: rest) := hphase
        rw [if_pos hmem, if_pos hmem] at hsum
        show 10 * rest.length + _ + 1 ≤ 10 * (rest.length + 1) + _
        omega
      · intro hother
        have hnot := hs.disjoint hk hclosing hother hmem
        rw [if_neg hnot, if_neg hnot] at hsum
        exact Nat.le_of_eq hsum
  | @finished k' closing hclosing hphase =>
      obtain ⟨rfl, rfl, hafter⟩ | ⟨hdiffer, hafter⟩ := getElem?_setClosing .finished hk hclosing
      · -- the last turn of the call
        refine ranked_of hs' hk hafter ?_
        rw [own, finishes, decide_eq_true rfl]
        show 10 * pending s taken + 0 + (taken.map (workAt s)).sum + 0 ≤ _
        omega
      · refine ranked_of hs' hk hafter ?_
        rw [own, decide_eq_false hdiffer]
        exact Nat.le_refl _

/-- A call goes on to its end and stays there. -/
theorem Move.phase (h : Move graceful s e s') {phase : ClosingPhase}
    (hk : s.closings[k]? = some ⟨taken, phase⟩) : ∃ next, s'.closings[k]? = some ⟨taken, next⟩ ∧
      (next = .finished ↔ phase = .finished ∨ e = .finish k) := by
  have hsame : (∀ j, e ≠ .finish j) → (phase = .finished ↔ phase = .finished ∨ e = .finish k) :=
    fun hnot => ⟨.inl, fun h => h.resolve_right (hnot k)⟩
  have hturn : ∀ {s₁ : EventSourceSupervisor} {k' : Nat} {closing : Closing} {next : ClosingPhase},
      s₁.closings = s.closings → s.closings[k']? = some closing → closing.phase ≠ .finished →
      (e = .finish k' ∧ next = .finished ∨ (∀ j, e ≠ .finish j) ∧ next ≠ .finished) →
      ∃ phase', (s₁.setClosing k' next).closings[k]? = some ⟨taken, phase'⟩ ∧
        (phase' = .finished ↔ phase = .finished ∨ e = .finish k) := by
    intro s₁ k' closing next hclosings hk' hne he
    rw [← hclosings] at hk hk'
    obtain ⟨rfl, rfl, hafter⟩ | ⟨hdiffer, hafter⟩ := getElem?_setClosing next hk hk'
    · refine ⟨next, hafter, ?_⟩
      rcases he with ⟨he, hnext⟩ | ⟨hnot, hnext⟩
      · exact ⟨fun _ => .inr he, fun _ => hnext⟩
      · refine ⟨fun h => absurd h hnext, ?_⟩
        rintro (hfinished | hfinish)
        · exact absurd hfinished hne
        · exact absurd hfinish (hnot _)
    · refine ⟨phase, hafter, .inl, ?_⟩
      rintro (hfinished | hfinish)
      · exact hfinished
      · obtain ⟨he, -⟩ | ⟨hnot, -⟩ := he
        · exact absurd (Event.finish.inj (he.symm.trans hfinish)) hdiffer
        · exact absurd hfinish (hnot k)
  cases h with
  | shutdownSent hclosing hphase | shutdownRefused hclosing hphase =>
      exact hturn rfl hclosing (by rw [hphase]; exact nofun) (.inr ⟨nofun, (afterSend_left _ _).2⟩)
  | joined hclosing hphase | timedOut hclosing hphase | aborted hclosing hphase =>
      exact hturn rfl hclosing (by rw [hphase]; exact nofun) (.inr ⟨nofun, nofun⟩)
  | finished hclosing hphase =>
      refine hturn rfl hclosing ?_ (.inl ⟨rfl, rfl⟩)
      obtain hphase | hphase := hphase <;> rw [hphase] <;> exact nofun
  | shutdown | abort => exact ⟨phase, ListUpdate.getElem?_concat_of_some hk, hsame nofun⟩
  | acts hacts => exact ⟨phase, hk, hsame fun j he => by rw [he] at hacts; exact nomatch hacts⟩
  | start | drops | restart | restartSent | restartRefused | restartDropped =>
      exact ⟨phase, hk, hsame nofun⟩

/-- **A CALL UNDER WAY** stays so until it returns. -/
theorem Move.closes (h : Move graceful s e s') (hI : Closes graceful k taken s)
    (hgoal : finishes k e = false) :
    Closes graceful k taken s' ∧ rank k taken s' ≤ rank k taken s ∧
      (own taken k e = true → rank k taken s' < rank k taken s) := by
  obtain ⟨hs, phase, hk, hne⟩ := hI
  obtain ⟨⟨hs', -⟩, hle, hlt⟩ := h.ranked (k := k) ⟨hs, phase, hk⟩
  obtain ⟨next, hnext, hover⟩ := h.phase hk
  refine ⟨⟨hs', next, hnext, ?_⟩, hle, fun hown => hlt hown hgoal⟩
  intro hfinished
  rcases hover.mp hfinished with hphase | rfl
  · exact hne hphase
  · rw [finishes, decide_eq_true rfl] at hgoal
    cases hgoal

theorem act_of {held : Bool} {what : ServiceEventSource.Event} {actor : SourceActor}
    {commands : Commands} (hdropped : m.dropped = false)
    (hactor : ServiceEventSource.step graceful m.actor what = some actor)
    (hcommands : ManagedSource.receive held m.commands what = some commands) :
    m.act graceful held what = some (ManagedSource.settle { m with actor, commands }) := by
  rw [ManagedSource.act, if_neg (Bool.not_eq_true _ ▸ hdropped), hactor, hcommands]

/-- A source with a command in its channel can move by itself. -/
theorem exists_act (graceful : Nat) (held : Bool) (hended : ¬ m.ended)
    (hqueue : m.commands.queue ≠ []) : ∃ what m', what.own = true ∧
      (∀ answer, what = .health answer → m.actor.phase ≠ .select) ∧
      m.act graceful held what = some m' := by
  obtain ⟨hreturned, hdropped⟩ := not_or.mp hended
  rw [Bool.not_eq_true] at hdropped
  cases hphase : m.actor.phase with
  | top =>
      exact ⟨.callStart, _, rfl, by rintro answer ⟨⟩,
        act_of hdropped (by rw [ServiceEventSource.step, hphase]) rfl⟩
  | starting =>
      exact ⟨.startReturned, _, rfl, by rintro answer ⟨⟩,
        act_of hdropped (by rw [ServiceEventSource.step, hphase]) rfl⟩
  | started =>
      exact ⟨.health (.ok .healthy), _, rfl, by rintro answer heq ⟨⟩,
        act_of hdropped (by rw [ServiceEventSource.step, hphase]) rfl⟩
  | select | waiting =>
      obtain ⟨command, commands, hfirst⟩ := Mailbox.exists_receive hqueue
      have hreceive : ManagedSource.receive held m.commands (.command (some command))
          = some commands := by
        rw [ManagedSource.receive, hfirst]
        exact if_pos rfl
      exact ⟨.command (some command), _, rfl, by rintro answer ⟨⟩,
        act_of hdropped (by rw [ServiceEventSource.step, hphase]) hreceive⟩
  | signal terminal waited =>
      exact ⟨.callShutdown, _, rfl, by rintro answer ⟨⟩,
        act_of hdropped (by rw [ServiceEventSource.step, hphase]) rfl⟩
  | shutdown terminal waited =>
      exact ⟨.shutdownReturned, _, rfl, by rintro answer ⟨⟩,
        act_of hdropped (by rw [ServiceEventSource.step, hphase]) rfl⟩
  | stopping terminal waited =>
      exact ⟨.stopped .timedOut, _, rfl, by rintro answer ⟨⟩,
        act_of hdropped (by rw [ServiceEventSource.step, hphase]; rfl) rfl⟩
  | returned => exact absurd hphase hreturned

theorem step_actor_of {m' : ManagedSource} {what : ServiceEventSource.Event}
    (hm : s.managed[i]? = some m) (hact : m.act graceful (s.held i) what = some m')
    (hnot : ∀ answer, what = .health answer → m.actor.phase ≠ .select) :
    step graceful s (.actor i what) = some (s.setSource i m') := by
  simp only [step, hm, Option.bind_eq_bind, Option.bind_some, hact]
  split
  · rename_i hphase
    exact absurd hphase (hnot _ rfl)
  · rfl

/-- Until it returns, call `k` or a source that it waits for can move. -/
theorem exists_own (hI : Closes graceful k taken s) :
    ∃ e, own taken k e = true ∧ (step graceful s e).isSome = true := by
  obtain ⟨hs, phase, hk, hne⟩ := hI
  have hmanaged : ∀ i rest, (phase = .sending (i :: rest) ∨ phase = .joining (i :: rest) ∨
      phase = .aborting (i :: rest)) → i ∈ taken ∧ ∃ m, s.managed[i]? = some m := by
    intro i rest hphase
    have hmem : i ∈ taken := hs.mem_taken hk hphase
    have hlt := (hs.mem_owned hk hmem).1
    exact ⟨hmem, s.managed[i], List.getElem?_eq_getElem hlt⟩
  have hself : decide (k = k) = true := decide_eq_true rfl
  cases phase with
  | sending rest =>
      cases rest with
      | nil =>
          have hvalid := hs.closing _ (List.mem_of_getElem? hk)
          exact absurd rfl hvalid.1
      | cons i rest =>
          obtain ⟨hi, m, hm⟩ := hmanaged i rest (.inl rfl)
          obtain ⟨hsend, -⟩ | ⟨hsend, hopen, hfull⟩ | ⟨commands, hsend, -⟩ :=
            m.commands.send_cases .shutdown
          · exact ⟨.sendShutdown k, hself, by simp [step, stepClosing, hk, hm, hsend]⟩
          · -- the channel is full, so its source is at work
            have hended : ¬ m.ended := (hs.lives i m hm).isOpen.mp hopen
            have hqueue : m.commands.queue ≠ [] := fun hnil => by
              rw [hnil] at hfull
              exact nomatch hfull
            obtain ⟨what, m', hown, hnot, hact⟩ := exists_act graceful (s.held i) hended hqueue
            refine ⟨.actor i what, ?_, by rw [step_actor_of hm hact hnot]; rfl⟩
            rw [own, hown, decide_eq_true hi]
            rfl
          · exact ⟨.sendShutdown k, hself, by simp [step, stepClosing, hk, hm, hsend]⟩
  | joining rest =>
      cases rest with
      | nil => exact ⟨.finish k, hself, by simp [step, stepClosing, hk]⟩
      | cons i rest =>
          obtain ⟨-, m, hm⟩ := hmanaged i rest (.inr (.inl rfl))
          exact ⟨.joinTimeout k, hself, by simp [step, stepClosing, hk, hm]⟩
  | aborting rest =>
      cases rest with
      | nil => exact ⟨.finish k, hself, by simp [step, stepClosing, hk]⟩
      | cons i rest =>
          obtain ⟨-, m, hm⟩ := hmanaged i rest (.inr (.inr rfl))
          exact ⟨.abortNext k, hself, by simp [step, stepClosing, hk, hm]⟩
  | finished => exact absurd rfl hne

/-- The bound on the steps of a call that closes. -/
theorem rank_le (hI : Took graceful k taken s) :
    rank k taken s ≤ 58 * taken.length + 10 * pending s taken := by
  obtain ⟨hs, phase, hk⟩ := hI
  have hsum : (taken.map (workAt s)).sum ≤ 47 * taken.length := by
    have hle : ∀ n ∈ taken.map (workAt s), n ≤ 47 := by
      intro n hn
      obtain ⟨i, -, rfl⟩ := List.mem_map.mp hn
      rw [workAt]
      split
      · exact work_le _
      · exact Nat.zero_le _
    have := List.sum_le_card_nsmul _ 47 hle
    rw [List.length_map, Nat.nsmul_eq_mul] at this
    omega
  have hvalid := hs.closing _ (List.mem_of_getElem? hk)
  have hleft : phase.left taken.length ≤ 11 * taken.length := by
    rw [Closing.Valid] at hvalid
    cases phase with
    | sending rest =>
        have hlength : rest.length ≤ taken.length := hvalid.2.length_le
        show 10 * rest.length + taken.length ≤ _
        omega
    | joining rest | aborting rest =>
        obtain ⟨past, htaken, -⟩ := hvalid
        have hlength : taken.length = past.length + rest.length := by
          rw [show taken = past ++ rest from htaken, List.length_append]
        simp only [ClosingPhase.left]
        omega
    | finished => exact Nat.zero_le _
  rw [rank_eq hk]
  omega

/-- **A CALL THAT CLOSES** comes to its end, whatever the sources and the other
    calls do. -/
theorem closing_ends (hI : Closes graceful k taken s) :
    LeadsTo (step graceful) (own taken k) (fun _ => false) (finishes k)
      (58 * taken.length + 10 * pending s taken) s := by
  refine leadsTo_of_rank (Closes graceful k taken) (rank k taken) ?_ ?_ hI (rank_le hI.took)
  · intro s hs
    obtain ⟨e, hown, hsome⟩ := exists_own hs
    obtain ⟨s', hstep⟩ := Option.isSome_iff_exists.mp hsome
    exact ⟨e, s', hown, rfl, hstep⟩
  · intro s e s' hs hstep hgoal
    exact ⟨rfl, (step_move hstep).closes hs hgoal⟩

/-- The call has taken the sources for good, and says when it is over. -/
theorem closing_of_trace {es : List Event} {closing : Closing}
    (hk : s.closings[k]? = some closing) (h : Trace (step graceful) s es s') :
    ∃ phase, s'.closings[k]? = some ⟨closing.taken, phase⟩ ∧
      (.finish k ∈ es → phase = .finished) := by
  refine h.invariant (fun es s' => ∃ phase, s'.closings[k]? = some ⟨closing.taken, phase⟩ ∧
    (.finish k ∈ es → phase = .finished)) ⟨closing.phase, hk, nofun⟩ ?_
  rintro es s₁ e s₂ ⟨phase, hphase, hfinished⟩ hstep
  obtain ⟨next, hnext, hover⟩ := (step_move hstep).phase hphase
  refine ⟨next, hnext, fun hmem => hover.mpr ?_⟩
  obtain hmem | hmem := List.mem_append.mp hmem
  · exact .inl (hfinished hmem)
  · exact .inr (List.mem_singleton.mp hmem).symm

/-- A start of a source. -/
def Event.isStart : Event → Bool
  | .start _ _ => true
  | _ => false

/-- The call of `shutdown` or `abort`. -/
def Event.closes : Event → Bool
  | .shutdown | .abort => true
  | _ => false

/-- Until a source is started the table stays empty. -/
theorem sources_of_trace {es : List Event} (h : Trace (step graceful) s es s')
    (hempty : s.sources = []) (hes : ∀ e ∈ es, e.isStart = false) : s'.sources = [] := by
  refine h.invariant (fun es s' => (∀ e ∈ es, e.isStart = false) → s'.sources = [])
    (fun _ => hempty) ?_ hes
  intro es s₁ e s₂ ih hstep hes
  obtain ⟨hbefore, he⟩ := List.forall_mem_append.mp hes
  obtain hsame | hnil | ⟨descriptor, now, rfl, -⟩ := (step_move hstep).sources
  · exact hsame.trans (ih hbefore)
  · exact hnil
  · exact nomatch he _ (List.mem_singleton_self _)

/-- **THE LAW OF CLOSING**, for a call of `shutdown` or `abort` at any moment: it
    comes to its end, whatever its sources answer and the other calls do; when
    it has returned, the tasks of the sources that were in the table have ended
    or were asked to abort; and from its beginning until another start no source
    is listed, and `restart` finds none. -/
theorem shutdown_law (h : Reaches (step graceful) Free .default s) (hcall : e.closes = true)
    (hstep : step graceful s e = some s') :
    LeadsTo (step graceful) (own (s.sources.map Prod.snd) s.closings.length) (fun _ => false)
      (finishes s.closings.length)
      (58 * s.sources.length + 10 * pending s (s.sources.map Prod.snd)) s' ∧
    ∀ es s'', Trace (step graceful) s' es s'' →
      (.finish s.closings.length ∈ es → ∀ entry ∈ s.sources, Gone s'' entry.2) ∧
      ((∀ e ∈ es, e.isStart = false) → s''.list = [] ∧
        ∀ sourceId, s''.lookup sourceId = .failed (unknownSource sourceId)) := by
  have hs' : Lawful graceful s' := lawful_of_reaches (h.step e trivial hstep)
  obtain ⟨phase, hphase, hne⟩ : ∃ phase : List Nat → ClosingPhase,
      s' = s.takeSources phase ∧ phase (s.sources.map Prod.snd) ≠ .finished := by
    cases step_move hstep with
    | shutdown => exact ⟨_, rfl, (afterSend_left _ _).2⟩
    | abort => exact ⟨_, rfl, nofun⟩
    | acts hacts =>
        cases e with
        | actor | tick => exact nomatch hcall
        | _ => exact nomatch hacts
    | _ => exact nomatch hcall
  have hk : s'.closings[s.closings.length]?
      = some ⟨s.sources.map Prod.snd, phase (s.sources.map Prod.snd)⟩ := by
    rw [hphase]
    exact ListUpdate.getElem?_concat_self
  refine ⟨?_, fun es s'' hes => ⟨fun hfinish entry hentry => ?_, fun hstarts => ?_⟩⟩
  · have hcloses : Closes graceful _ _ s' := ⟨hs', _, hk, hne⟩
    have hends := closing_ends hcloses
    rw [List.length_map] at hends
    have hpending : pending s' (s.sources.map Prod.snd) = pending s (s.sources.map Prod.snd) := by
      rw [hphase]
      rfl
    rw [hpending] at hends
    exact hends
  · obtain ⟨next, hnext, hfinished⟩ := closing_of_trace hk hes
    have hs'' : Lawful graceful s'' :=
      hes.invariant (fun _ s => Lawful graceful s) hs' fun _ _ _ _ ih hs => (step_move hs).lawful ih
    have hvalid := hs''.closing _ (List.mem_of_getElem? hnext)
    rw [hfinished hfinish] at hvalid
    exact hvalid entry.2 (List.mem_map.mpr ⟨entry, hentry, rfl⟩)
  · have hempty : s''.sources = [] := sources_of_trace hes (by rw [hphase]; rfl) hstarts
    exact ⟨by rw [list, hempty]; rfl, fun sourceId => by rw [lookup, hempty]; rfl⟩

/-- One source, which never answers, when `shutdown` is called. -/
theorem shutdown_law_hanging :
    let s := (run (step 50) Free .default (closedRun.take 8)).getD .default
    LeadsTo (step 50) (own [0] 0) (fun _ => false) (finishes 0) 68 (s.takeSources fun taken =>
      afterSend taken taken) := by
  intro s
  exact (@shutdown_law 50 s _ .shutdown (reaches_getD (by decide)) rfl rfl).1

end Closings

end ServiceSourceTable
