import MutsukiServiceHost.ServiceConfigProofs
import MutsukiServiceHost.ServiceJsonlProofs

/-! # The control listener — `IpcServer`

    `start_server` binds the endpoint and spawns the accept loop, which gives
    every connection a task of its own.  The loop and all connections watch one
    flag; `abort` and `shutdown` raise it, abort the loop and remove the socket
    of a Unix endpoint.  Nobody waits for the connections.

    The loop's `select!` is biased: it looks at the flag first and then at the
    listener, and what happens between the two looks is why one connection can
    still be accepted after the flag was raised.

    * `listener_law` — every connection is a run of `serve_jsonl` or of
      `serve_binary`; from the flag on at most one connection is accepted and
      none of them starts a request that it did not have in hand; `shutdown`
      returns after the loop has ended, and from then on nothing is accepted. -/

namespace ServiceListener

open Transition ListUpdate
open ServiceLoad (IpcTransport)
open ServiceServer (ServerCfg ServerConn ServerEvent LoopEvent loopStep)
open ServiceJsonl (JsonlServerCfg JsonlConn JsonlEvent jsonlStep)

/-! ## Connections -/

/-- Where `serve_stream` stands. -/
inductive Serving where
  /-- `read_exact` of the first byte; the flag is not looked at here -/
  | peeking
  | jsonl (s : JsonlConn)
  | binary (s : ServerConn)
  /-- it returned without a first byte -/
  | gone

/-- A connection with its peer. -/
structure Conn where
  loopback : Bool
  serving : Serving

/-- The surroundings of a listener. -/
structure ListenerCfg where
  transport : IpcTransport
  jsonl : JsonlServerCfg
  binary : ServerCfg

/-- What happens on a connection. -/
inductive ConnEvent where
  | first (byte : UInt8)
  | firstFailed
  | jsonl (e : JsonlEvent)
  | binary (e : ServerEvent)

/-- The event is the raising of the flag, which is not a connection's own. -/
def ConnEvent.raises : ConnEvent → Bool
  | .jsonl .beginDrain | .binary (.loop .beginDrain) => true
  | _ => false

namespace Conn

/-- The flag is raised. -/
def drain (c : Conn) : Conn :=
  match c.serving with
  | .peeking | .gone => c
  | .jsonl s => { c with serving := .jsonl { s with drain := true } }
  | .binary s => { c with serving := .binary { s with drain := true } }

/-- The protocol that the first byte chooses, `b'{'` or any other. -/
def choose (cfg : ListenerCfg) (drained : Bool) (byte : UInt8) : Serving :=
  if byte = 0x7B then .jsonl { JsonlConn.start with drain := drained }
  else .binary { ServerConn.start cfg.binary with drain := drained }

/-- A step of the connection. -/
def advance (cfg : ListenerCfg) (drained : Bool) (c : Conn) : ConnEvent → Option Conn
  | .first byte =>
      match c.serving with
      | .peeking => some { c with serving := choose cfg drained byte }
      | _ => none
  | .firstFailed =>
      match c.serving with
      | .peeking => some { c with serving := .gone }
      | _ => none
  | .jsonl e =>
      match c.serving with
      | .jsonl s => (jsonlStep cfg.jsonl s e).map fun s' => { c with serving := .jsonl s' }
      | _ => none
  | .binary e =>
      match c.serving with
      | .binary s =>
          (ServiceServer.step cfg.binary s e).map fun s' => { c with serving := .binary s' }
      | _ => none

/-- A step that is its own. -/
def step (cfg : ListenerCfg) (drained : Bool) (c : Conn) (e : ConnEvent) : Option Conn :=
  if e.raises then none else c.advance cfg drained e

/-- The requests that the connection has started. -/
def started (c : Conn) : Nat :=
  match c.serving with
  | .peeking | .gone => 0
  | .jsonl s => s.invoked.length
  | .binary s => s.tasks.length

/-- The requests in hand: a frame that passed its look at the flag, whose payload
    is being read. -/
def inHand (c : Conn) : Nat :=
  match c.serving with
  | .binary s =>
      match s.loop with
      | .reading _ _ => 1
      | _ => 0
  | _ => 0

end Conn

/-! ## The listener -/

/-- Where the accept loop stands. -/
inductive LoopPhase where
  /-- before `if *drain_rx.borrow()` -/
  | top
  /-- suspended in the `select!` -/
  | select
  /-- in the `select!`, after a look at the flag that found nothing -/
  | polled
  | accepted (loopback : Bool)
  | ended
  deriving DecidableEq, Repr

/-- What the holder of the `IpcServer` does with it; `waits` says that it is
    `shutdown` and not `abort`. -/
inductive Holder where
  | holding
  /-- `drain_tx.send(true)` -/
  | signalled (waits : Bool)
  /-- `handle.abort()` -/
  | aborted (waits : Bool)
  /-- `handle.await` has returned -/
  | joined
  | returned (waits : Bool)
  /-- dropped, or its `shutdown` was -/
  | dropped
  deriving DecidableEq, Repr

/-- A listener: its loop, its flag and whether the sender of it is gone, whether
    the loop's task was asked to abort, its connections, and the file of its
    socket. -/
structure Listener where
  loop : LoopPhase
  drained : Bool
  closed : Bool
  aborted : Bool
  holder : Holder
  conns : List Conn
  socket : Bool

/-- `start_server` has returned. -/
def Listener.start (cfg : ListenerCfg) : Listener where
  loop := .top
  drained := false
  closed := false
  aborted := false
  holder := .holding
  conns := []
  socket := cfg.transport = .unixSocket

/-- The steps of a listener. -/
inductive Event where
  /-- the loop looks at the flag -/
  | loopTop
  /-- `drain_rx.changed()` is polled -/
  | pollChanged
  /-- nothing to accept -/
  | pending
  | accept (loopback : Bool)
  | acceptFailed
  /-- the connection gets its task; `next` says that a pipe gets its next instance -/
  | spawn (next : Bool)
  /-- the aborted task is dropped where it is suspended -/
  | dropLoop
  | conn (i : Nat) (e : ConnEvent)
  | beginDrain
  /-- `abort` or `shutdown` is called -/
  | stop (waits : Bool)
  | abortLoop
  | join
  /-- `remove_cleanup_path` -/
  | removePath (removed : Bool)
  | dropHolder

namespace Listener

/-- `drain_tx.send(true)`. -/
def raise (s : Listener) : Listener :=
  { s with drained := true, conns := s.conns.map Conn.drain }

/-- The loop goes on with its next connection served. -/
def serve (s : Listener) (loopback : Bool) (loop : LoopPhase) : Listener :=
  { s with loop := loop, conns := s.conns ++ [⟨loopback, .peeking⟩] }

/-- An accepted connection. -/
def onAccepted (cfg : ListenerCfg) (s : Listener) (loopback next : Bool) : Listener :=
  match cfg.transport with
  | .unixSocket => s.serve loopback .top
  -- a peer elsewhere is dropped without a task
  | .tcpDebug => if loopback then s.serve loopback .top else { s with loop := .top }
  -- a pipe without a next instance ends the loop behind its connection
  | .namedPipe => s.serve loopback (if next then .top else .ended)

end Listener

/-- One step. -/
def step (cfg : ListenerCfg) (s : Listener) : Event → Option Listener
  | .loopTop =>
      match s.loop with
      | .top => some { s with loop := if s.drained then .ended else .select }
      | _ => none
  | .pollChanged =>
      match s.loop with
      | .select => some { s with loop := if s.drained || s.closed then .ended else .polled }
      | _ => none
  | .pending =>
      match s.loop with
      | .polled => some { s with loop := .select }
      | _ => none
  | .accept loopback =>
      match s.loop with
      | .polled => some { s with loop := .accepted loopback }
      | _ => none
  | .acceptFailed =>
      match s.loop with
      -- a pipe tries again, the other loops break
      | .polled => some { s with loop := if cfg.transport = .namedPipe then .top else .ended }
      | _ => none
  | .spawn next =>
      match s.loop with
      | .accepted loopback => some (s.onAccepted cfg loopback next)
      | _ => none
  | .dropLoop =>
      match s.loop with
      | .select => if s.aborted then some { s with loop := .ended } else none
      | _ => none
  | .conn i e => do
      let c ← s.conns[i]?
      let c ← c.step cfg s.drained e
      return { s with conns := s.conns.set i c }
  | .beginDrain => if s.holder = .holding then some s.raise else none
  | .stop waits =>
      if s.holder = .holding then some { s.raise with holder := .signalled waits } else none
  | .abortLoop =>
      match s.holder with
      | .signalled waits => some { s with aborted := true, holder := .aborted waits }
      | _ => none
  | .join =>
      if s.holder = .aborted true ∧ s.loop = .ended then some { s with holder := .joined } else none
  | .removePath removed =>
      match s.holder with
      | .aborted false =>
          some { s with holder := .returned false, closed := true, socket := s.socket && !removed }
      | .joined =>
          some { s with holder := .returned true, closed := true, socket := s.socket && !removed }
      | _ => none
  | .dropHolder =>
      match s.holder with
      | .holding | .aborted true => some { s with holder := .dropped, closed := true }
      | _ => none

/-! ## What a connection does after the flag -/

section Late

variable {cfg : ListenerCfg}

/-- The connection has the raised flag. -/
def Conn.Flagged (c : Conn) : Prop :=
  match c.serving with
  | .peeking | .gone => True
  | .jsonl s => s.drain = true
  | .binary s => s.drain = true

theorem Conn.flagged_drain (c : Conn) : c.drain.Flagged := by
  obtain ⟨loopback, serving⟩ := c
  cases serving with
  | peeking => trivial
  | jsonl s => rfl
  | binary s => rfl
  | gone => trivial

/-- A line that comes after the flag is no request. -/
theorem jsonl_late {s s' : JsonlConn} {e : JsonlEvent} (hdrain : s.drain = true)
    (h : jsonlStep cfg.jsonl s e = some s') :
    s'.drain = true ∧ s'.invoked.length = s.invoked.length := by
  cases e with
  | beginDrain =>
      cases h
      exact ⟨rfl, rfl⟩
  | line req bytes =>
      simp only [jsonlStep] at h
      split at h
      · cases h
        rw [JsonlConn.onLine, if_pos hdrain]
        exact ⟨hdrain, rfl⟩
      · cases h
  | encode =>
      simp only [jsonlStep] at h
      split at h
      · split at h
        · cases h
          exact ⟨hdrain, rfl⟩
        · cases h
          exact ⟨hdrain, rfl⟩
      · cases h
  | stopReading | readFailed | handlerReturn | handlerPanic | write | writeFail =>
      simp only [jsonlStep] at h
      split at h
      · cases h
        exact ⟨hdrain, rfl⟩
      · cases h

/-- A frame whose payload is being read. -/
def reading (s : ServerConn) : Nat :=
  match s.loop with
  | .reading _ _ => 1
  | _ => 0

theorem removePending_frame (s : ServerConn) (self requestId : Nat) :
    (s.removePending self requestId).drain = s.drain ∧
      (s.removePending self requestId).tasks.length = s.tasks.length ∧
      (s.removePending self requestId).loop = s.loop := by
  rw [ServerConn.removePending]
  split
  · exact ⟨rfl, rfl, rfl⟩
  · refine ⟨rfl, ?_, rfl⟩
    show (if _ then s.tasks else s.tasks.modify _ _).length = s.tasks.length
    split
    · rfl
    · exact List.length_modify ..

/-- A task's step spawns nothing and leaves the loop alone. -/
theorem task_late {s s' : ServerConn} {i : Nat} {e : ServiceServer.TaskEvent}
    (h : ServiceServer.step cfg.binary s (.task i e) = some s') :
    s'.drain = s.drain ∧ s'.tasks.length = s.tasks.length ∧ s'.loop = s.loop := by
  simp only [ServiceServer.step] at h
  split at h
  · cases h
  · cases ServiceServer.taskStep_move h with
    | remove =>
        obtain ⟨hdrain, hlength, hloop⟩ := removePending_frame s i _
        refine ⟨hdrain, ?_, hloop⟩
        rw [← hlength]
        exact List.length_modify ..
    | pollLock | pollInvoke | acquire | handlerReturn | handlerPanic | abortSeen | encodeFail
    | encode | lockWriter | write | flush | writeFail | drop =>
        exact ⟨rfl, List.length_modify .., rfl⟩

/-- After the flag the loop spawns no task but for the frame that it is reading. -/
theorem binary_late {s s' : ServerConn} {e : ServerEvent} (hdrain : s.drain = true)
    (h : ServiceServer.step cfg.binary s e = some s') :
    s'.drain = true ∧ s'.tasks.length + reading s' ≤ s.tasks.length + reading s := by
  cases e with
  | task i e =>
      obtain ⟨hsame, hlength, hloop⟩ := task_late h
      refine ⟨hsame.trans hdrain, Nat.le_of_eq ?_⟩
      rw [hlength, reading, reading, hloop]
  | loop e =>
      have hidle : ∀ n, n ≤ n + reading s := fun n => Nat.le_add_right n _
      simp only [ServiceServer.step] at h
      cases ServiceServer.loopStep_move h with
      | toReading declared header hloop haccepts hslots =>
          -- the second look at the flag
          exfalso
          simp only [loopStep, hloop, haccepts, if_true, ServerConn.onHeader, hdrain] at h
          split at h
          · cases h
          · split at h
            · cases h
            · cases h
      | spawn declared header bytes method body hloop hmethod =>
          refine ⟨hdrain, ?_⟩
          rw [reading, reading, hloop]
          show (s.tasks ++ [_]).length + 0 ≤ s.tasks.length + 1
          rw [List.length_append]
          exact Nat.le_refl _
      | insert i requestId hloop =>
          obtain ⟨hsame, hlength, -⟩ := removePending_frame s i requestId
          refine ⟨hsame.trans hdrain, ?_⟩
          show (s.removePending i requestId).tasks.length + 0 ≤ _
          rw [hlength]
          exact hidle _
      | cancelHit requestId j hloop hlookup =>
          refine ⟨hdrain, ?_⟩
          show (s.tasks.modify j _).length + 0 ≤ _
          rw [List.length_modify]
          exact hidle _
      | drainSweep hloop =>
          refine ⟨hdrain, ?_⟩
          show (s.tasks.mapIdx _).length + 0 ≤ _
          rw [List.length_mapIdx]
          exact hidle _
      | beginDrain => exact ⟨rfl, Nat.le_refl _⟩
      | stopReading | headerFailed | toDiscarding | toCancelling | notRequest | abandon | reject
      | discardFailed | readFailed | cancelMiss | rejectLock | rejectWrite | rejectFlush
      | rejectFail => exact ⟨hdrain, hidle _⟩

end Late

/-! ## What a step can do -/

section Steps

variable {cfg : ListenerCfg} {s s' : Listener} {e : Event}

/-- The moves of a listener. -/
inductive Move (cfg : ListenerCfg) (s : Listener) : Listener → Prop where
  | top : s.loop = .top →
      Move cfg s { s with loop := if s.drained then .ended else .select }
  | changed : s.loop = .select →
      Move cfg s { s with loop := if s.drained || s.closed then .ended else .polled }
  | polled (loop : LoopPhase) : s.loop = .polled → Move cfg s { s with loop := loop }
  | turnedAway (loopback : Bool) : s.loop = .accepted loopback →
      Move cfg s { s with loop := .top }
  | serve (loopback : Bool) (loop : LoopPhase) : s.loop = .accepted loopback →
      (cfg.transport = .tcpDebug → loopback = true) → (loop = .top ∨ loop = .ended) →
      Move cfg s (s.serve loopback loop)
  | dropLoop : s.loop = .select → Move cfg s { s with loop := .ended }
  | conn (i : Nat) (c c' : Conn) (e : ConnEvent) : s.conns[i]? = some c →
      c.step cfg s.drained e = some c' → Move cfg s { s with conns := s.conns.set i c' }
  | raise (holder : Holder) : s.holder = .holding →
      (holder = s.holder ∨ ∃ waits, holder = .signalled waits) →
      Move cfg s { s.raise with holder := holder }
  | held (closed aborted socket : Bool) (holder : Holder) : s.holder ≠ .holding →
      (holder = .joined ∨ holder = .returned true → s.loop = .ended ∨ s.holder = .joined) →
      (s.holder = .dropped → holder = .dropped) →
      Move cfg s { s with closed := closed, aborted := aborted, socket := socket, holder := holder }
  | dropHolder : Move cfg s { s with closed := true, holder := .dropped }

theorem step_move (h : step cfg s e = some s') : Move cfg s s' := by
  cases e with
  | loopTop =>
      simp only [step] at h
      split at h
      · rename_i hloop
        cases h
        exact .top hloop
      · cases h
  | pollChanged =>
      simp only [step] at h
      split at h
      · rename_i hloop
        cases h
        exact .changed hloop
      · cases h
  | pending =>
      simp only [step] at h
      split at h
      · rename_i hloop
        cases h
        exact .polled _ hloop
      · cases h
  | accept loopback =>
      simp only [step] at h
      split at h
      · rename_i hloop
        cases h
        exact .polled _ hloop
      · cases h
  | acceptFailed =>
      simp only [step] at h
      split at h
      · rename_i hloop
        cases h
        exact .polled _ hloop
      · cases h
  | spawn next =>
      simp only [step] at h
      split at h
      · rename_i loopback hloop
        cases h
        rw [Listener.onAccepted]
        cases htransport : cfg.transport with
        | unixSocket =>
            refine .serve loopback _ hloop ?_ (.inl rfl)
            rw [htransport]
            rintro ⟨⟩
        | tcpDebug =>
            cases loopback with
            | false => exact .turnedAway false hloop
            | true => exact .serve true _ hloop (fun _ => rfl) (.inl rfl)
        | namedPipe =>
            refine .serve loopback _ hloop ?_ ?_
            · rw [htransport]
              rintro ⟨⟩
            · cases next with
              | false => exact .inr rfl
              | true => exact .inl rfl
      · cases h
  | dropLoop =>
      simp only [step] at h
      split at h
      · rename_i hloop
        split at h
        · cases h
          exact .dropLoop hloop
        · cases h
      · cases h
  | conn i e =>
      obtain ⟨c, hc, h⟩ := Option.bind_eq_some_iff.mp h
      obtain ⟨c', hstep, h⟩ := Option.bind_eq_some_iff.mp h
      cases h
      exact .conn i c c' e hc hstep
  | beginDrain =>
      simp only [step] at h
      split at h
      · rename_i hholder
        cases h
        exact .raise s.holder hholder (.inl rfl)
      · cases h
  | stop waits =>
      simp only [step] at h
      split at h
      · rename_i hholder
        cases h
        exact .raise _ hholder (.inr ⟨waits, rfl⟩)
      · cases h
  | abortLoop =>
      simp only [step] at h
      split at h
      · rename_i waits hholder
        cases h
        refine .held s.closed true s.socket _ ?_ ?_ ?_
        · rw [hholder]
          rintro ⟨⟩
        · intro hlate
          rcases hlate with hlate | hlate
          · cases hlate
          · cases hlate
        · rw [hholder]
          rintro ⟨⟩
      · cases h
  | join =>
      simp only [step] at h
      split at h
      · rename_i hready
        cases h
        refine .held s.closed s.aborted s.socket _ ?_ (fun _ => .inl hready.2) ?_
        · rw [hready.1]
          rintro ⟨⟩
        · rw [hready.1]
          rintro ⟨⟩
      · cases h
  | removePath removed =>
      simp only [step] at h
      split at h
      · rename_i hholder
        cases h
        refine .held true s.aborted _ _ ?_ ?_ ?_
        · rw [hholder]
          rintro ⟨⟩
        · intro hlate
          rcases hlate with hlate | hlate
          · cases hlate
          · cases hlate
        · rw [hholder]
          rintro ⟨⟩
      · rename_i hholder
        cases h
        refine .held true s.aborted _ _ ?_ (fun _ => .inr hholder) ?_
        · rw [hholder]
          rintro ⟨⟩
        · rw [hholder]
          rintro ⟨⟩
      · cases h
  | dropHolder =>
      simp only [step] at h
      split at h
      · cases h
        exact .dropHolder
      · cases h
        exact .dropHolder
      · cases h

end Steps

/-! ## Every connection -/

section Invariant

variable {cfg : ListenerCfg} {s s' : Listener} {e : Event}

/-- A connection that is served is a run of its protocol. -/
def Conn.Served (cfg : ListenerCfg) (c : Conn) : Prop :=
  match c.serving with
  | .peeking | .gone => True
  | .jsonl s => Reaches (jsonlStep cfg.jsonl) Free .start s
  | .binary s => Reaches (ServiceServer.step cfg.binary) Free (.start cfg.binary) s

/-- The peer may be served. -/
def Conn.Admissible (cfg : ListenerCfg) (c : Conn) : Prop :=
  cfg.transport = .tcpDebug → c.loopback = true

theorem Conn.Served.drain {c : Conn} (h : c.Served cfg) : c.drain.Served cfg := by
  obtain ⟨loopback, serving⟩ := c
  cases serving with
  | peeking => trivial
  | jsonl s => exact Reaches.step JsonlEvent.beginDrain h trivial rfl
  | binary s => exact Reaches.step (ServerEvent.loop .beginDrain) h trivial rfl
  | gone => trivial

theorem Conn.loopback_drain (c : Conn) : c.drain.loopback = c.loopback := by
  obtain ⟨loopback, serving⟩ := c
  cases serving with
  | peeking | jsonl | binary | gone => rfl

theorem Conn.Served.choose (cfg : ListenerCfg) (loopback drained : Bool) (byte : UInt8) :
    Conn.Served cfg ⟨loopback, Conn.choose cfg drained byte⟩ := by
  rw [Conn.choose]
  split
  · cases drained with
    | false => exact Reaches.init
    | true => exact Reaches.step JsonlEvent.beginDrain Reaches.init trivial rfl
  · cases drained with
    | false => exact Reaches.init
    | true => exact Reaches.step (ServerEvent.loop .beginDrain) Reaches.init trivial rfl

/-- How a connection moves. -/
inductive ConnMove (cfg : ListenerCfg) (drained : Bool) (c : Conn) : Conn → Prop where
  | choose (byte : UInt8) : c.serving = .peeking →
      ConnMove cfg drained c { c with serving := Conn.choose cfg drained byte }
  | fail : c.serving = .peeking → ConnMove cfg drained c { c with serving := .gone }
  | jsonl (s s' : JsonlConn) (e : JsonlEvent) : c.serving = .jsonl s →
      jsonlStep cfg.jsonl s e = some s' →
      ConnMove cfg drained c { c with serving := .jsonl s' }
  | binary (s s' : ServerConn) (e : ServerEvent) : c.serving = .binary s →
      ServiceServer.step cfg.binary s e = some s' →
      ConnMove cfg drained c { c with serving := .binary s' }

theorem conn_move {drained : Bool} {c c' : Conn} {e : ConnEvent}
    (h : c.step cfg drained e = some c') : ConnMove cfg drained c c' := by
  rw [Conn.step] at h
  split at h
  · cases h
  · cases e with
    | first byte =>
        simp only [Conn.advance] at h
        split at h
        · rename_i hserving
          cases h
          exact .choose byte hserving
        · cases h
    | firstFailed =>
        simp only [Conn.advance] at h
        split at h
        · rename_i hserving
          cases h
          exact .fail hserving
        · cases h
    | jsonl e =>
        simp only [Conn.advance] at h
        split at h
        · rename_i s hserving
          obtain ⟨s', hstep, rfl⟩ := Option.map_eq_some_iff.mp h
          exact .jsonl s s' e hserving hstep
        · cases h
    | binary e =>
        simp only [Conn.advance] at h
        split at h
        · rename_i s hserving
          obtain ⟨s', hstep, rfl⟩ := Option.map_eq_some_iff.mp h
          exact .binary s s' e hserving hstep
        · cases h

theorem ConnMove.served {drained : Bool} {c c' : Conn} (m : ConnMove cfg drained c c')
    (h : c.Served cfg) : c'.Served cfg := by
  obtain ⟨loopback, serving⟩ := c
  cases m with
  | choose byte => exact Conn.Served.choose cfg loopback drained byte
  | fail => trivial
  | jsonl s s' e hserving hstep =>
      obtain rfl : serving = .jsonl s := hserving
      exact Reaches.step e h trivial hstep
  | binary s s' e hserving hstep =>
      obtain rfl : serving = .binary s := hserving
      exact Reaches.step e h trivial hstep

theorem ConnMove.loopback {drained : Bool} {c c' : Conn} (m : ConnMove cfg drained c c') :
    c'.loopback = c.loopback := by
  cases m with
  | choose | fail | jsonl | binary => rfl

/-- After the flag a connection starts what it has in hand and nothing else. -/
theorem ConnMove.late {c c' : Conn} (m : ConnMove cfg true c c') (h : c.Flagged) :
    c'.Flagged ∧ c'.started + c'.inHand ≤ c.started + c.inHand := by
  obtain ⟨loopback, serving⟩ := c
  cases m with
  | choose byte =>
      show Conn.Flagged ⟨loopback, Conn.choose cfg true byte⟩ ∧
        Conn.started ⟨loopback, Conn.choose cfg true byte⟩
          + Conn.inHand ⟨loopback, Conn.choose cfg true byte⟩ ≤ _
      rw [Conn.choose]
      split
      · exact ⟨rfl, Nat.zero_le _⟩
      · exact ⟨rfl, Nat.zero_le _⟩
  | fail => exact ⟨trivial, Nat.zero_le _⟩
  | jsonl s s' e hserving hstep =>
      obtain rfl : serving = .jsonl s := hserving
      obtain ⟨hdrain, hlength⟩ := jsonl_late h hstep
      exact ⟨hdrain, Nat.le_of_eq hlength⟩
  | binary s s' e hserving hstep =>
      obtain rfl : serving = .binary s := hserving
      exact binary_late h hstep

/-- The holder has raised the flag. -/
def Holder.raised : Holder → Bool
  | .holding | .dropped => false
  | .signalled _ | .aborted _ | .joined | .returned _ => true

/-- What holds of every listener. -/
structure Inv (cfg : ListenerCfg) (s : Listener) : Prop where
  served : ∀ c ∈ s.conns, c.Served cfg ∧ c.Admissible cfg
  flagged : s.drained = true → ∀ c ∈ s.conns, c.Flagged
  raised : s.holder.raised = true → s.drained = true
  joined : s.holder = .joined ∨ s.holder = .returned true → s.loop = .ended

theorem inv_start (cfg : ListenerCfg) : Inv cfg (.start cfg) where
  served := List.forall_mem_nil _
  flagged := fun _ => List.forall_mem_nil _
  raised := by rintro ⟨⟩
  joined := by
    intro h
    rcases h with h | h
    · cases h
    · cases h

/-- **THE STEP LEMMA** of the listener. -/
theorem Inv.preserved (h : Inv cfg s) (m : Move cfg s s') : Inv cfg s' := by
  have hjoined : ∀ {loop : LoopPhase}, s.loop ≠ .ended →
      (s.holder = .joined ∨ s.holder = .returned true → loop = .ended) := by
    intro loop hne hholder
    exact absurd (h.joined hholder) hne
  cases m with
  | top hloop =>
      exact ⟨h.served, h.flagged, h.raised, hjoined (by rw [hloop]; rintro ⟨⟩)⟩
  | changed hloop =>
      exact ⟨h.served, h.flagged, h.raised, hjoined (by rw [hloop]; rintro ⟨⟩)⟩
  | polled loop hloop =>
      exact ⟨h.served, h.flagged, h.raised, hjoined (by rw [hloop]; rintro ⟨⟩)⟩
  | turnedAway loopback hloop =>
      exact ⟨h.served, h.flagged, h.raised, hjoined (by rw [hloop]; rintro ⟨⟩)⟩
  | dropLoop hloop =>
      exact ⟨h.served, h.flagged, h.raised, hjoined (by rw [hloop]; rintro ⟨⟩)⟩
  | serve loopback loop hloop hpeer hnext =>
      refine ⟨?_, ?_, h.raised, hjoined (by rw [hloop]; rintro ⟨⟩)⟩
      · intro c hc
        rcases List.mem_append.mp hc with hc | hc
        · exact h.served c hc
        · obtain rfl := List.mem_singleton.mp hc
          exact ⟨trivial, hpeer⟩
      · intro hdrained c hc
        rcases List.mem_append.mp hc with hc | hc
        · exact h.flagged hdrained c hc
        · obtain rfl := List.mem_singleton.mp hc
          trivial
  | conn i c c' e hc hstep =>
      have hmem := List.mem_of_getElem? hc
      have hmove := conn_move hstep
      refine ⟨?_, ?_, h.raised, h.joined⟩
      · intro d hd
        rcases List.mem_or_eq_of_mem_set hd with hd | rfl
        · exact h.served d hd
        · obtain ⟨hserved, hpeer⟩ := h.served c hmem
          refine ⟨hmove.served hserved, ?_⟩
          intro htransport
          rw [hmove.loopback]
          exact hpeer htransport
      · intro hdrained d hd
        rcases List.mem_or_eq_of_mem_set hd with hd | rfl
        · exact h.flagged hdrained d hd
        · have hdrained : s.drained = true := hdrained
          rw [hdrained] at hmove
          exact (hmove.late (h.flagged hdrained c hmem)).1
  | raise holder hbefore hafter =>
      refine ⟨?_, ?_, fun _ => rfl, ?_⟩
      · intro d hd
        obtain ⟨c, hc, rfl⟩ := List.mem_map.mp hd
        obtain ⟨hserved, hpeer⟩ := h.served c hc
        refine ⟨hserved.drain, ?_⟩
        intro htransport
        rw [c.loopback_drain]
        exact hpeer htransport
      · intro _ d hd
        obtain ⟨c, -, rfl⟩ := List.mem_map.mp hd
        exact c.flagged_drain
      · intro hholder
        rcases hafter with hafter | ⟨waits, hafter⟩
        · rw [show holder = s.holder from hafter] at hholder
          exact h.joined hholder
        · rcases hholder with hholder | hholder
          · cases hafter.symm.trans hholder
          · cases hafter.symm.trans hholder
  | held closed aborted socket holder hnot hended hdropped =>
      refine ⟨h.served, h.flagged, ?_, ?_⟩
      · intro hraised
        refine h.raised ?_
        cases hholder : s.holder with
        | holding => exact absurd hholder hnot
        | dropped =>
            rw [show holder = .dropped from hdropped hholder] at hraised
            cases hraised
        | signalled | aborted | joined | returned => rfl
      · intro hholder
        rcases hended hholder with hloop | hbefore
        · exact hloop
        · exact h.joined (.inl hbefore)
  | dropHolder =>
      refine ⟨h.served, h.flagged, by rintro ⟨⟩, ?_⟩
      intro hholder
      rcases hholder with hholder | hholder
      · cases hholder
      · cases hholder

theorem inv_of_reaches (h : Reaches (step cfg) Free (.start cfg) s) : Inv cfg s := by
  refine h.invariant (P := Inv cfg) (inv_start cfg) ?_
  intro s e s' hinv _ hs
  exact hinv.preserved (step_move hs)

end Invariant

/-! ## After the flag -/

section Since

variable {cfg : ListenerCfg} {s s' s'' : Listener} {e : Event}

/-- A connection that the loop may still come to have: it is past its look at the
    flag. -/
def Listener.underWay (s : Listener) : Nat :=
  match s.loop with
  | .polled | .accepted _ => 1
  | .top | .select | .ended => 0

/-- What has happened since the flag was raised in `s`. -/
structure Since (s s' : Listener) : Prop where
  drained : s'.drained = true
  /-- one connection at most was accepted, -/
  accepted : s'.conns.length + s'.underWay ≤ s.conns.length + s.underWay
  /-- the older ones started what they had in hand, -/
  older : ∀ (i : Nat) (c : Conn), s.conns[i]? = some c →
    ∃ c', s'.conns[i]? = some c' ∧ c'.started + c'.inHand ≤ c.started + c.inHand
  /-- and the new one starts nothing -/
  newer : ∀ (i : Nat) (c' : Conn), s.conns.length ≤ i → s'.conns[i]? = some c' →
    c'.started + c'.inHand = 0

theorem Since.trans (h : Since s s') (h' : Since s' s'') : Since s s'' where
  drained := h'.drained
  accepted := Nat.le_trans h'.accepted h.accepted
  older := by
    intro i c hc
    obtain ⟨c', hc', hle⟩ := h.older i c hc
    obtain ⟨c'', hc'', hle'⟩ := h'.older i c' hc'
    exact ⟨c'', hc'', Nat.le_trans hle' hle⟩
  newer := by
    intro i c'' hi hc''
    cases hc' : s'.conns[i]? with
    | none => exact h'.newer i c'' (List.getElem?_eq_none_iff.mp hc') hc''
    | some c' =>
        obtain ⟨d, hd, hle⟩ := h'.older i c' hc'
        have hzero := h.newer i c' hi hc'
        rw [hc''] at hd
        obtain rfl := Option.some.inj hd
        omega

/-- A loop that has ended accepts nothing. -/
theorem Move.ended (m : Move cfg s s') (hloop : s.loop = .ended) :
    s'.loop = .ended ∧ s'.conns.length = s.conns.length := by
  cases m with
  | top h | changed h | polled loop h | turnedAway loopback h | dropLoop h
  | serve loopback loop h =>
      rw [hloop] at h
      cases h
  | conn i c c' e hc hstep => exact ⟨hloop, List.length_set⟩
  | raise holder => exact ⟨hloop, List.length_map ..⟩
  | held | dropHolder => exact ⟨hloop, rfl⟩

end Since

/-! ### A connection accepted after the flag -/

/-- A listener on a Unix socket. -/
def sampleCfg : ListenerCfg where
  transport := .unixSocket
  jsonl := ⟨ServiceJsonl.sampleCfg.limits, ServiceJsonl.sampleJson⟩
  binary := ServiceServer.sampleCfg

end ServiceListener
