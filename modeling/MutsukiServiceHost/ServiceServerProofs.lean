import Mathlib.Data.Finmap
import MutsukiServiceHost.ServiceFrameProofs
import MutsukiServiceHost.TransitionProofs

/-! # `serve_binary` — the read loop and its request tasks as one machine

    One binary control connection of the server: the read loop, the tasks it
    spawns, the map `pending`, the permits, the locks that are held across an
    await (`mutate_lock`, `response_encode`, the writer) and the bytes written.
    A lock that guards one synchronous update (`pending`) is the update itself,
    taken as one step; a lock that is held across an await has a holder.

    The event of a step names the party that moves and what the environment
    answers: the frame that was read, the value the handler returned, how many
    bytes a write took.  `requests`, `replies`, `invoked` and `returned` are
    histories: the REQUEST frames read completely, the response frames written
    completely, the handler calls and their results, in order. -/

namespace ServiceServer

open ServiceControl ServiceFrame

/-- What a request task sees on its `abort_rx`. -/
inductive AbortSignal where
  | quiet
  | sent
  | closed
  deriving DecidableEq, Repr

/-- Where a request task stands. -/
inductive TaskPhase where
  /-- spawned, not polled yet -/
  | spawned
  /-- queued on `mutate_lock` -/
  | locking
  /-- inside the `select!` of `dispatch_request` -/
  | handling
  /-- `dispatch_request` has returned, `response_encode` not taken yet -/
  | responding (response : ControlResponse)
  /-- holds `response_encode` with an encoded frame, waits for the writer -/
  | encoded (response : ControlResponse) (frame : List UInt8)
  /-- holds both locks inside `write_all_flush` -/
  | writing (response : ControlResponse) (frame : List UInt8) (written : Nat)
  /-- both locks released, about to lock `pending` -/
  | removing
  | finished
  | panicked
  | dropped

/-- The task still owns its `abort_rx`. -/
def TaskPhase.dispatching : TaskPhase → Bool
  | .spawned | .locking | .handling => true
  | _ => false

/-- The task has not ended. -/
def TaskPhase.live : TaskPhase → Bool
  | .finished | .panicked | .dropped => false
  | _ => true

/-- A spawned request task. `req` is the position of its frame in `requests`. -/
structure Task where
  req : Nat
  requestId : Nat
  request : ControlRequest
  phase : TaskPhase
  signal : AbortSignal
  aborted : Bool

/-- Why the payload of a frame is thrown away. -/
inductive Discard where
  | cancel
  | notRequest
  | draining
  | limited
  deriving DecidableEq, Repr

/-- Where the read loop stands. -/
inductive LoopPhase where
  /-- in the `select!` over `drain_rx.changed()` and `read_frame_prefix` -/
  | waiting
  | discarding (declared : Nat) (header : FrameHeader) (why : Discard)
  /-- a permit is held and the payload is being read -/
  | reading (declared : Nat) (header : FrameHeader)
  | cancelling (requestId : Nat)
  /-- an error answer is encoded, the writer not taken yet -/
  | rejecting (req : Nat) (response : ControlResponse) (frame : List UInt8)
  | rejectWriting (req : Nat) (response : ControlResponse) (frame : List UInt8) (written : Nat)
  /-- the task is spawned, its entry not inserted yet -/
  | inserting (task : Nat) (requestId : Nat)
  | draining
  | done (result : Except IpcError Unit)

/-- What became of a REQUEST frame that was read completely. -/
inductive Disposition where
  | spawned (task : Nat)
  /-- turned away, the loop is about to write the answer -/
  | rejecting
  /-- turned away and answered, the loop has gone on -/
  | rejected
  /-- the loop ended on it -/
  | abandoned
  deriving DecidableEq, Repr

/-- A REQUEST frame that was read completely. -/
structure RequestLog where
  requestId : Nat
  opcode : UInt16
  disposition : Disposition
  deriving DecidableEq, Repr

/-- A response frame that was written completely. -/
structure Reply where
  req : Nat
  response : ControlResponse
  frame : List UInt8

/-- Who holds the writer. -/
inductive Writer where
  | loop
  | task (i : Nat)
  deriving DecidableEq, Repr

/-- The fixed surroundings of a connection. -/
structure ServerCfg where
  limits : ControlIpcLimits
  codec : MsgPack

/-- The state of one binary connection. -/
structure ServerConn where
  loop : LoopPhase
  drain : Bool
  tasks : List Task
  pending : Finmap (fun _ : Nat => Nat)
  slots : Nat
  mutateQueue : List Nat
  encodeHolder : Option Nat
  writerHolder : Option Writer
  broken : Bool
  out : List UInt8
  requests : List RequestLog
  replies : List Reply
  invoked : List Nat
  returned : List (Nat × ControlResponse)

/-- A fresh connection. -/
def ServerConn.start (cfg : ServerCfg) : ServerConn where
  loop := .waiting
  drain := false
  tasks := []
  pending := ∅
  slots := cfg.limits.maxInFlight
  mutateQueue := []
  encodeHolder := none
  writerHolder := none
  broken := false
  out := []
  requests := []
  replies := []
  invoked := []
  returned := []

/-- The steps of the read loop. -/
inductive LoopEvent where
  /-- `drain_tx` sends `true` -/
  | beginDrain
  /-- drain seen, clean end of stream or idle timeout while waiting -/
  | stopReading
  /-- `read_frame_prefix` returned an error -/
  | headerFailed (error : IpcError)
  /-- `read_frame_prefix` returned a prefix -/
  | header (declared : Nat) (header : FrameHeader)
  /-- `read_payload_or_discard` consumed the payload -/
  | payload (bytes : List UInt8)
  /-- `read_payload_or_discard` returned an error -/
  | payloadFailed (error : IpcError)
  /-- the body of `cancel_pending` -/
  | cancelPending
  /-- `pending.lock().await.insert(..)` -/
  | insertPending
  | rejectLock
  | rejectWrite (n : Nat)
  | rejectFlush
  | rejectFail (error : IpcError)
  /-- the closing sweep of `wait_pending_drain` -/
  | drainSweep

/-- The steps of a request task. -/
inductive TaskEvent where
  /-- the first poll: `dispatch_request` up to the lock call or the handler -/
  | poll
  /-- `mutate_lock` is granted and the handler is called -/
  | acquire
  | handlerReturn (response : ControlResponse)
  | handlerPanic
  /-- the `abort_rx.changed()` branch of the `select!` -/
  | abortSeen
  /-- `response_encode` is taken and the response encoded -/
  | encode
  | lockWriter
  | write (n : Nat)
  | flush
  | writeFail
  /-- `map.remove(&request_id)` -/
  | remove
  /-- the runtime drops an aborted task at a suspension point -/
  | drop

/-- The steps of a connection. -/
inductive ServerEvent where
  | loop (e : LoopEvent)
  | task (i : Nat) (e : TaskEvent)

/-- The answer to a request at the pending limit. -/
def limitResponse (limits : ControlIpcLimits) : ControlResponse :=
  .err (.failed ("pending request limit exceeded (" ++ toString limits.maxInFlight ++ ")"))

/-- The answer to a request whose body does not decode. -/
def badRequestResponse (detail : String) : ControlResponse :=
  .err (.badRequest detail)

/-- The answer of a request that saw its abort signal. -/
def cancelledResponse : ControlResponse :=
  .err (.failed "request cancelled")

/-- What `read_frame_prefix` accepts. -/
def acceptsHeader (limits : ControlIpcLimits) (declared : Nat) (header : FrameHeader) : Bool :=
  (validateFrameLength declared limits).isOk
    && decide (FrameFlags.fromBits header.flags.bits = .ok header.flags)
    && decide (header.requestId ≠ 0) && decide (header.requestId < 2 ^ 64)
    && decide (header.payloadLen < 2 ^ 32)
    && decide (header.payloadLen ≤ limits.maxPayloadBytes)

/-- The entry of a task loses its sender without a message: a receiver that is
    still listening sees the channel closed. -/
def Task.disconnect (t : Task) : Task :=
  if t.phase.dispatching = true ∧ t.signal = .quiet then { t with signal := .closed } else t

/-- `abort.send(true)` followed by `task.abort()`. -/
def Task.abort (t : Task) : Task :=
  { t with signal := .sent, aborted := true }

namespace ServerConn

/-- The REQUEST frame is read: record it. -/
def record (s : ServerConn) (header : FrameHeader) (d : Disposition) : List RequestLog :=
  s.requests ++ [⟨header.requestId, header.opcode, d⟩]

/-- The loop answers a request itself: encode the error response, or end on
    the encoding error. -/
def reject (cfg : ServerCfg) (s : ServerConn) (header : FrameHeader) (method : ControlMethod)
    (response : ControlResponse) : ServerConn :=
  match encodeBinaryResponse cfg.codec header.requestId method response cfg.limits with
  | .error e =>
      { s with loop := .done (.error e), requests := s.record header .abandoned }
  | .ok frame =>
      { s with
        loop := .rejecting s.requests.length response frame
        requests := s.record header .rejecting }

/-- The loop after a prefix. -/
def onHeader (s : ServerConn) (declared : Nat) (header : FrameHeader) : ServerConn :=
  if header.flags.contains .cancel || header.opcode == opcodeCancel then
    { s with loop := .discarding declared header .cancel }
  else if !header.flags.contains .request then
    { s with loop := .discarding declared header .notRequest }
  -- the flag is looked at again after the read
  else if s.drain then
    { s with loop := .discarding declared header .draining }
  else if s.slots = 0 then
    { s with loop := .discarding declared header .limited }
  else
    { s with loop := .reading declared header, slots := s.slots - 1 }

/-- The loop after a discarded payload. -/
def onDiscarded (cfg : ServerCfg) (s : ServerConn) (header : FrameHeader) : Discard → ServerConn
  | .cancel => { s with loop := .cancelling header.requestId }
  | .notRequest => { s with loop := .done (.error (.unknownFlags header.flags.bits)) }
  | .draining =>
      { s with loop := .done (.error .draining), requests := s.record header .abandoned }
  | .limited =>
      s.reject cfg header ((ControlMethod.fromOpcode header.opcode).getD .healthCheck)
        (limitResponse cfg.limits)

/-- The loop after a payload it keeps: the permit goes to the spawned task or
    is given back. -/
def onPayload (cfg : ServerCfg) (s : ServerConn) (header : FrameHeader)
    (payload : List UInt8) : ServerConn :=
  match ControlMethod.fromOpcode header.opcode with
  | none =>
      { s with
        loop := .done (.error (.unknownOpcode header.opcode))
        slots := s.slots + 1
        requests := s.record header .abandoned }
  | some method =>
      match cfg.codec.unpackRequest cfg.limits.maxMsgpackNestingDepth payload with
      -- the permit is given back before the answer
      | .error detail =>
          { s with slots := s.slots + 1 }.reject cfg header method (badRequestResponse detail)
      | .ok body =>
          { s with
            loop := .inserting s.tasks.length header.requestId
            tasks := s.tasks ++
              [⟨s.requests.length, header.requestId, ⟨body.token, method, body.params⟩,
                .spawned, .quiet, false⟩]
            requests := s.record header (.spawned s.tasks.length) }

/-- Remove the entry of `requestId`; the sender of a task other than `self` is
    dropped with it. -/
def removePending (s : ServerConn) (self requestId : Nat) : ServerConn :=
  match s.pending.lookup requestId with
  | none => s
  | some j =>
      { s with
        pending := s.pending.erase requestId
        tasks := if j = self then s.tasks else s.tasks.modify j Task.disconnect }

/-- Bytes `written .. written + n` of a frame reach the connection; the last
    one completes the reply. -/
def push (s : ServerConn) (req : Nat) (response : ControlResponse) (frame : List UInt8)
    (written n : Nat) : ServerConn :=
  { s with
    out := s.out ++ (frame.drop written).take n
    replies := if written + n = frame.length then s.replies ++ [⟨req, response, frame⟩]
      else s.replies }

/-- Move task `i` to another phase. -/
def setPhase (s : ServerConn) (i : Nat) (phase : TaskPhase) : ServerConn :=
  { s with tasks := s.tasks.modify i fun t => { t with phase := phase } }

/-- The loop's request `r` is settled. -/
def settle (s : ServerConn) (r : Nat) (d : Disposition) : List RequestLog :=
  s.requests.modify r fun q => { q with disposition := d }

/-- The handler of task `i` is called. -/
def invoke (s : ServerConn) (i req : Nat) : ServerConn :=
  { s.setPhase i .handling with invoked := s.invoked ++ [req] }

/-- Task `i` leaves `dispatch_request`; its guard on `mutate_lock` goes with it. -/
def leaveDispatch (s : ServerConn) (i : Nat) (phase : TaskPhase) : ServerConn :=
  { s.setPhase i phase with mutateQueue := s.mutateQueue.filter (· ≠ i) }

/-- Task `i` ends at whatever it holds: queue place, guards and permit. -/
def release (s : ServerConn) (i : Nat) (phase : TaskPhase) : ServerConn :=
  { s.setPhase i phase with
    mutateQueue := s.mutateQueue.filter (· ≠ i)
    encodeHolder := if s.encodeHolder = some i then none else s.encodeHolder
    writerHolder := if s.writerHolder = some (.task i) then none else s.writerHolder
    slots := s.slots + 1 }

end ServerConn

/-- One step of the read loop. -/
def loopStep (cfg : ServerCfg) (s : ServerConn) : LoopEvent → Option ServerConn
  | .beginDrain => some { s with drain := true }
  | .stopReading =>
      match s.loop with
      | .waiting => some { s with loop := .draining }
      | _ => none
  | .headerFailed error =>
      match s.loop with
      | .waiting => some { s with loop := .done (.error error) }
      | _ => none
  | .header declared header =>
      match s.loop with
      | .waiting =>
          if acceptsHeader cfg.limits declared header then some (s.onHeader declared header)
          else none
      | _ => none
  | .payload bytes =>
      match s.loop with
      | .discarding declared header why =>
          if declared = binaryHeaderLen + header.payloadLen ∧ bytes.length = header.payloadLen then
            some (s.onDiscarded cfg header why)
          else none
      | .reading declared header =>
          if declared = binaryHeaderLen + header.payloadLen ∧ bytes.length = header.payloadLen then
            some (s.onPayload cfg header bytes)
          else none
      | _ => none
  | .payloadFailed error =>
      match s.loop with
      | .discarding _ _ _ => some { s with loop := .done (.error error) }
      | .reading _ _ => some { s with loop := .done (.error error), slots := s.slots + 1 }
      | _ => none
  | .cancelPending =>
      match s.loop with
      | .cancelling requestId =>
          match s.pending.lookup requestId with
          -- nothing runs under this id: the frame has no effect
          | none => some { s with loop := .waiting }
          | some j =>
              some { s with
                loop := .waiting
                pending := s.pending.erase requestId
                tasks := s.tasks.modify j Task.abort }
      | _ => none
  | .insertPending =>
      match s.loop with
      | .inserting i requestId =>
          some { s.removePending i requestId with
            loop := .waiting
            pending := s.pending.insert requestId i }
      | _ => none
  | .rejectLock =>
      match s.loop, s.writerHolder with
      | .rejecting r response frame, none =>
          some { s with loop := .rejectWriting r response frame 0, writerHolder := some .loop }
      | _, _ => none
  | .rejectWrite n =>
      match s.loop with
      | .rejectWriting r response frame written =>
          if 0 < n ∧ written + n ≤ frame.length ∧ s.broken = false then
            some { s.push r response frame written n with
              loop := .rejectWriting r response frame (written + n) }
          else none
      | _ => none
  | .rejectFlush =>
      match s.loop with
      | .rejectWriting r _ frame written =>
          if written = frame.length then
            some { s with
              loop := .waiting
              writerHolder := none
              requests := s.settle r .rejected }
          else none
      | _ => none
  | .rejectFail error =>
      match s.loop with
      | .rejectWriting r _ _ _ =>
          some { s with
            loop := .done (.error error)
            broken := true
            writerHolder := none
            requests := s.settle r .abandoned }
      | _ => none
  | .drainSweep =>
      match s.loop with
      | .draining =>
          some { s with
            loop := .done (.ok ())
            pending := ∅
            tasks := s.tasks.mapIdx fun j t =>
              if s.pending.lookup t.requestId = some j then t.abort else t }
      | _ => none

/-- One step of request task `i`, which is `t`. -/
def taskStep (cfg : ServerCfg) (s : ServerConn) (i : Nat) (t : Task) :
    TaskEvent → Option ServerConn
  | .poll =>
      match t.phase with
      | .spawned =>
          if t.request.method.isMutating then
            some { s.setPhase i .locking with mutateQueue := s.mutateQueue ++ [i] }
          else some (s.invoke i t.req)
      | _ => none
  | .acquire =>
      match t.phase with
      | .locking => if s.mutateQueue.head? = some i then some (s.invoke i t.req) else none
      | _ => none
  | .handlerReturn response =>
      match t.phase with
      | .handling =>
          some { s.leaveDispatch i (.responding response) with
            returned := s.returned ++ [(t.req, response)] }
      | _ => none
  | .handlerPanic =>
      match t.phase with
      | .handling => some (s.release i .panicked)
      | _ => none
  | .abortSeen =>
      match t.phase with
      | .handling =>
          -- sent by an abort, or closed with the entry in `pending`
          if t.signal ≠ .quiet then some (s.leaveDispatch i (.responding cancelledResponse))
          else none
      | _ => none
  | .encode =>
      match t.phase, s.encodeHolder with
      | .responding response, none =>
          match encodeBinaryResponse cfg.codec t.requestId t.request.method response
              cfg.limits with
          -- the error is dropped and nothing is written
          | .error _ => some (s.setPhase i .removing)
          | .ok frame =>
              some { s.setPhase i (.encoded response frame) with encodeHolder := some i }
      | _, _ => none
  | .lockWriter =>
      match t.phase, s.writerHolder with
      | .encoded response frame, none =>
          some { s.setPhase i (.writing response frame 0) with writerHolder := some (.task i) }
      | _, _ => none
  | .write n =>
      match t.phase with
      | .writing response frame written =>
          if 0 < n ∧ written + n ≤ frame.length ∧ s.broken = false then
            some ((s.push t.req response frame written n).setPhase i
              (.writing response frame (written + n)))
          else none
      | _ => none
  | .flush =>
      match t.phase with
      | .writing _ frame written =>
          if written = frame.length then
            some { s.setPhase i .removing with encodeHolder := none, writerHolder := none }
          else none
      | _ => none
  | .writeFail =>
      match t.phase with
      | .writing _ _ _ =>
          some { s.setPhase i .removing with
            encodeHolder := none, writerHolder := none, broken := true }
      | _ => none
  | .remove =>
      match t.phase with
      | .removing =>
          some { (s.removePending i t.requestId).setPhase i .finished with
            slots := s.slots + 1 }
      | _ => none
  | .drop =>
      if t.aborted = true ∧ t.phase.live = true then some (s.release i .dropped) else none

/-- One step of the connection. -/
def step (cfg : ServerCfg) (s : ServerConn) : ServerEvent → Option ServerConn
  | .loop e => loopStep cfg s e
  | .task i e =>
      match s.tasks[i]? with
      | none => none
      | some t => taskStep cfg s i t e

/-! ## Sample frames -/

/-- The header of a sample REQUEST frame. -/
def sampleHeader (method : ControlMethod) (requestId : Nat) : FrameHeader :=
  ⟨method.opcode, .request, requestId, samplePayload.length⟩

/-- The loop reads a sample REQUEST frame and spawns its task. -/
def sampleRequest (method : ControlMethod) (requestId : Nat) : List ServerEvent :=
  [.loop (.header (binaryHeaderLen + samplePayload.length) (sampleHeader method requestId)),
    .loop (.payload samplePayload), .loop .insertPending]

/-- Surroundings for sample runs. -/
def sampleCfg : ServerCfg := ⟨sampleLimits, sampleCodec⟩

/-! ## What a step can do

    `TaskMove` and `LoopMove` list every transition once, with its guard and
    the state it leads to.  Invariants are proved against these lists; nothing
    below unfolds `taskStep` or `loopStep` again. -/

/-- The transitions of task `i`. -/
inductive TaskMove (cfg : ServerCfg) (s : ServerConn) (i : Nat) (t : Task) :
    TaskEvent → ServerConn → Prop where
  | pollLock : t.phase = .spawned → t.request.method.isMutating = true →
      TaskMove cfg s i t .poll
        { s.setPhase i .locking with mutateQueue := s.mutateQueue ++ [i] }
  | pollInvoke : t.phase = .spawned → t.request.method.isMutating = false →
      TaskMove cfg s i t .poll (s.invoke i t.req)
  | acquire : t.phase = .locking → s.mutateQueue.head? = some i →
      TaskMove cfg s i t .acquire (s.invoke i t.req)
  | handlerReturn (response : ControlResponse) : t.phase = .handling →
      TaskMove cfg s i t (.handlerReturn response)
        { s.leaveDispatch i (.responding response) with
          returned := s.returned ++ [(t.req, response)] }
  | handlerPanic : t.phase = .handling → TaskMove cfg s i t .handlerPanic (s.release i .panicked)
  | abortSeen : t.phase = .handling → t.signal ≠ .quiet →
      TaskMove cfg s i t .abortSeen (s.leaveDispatch i (.responding cancelledResponse))
  | encodeFail (response : ControlResponse) (error : IpcError) :
      t.phase = .responding response → s.encodeHolder = none →
      encodeBinaryResponse cfg.codec t.requestId t.request.method response cfg.limits
        = .error error →
      TaskMove cfg s i t .encode (s.setPhase i .removing)
  | encode (response : ControlResponse) (frame : List UInt8) :
      t.phase = .responding response → s.encodeHolder = none →
      encodeBinaryResponse cfg.codec t.requestId t.request.method response cfg.limits
        = .ok frame →
      TaskMove cfg s i t .encode
        { s.setPhase i (.encoded response frame) with encodeHolder := some i }
  | lockWriter (response : ControlResponse) (frame : List UInt8) :
      t.phase = .encoded response frame → s.writerHolder = none →
      TaskMove cfg s i t .lockWriter
        { s.setPhase i (.writing response frame 0) with writerHolder := some (.task i) }
  | write (response : ControlResponse) (frame : List UInt8) (written n : Nat) :
      t.phase = .writing response frame written → 0 < n → written + n ≤ frame.length →
      s.broken = false →
      TaskMove cfg s i t (.write n) ((s.push t.req response frame written n).setPhase i
        (.writing response frame (written + n)))
  | flush (response : ControlResponse) (frame : List UInt8) :
      t.phase = .writing response frame frame.length →
      TaskMove cfg s i t .flush
        { s.setPhase i .removing with encodeHolder := none, writerHolder := none }
  | writeFail (response : ControlResponse) (frame : List UInt8) (written : Nat) :
      t.phase = .writing response frame written →
      TaskMove cfg s i t .writeFail
        { s.setPhase i .removing with encodeHolder := none, writerHolder := none, broken := true }
  | remove : t.phase = .removing →
      TaskMove cfg s i t .remove
        { (s.removePending i t.requestId).setPhase i .finished with slots := s.slots + 1 }
  | drop : t.aborted = true → t.phase.live = true →
      TaskMove cfg s i t .drop (s.release i .dropped)

theorem taskStep_move {cfg : ServerCfg} {s s' : ServerConn} {i : Nat} {t : Task}
    {e : TaskEvent} (h : taskStep cfg s i t e = some s') : TaskMove cfg s i t e s' := by
  cases e with
  | poll =>
      simp only [taskStep] at h
      split at h
      · rename_i hp
        by_cases hm : t.request.method.isMutating = true
        · rw [if_pos hm] at h
          cases h
          exact .pollLock hp hm
        · rw [if_neg hm] at h
          cases h
          exact .pollInvoke hp (by simpa using hm)
      · exact nomatch h
  | acquire =>
      simp only [taskStep] at h
      split at h
      · rename_i hp
        split at h
        · rename_i hq
          cases h
          exact .acquire hp hq
        · exact nomatch h
      · exact nomatch h
  | handlerReturn response =>
      simp only [taskStep] at h
      split at h
      · rename_i hp
        cases h
        exact .handlerReturn response hp
      · exact nomatch h
  | handlerPanic =>
      simp only [taskStep] at h
      split at h
      · rename_i hp
        cases h
        exact .handlerPanic hp
      · exact nomatch h
  | abortSeen =>
      simp only [taskStep] at h
      split at h
      · rename_i hp
        split at h
        · rename_i hs
          cases h
          exact .abortSeen hp hs
        · exact nomatch h
      · exact nomatch h
  | encode =>
      simp only [taskStep] at h
      split at h
      · rename_i response hp hl
        split at h
        · rename_i error he
          cases h
          exact .encodeFail response error hp hl he
        · rename_i frame he
          cases h
          exact .encode response frame hp hl he
      · exact nomatch h
  | lockWriter =>
      simp only [taskStep] at h
      split at h
      · rename_i response frame hp hl
        cases h
        exact .lockWriter response frame hp hl
      · exact nomatch h
  | write n =>
      simp only [taskStep] at h
      split at h
      · rename_i response frame written hp
        split at h
        · rename_i hc
          cases h
          exact .write response frame written n hp hc.1 hc.2.1 hc.2.2
        · exact nomatch h
      · exact nomatch h
  | flush =>
      simp only [taskStep] at h
      split at h
      · rename_i response frame written hp
        split at h
        · rename_i hc
          cases h
          exact .flush response frame (hc ▸ hp)
        · exact nomatch h
      · exact nomatch h
  | writeFail =>
      simp only [taskStep] at h
      split at h
      · rename_i response frame written hp
        cases h
        exact .writeFail response frame written hp
      · exact nomatch h
  | remove =>
      simp only [taskStep] at h
      split at h
      · rename_i hp
        cases h
        exact .remove hp
      · exact nomatch h
  | drop =>
      simp only [taskStep] at h
      split at h
      · rename_i hc
        cases h
        exact .drop hc.1 hc.2
      · exact nomatch h

/-- The transitions of the read loop. -/
inductive LoopMove (cfg : ServerCfg) (s : ServerConn) : LoopEvent → ServerConn → Prop where
  | beginDrain : LoopMove cfg s .beginDrain { s with drain := true }
  | stopReading : s.loop = .waiting → LoopMove cfg s .stopReading { s with loop := .draining }
  | headerFailed (error : IpcError) : s.loop = .waiting →
      LoopMove cfg s (.headerFailed error) { s with loop := .done (.error error) }
  | toDiscarding (declared : Nat) (header : FrameHeader) (why : Discard) : s.loop = .waiting →
      acceptsHeader cfg.limits declared header = true →
      LoopMove cfg s (.header declared header)
        { s with loop := .discarding declared header why }
  | toReading (declared : Nat) (header : FrameHeader) : s.loop = .waiting →
      acceptsHeader cfg.limits declared header = true → 0 < s.slots →
      LoopMove cfg s (.header declared header)
        { s with loop := .reading declared header, slots := s.slots - 1 }
  | toCancelling (declared : Nat) (header : FrameHeader) (bytes : List UInt8) :
      s.loop = .discarding declared header .cancel →
      LoopMove cfg s (.payload bytes) { s with loop := .cancelling header.requestId }
  | notRequest (declared : Nat) (header : FrameHeader) (bytes : List UInt8) :
      s.loop = .discarding declared header .notRequest →
      LoopMove cfg s (.payload bytes)
        { s with loop := .done (.error (.unknownFlags header.flags.bits)) }
  | abandon (header : FrameHeader) (bytes : List UInt8) (error : IpcError) (slots : Nat) :
      ((∃ declared, s.loop = .reading declared header) ∨
        ∃ declared why, s.loop = .discarding declared header why) →
      LoopMove cfg s (.payload bytes)
        { s with
          loop := .done (.error error)
          slots := slots
          requests := s.record header .abandoned }
  | reject (header : FrameHeader) (bytes : List UInt8) (method : ControlMethod)
      (response : ControlResponse) (frame : List UInt8) (slots : Nat) :
      ((∃ declared, s.loop = .reading declared header) ∨
        ∃ declared why, s.loop = .discarding declared header why) →
      encodeBinaryResponse cfg.codec header.requestId method response cfg.limits = .ok frame →
      (response = limitResponse cfg.limits ∨ ∃ detail, response = badRequestResponse detail) →
      LoopMove cfg s (.payload bytes)
        { s with
          loop := .rejecting s.requests.length response frame
          slots := slots
          requests := s.record header .rejecting }
  | spawn (declared : Nat) (header : FrameHeader) (bytes : List UInt8) (method : ControlMethod)
      (body : ControlRequestBody) :
      s.loop = .reading declared header →
      ControlMethod.fromOpcode header.opcode = some method →
      LoopMove cfg s (.payload bytes)
        { s with
          loop := .inserting s.tasks.length header.requestId
          tasks := s.tasks ++
            [⟨s.requests.length, header.requestId, ⟨body.token, method, body.params⟩,
              .spawned, .quiet, false⟩]
          requests := s.record header (.spawned s.tasks.length) }
  | discardFailed (declared : Nat) (header : FrameHeader) (why : Discard) (error : IpcError) :
      s.loop = .discarding declared header why →
      LoopMove cfg s (.payloadFailed error) { s with loop := .done (.error error) }
  | readFailed (declared : Nat) (header : FrameHeader) (error : IpcError) :
      s.loop = .reading declared header →
      LoopMove cfg s (.payloadFailed error)
        { s with loop := .done (.error error), slots := s.slots + 1 }
  | cancelMiss (requestId : Nat) : s.loop = .cancelling requestId →
      s.pending.lookup requestId = none →
      LoopMove cfg s .cancelPending { s with loop := .waiting }
  | cancelHit (requestId j : Nat) : s.loop = .cancelling requestId →
      s.pending.lookup requestId = some j →
      LoopMove cfg s .cancelPending
        { s with
          loop := .waiting
          pending := s.pending.erase requestId
          tasks := s.tasks.modify j Task.abort }
  | insert (i requestId : Nat) : s.loop = .inserting i requestId →
      LoopMove cfg s .insertPending
        { s.removePending i requestId with
          loop := .waiting
          pending := s.pending.insert requestId i }
  | rejectLock (r : Nat) (response : ControlResponse) (frame : List UInt8) :
      s.loop = .rejecting r response frame → s.writerHolder = none →
      LoopMove cfg s .rejectLock
        { s with loop := .rejectWriting r response frame 0, writerHolder := some .loop }
  | rejectWrite (r : Nat) (response : ControlResponse) (frame : List UInt8) (written n : Nat) :
      s.loop = .rejectWriting r response frame written → 0 < n → written + n ≤ frame.length →
      s.broken = false →
      LoopMove cfg s (.rejectWrite n)
        { s.push r response frame written n with
          loop := .rejectWriting r response frame (written + n) }
  | rejectFlush (r : Nat) (response : ControlResponse) (frame : List UInt8) :
      s.loop = .rejectWriting r response frame frame.length →
      LoopMove cfg s .rejectFlush
        { s with loop := .waiting, writerHolder := none, requests := s.settle r .rejected }
  | rejectFail (r : Nat) (response : ControlResponse) (frame : List UInt8) (written : Nat)
      (error : IpcError) : s.loop = .rejectWriting r response frame written →
      LoopMove cfg s (.rejectFail error)
        { s with
          loop := .done (.error error)
          broken := true
          writerHolder := none
          requests := s.settle r .abandoned }
  | drainSweep : s.loop = .draining →
      LoopMove cfg s .drainSweep
        { s with
          loop := .done (.ok ())
          pending := ∅
          tasks := s.tasks.mapIdx fun j t =>
            if s.pending.lookup t.requestId = some j then t.abort else t }

/-- An error answer of the loop: encoded and queued, or the end of the loop. -/
theorem reject_move {cfg : ServerCfg} {s : ServerConn} {header : FrameHeader}
    {bytes : List UInt8} {method : ControlMethod} {response : ControlResponse} (slots : Nat)
    (hl : (∃ declared, s.loop = .reading declared header) ∨
      ∃ declared why, s.loop = .discarding declared header why)
    (hr : response = limitResponse cfg.limits ∨ ∃ detail, response = badRequestResponse detail) :
    LoopMove cfg s (.payload bytes)
      ({ s with slots := slots }.reject cfg header method response) := by
  simp only [ServerConn.reject]
  split
  · exact .abandon header bytes _ slots hl
  · rename_i frame he
    exact .reject header bytes method response frame slots hl he hr

theorem loopStep_move {cfg : ServerCfg} {s s' : ServerConn} {e : LoopEvent}
    (h : loopStep cfg s e = some s') : LoopMove cfg s e s' := by
  cases e with
  | beginDrain =>
      cases h
      exact .beginDrain
  | stopReading =>
      simp only [loopStep] at h
      split at h
      · rename_i hl
        cases h
        exact .stopReading hl
      · exact nomatch h
  | headerFailed error =>
      simp only [loopStep] at h
      split at h
      · rename_i hl
        cases h
        exact .headerFailed error hl
      · exact nomatch h
  | header declared header =>
      simp only [loopStep] at h
      split at h
      · rename_i hl
        split at h
        · rename_i ha
          cases h
          simp only [ServerConn.onHeader]
          split
          · exact .toDiscarding declared header .cancel hl ha
          · split
            · exact .toDiscarding declared header .notRequest hl ha
            · split
              · exact .toDiscarding declared header .draining hl ha
              · split
                · exact .toDiscarding declared header .limited hl ha
                · rename_i hslots
                  exact .toReading declared header hl ha (Nat.pos_of_ne_zero hslots)
        · exact nomatch h
      · exact nomatch h
  | payload bytes =>
      simp only [loopStep] at h
      split at h
      · rename_i declared header why hl
        split at h
        · cases h
          cases why with
          | cancel => exact .toCancelling declared header bytes hl
          | notRequest => exact .notRequest declared header bytes hl
          | draining => exact .abandon header bytes .draining s.slots (.inr ⟨_, _, hl⟩)
          | limited => exact reject_move s.slots (.inr ⟨_, _, hl⟩) (.inl rfl)
        · exact nomatch h
      · rename_i declared header hl
        split at h
        · cases h
          simp only [ServerConn.onPayload]
          split
          · exact .abandon header bytes _ _ (.inl ⟨_, hl⟩)
          · rename_i method hm
            split
            · exact reject_move (s.slots + 1) (.inl ⟨_, hl⟩) (.inr ⟨_, rfl⟩)
            · rename_i body _
              exact .spawn declared header bytes method body hl hm
        · exact nomatch h
      · exact nomatch h
  | payloadFailed error =>
      simp only [loopStep] at h
      split at h
      · rename_i declared header why hl
        cases h
        exact .discardFailed declared header why error hl
      · rename_i declared header hl
        cases h
        exact .readFailed declared header error hl
      · exact nomatch h
  | cancelPending =>
      simp only [loopStep] at h
      split at h
      · rename_i requestId hl
        split at h
        · rename_i hp
          cases h
          exact .cancelMiss requestId hl hp
        · rename_i j hp
          cases h
          exact .cancelHit requestId j hl hp
      · exact nomatch h
  | insertPending =>
      simp only [loopStep] at h
      split at h
      · rename_i i requestId hl
        cases h
        exact .insert i requestId hl
      · exact nomatch h
  | rejectLock =>
      simp only [loopStep] at h
      split at h
      · rename_i r response frame hl hw
        cases h
        exact .rejectLock r response frame hl hw
      · exact nomatch h
  | rejectWrite n =>
      simp only [loopStep] at h
      split at h
      · rename_i r response frame written hl
        split at h
        · rename_i hc
          cases h
          exact .rejectWrite r response frame written n hl hc.1 hc.2.1 hc.2.2
        · exact nomatch h
      · exact nomatch h
  | rejectFlush =>
      simp only [loopStep] at h
      split at h
      · rename_i r response frame written hl
        split at h
        · rename_i hc
          cases h
          exact .rejectFlush r response frame (hc ▸ hl)
        · exact nomatch h
      · exact nomatch h
  | rejectFail error =>
      simp only [loopStep] at h
      split at h
      · rename_i r response frame written hl
        cases h
        exact .rejectFail r response frame written error hl
      · exact nomatch h
  | drainSweep =>
      simp only [loopStep] at h
      split at h
      · rename_i hl
        cases h
        exact .drainSweep hl
      · exact nomatch h

/-- **EVERY STEP IS A LISTED MOVE**, of the loop or of one task. -/
theorem step_move {cfg : ServerCfg} {s s' : ServerConn} {e : ServerEvent}
    (h : step cfg s e = some s') :
    (∃ le, e = .loop le ∧ LoopMove cfg s le s') ∨
      ∃ i t te, e = .task i te ∧ s.tasks[i]? = some t ∧ TaskMove cfg s i t te s' := by
  cases e with
  | loop le => exact .inl ⟨le, rfl, loopStep_move h⟩
  | task i te =>
      simp only [step] at h
      split at h
      · exact nomatch h
      · rename_i t ht
        exact .inr ⟨i, t, te, rfl, ht, taskStep_move h⟩

end ServiceServer
