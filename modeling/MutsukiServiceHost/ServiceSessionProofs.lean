import Mathlib.Data.Finmap
import Mathlib.Data.Finset.Max
import MutsukiServiceHost.ListUpdateProofs
import MutsukiServiceHost.ServiceFrameProofs
import MutsukiServiceHost.TransitionProofs

/-! # `ControlSession` — sends, cancels and the reader as one machine

    One client session of either codec: the `send` calls and `cancel` calls in
    flight, the map `pending`, the reader task, the lock on the encode buffers
    and the writer.  A step is what happens between two points at which a call
    can be suspended; a lock held across an await has a holder.

    `pending` maps a request id to the call whose `oneshot` sender stands in
    the entry; the receiving half is the call's `slot`.  `outbox` is a history:
    what was written to the connection, frame by frame or line by line. -/

namespace ServiceSession

open ServiceControl ServiceFrame

/-- `IpcCodec`. -/
inductive IpcCodec where
  | binary
  | jsonl
  deriving DecidableEq, Repr

/-- The parts of `ControlClientConfig` a session works with, and the
    serialisers it calls. -/
structure SessionCfg where
  codec : IpcCodec
  limits : ControlIpcLimits
  msgpack : MsgPack
  json : Json

/-- The receiving half of a call's `oneshot` channel. -/
inductive Slot where
  | empty
  | full (result : Except IpcError ControlResponse)
  /-- the sender was dropped without a message -/
  | closed

/-- Where a `send` call stands. -/
inductive CallPhase where
  | start
  /-- `closed` was false -/
  | opened
  /-- `fetch_add` has given an id -/
  | allocated
  /-- the limit check has passed -/
  | admitted
  /-- the entry is in `pending` -/
  | registered
  /-- holds the encode buffers with the encoded bytes -/
  | encoded (bytes : List UInt8)
  /-- holds the writer too -/
  | writing (bytes : List UInt8)
  /-- the write failed, the entry not removed yet -/
  | failed (error : IpcError)
  /-- awaits its `oneshot` under the timeout -/
  | awaiting
  /-- the timeout elapsed, the entry not removed yet -/
  | expired
  /-- inside `self.cancel(request_id)`, cancel call `k` -/
  | cancelling (k : Nat)
  | done (result : Except IpcError ControlResponse)

/-- A `send` call. -/
structure Call where
  request : ControlRequest
  requestId : Option Nat
  phase : CallPhase
  slot : Slot

/-- Where a `cancel` call stands. -/
inductive CancelPhase where
  | start
  | encoded (bytes : List UInt8)
  | writing (bytes : List UInt8)
  /-- the CANCEL frame is written, the entry not removed yet -/
  | removing
  | done (result : Except IpcError Unit)

/-- A `cancel` call. -/
structure Cancel where
  requestId : Nat
  phase : CancelPhase

/-- Where the reader task stands. -/
inductive ReaderPhase where
  | reading
  /-- the read loop has returned -/
  | stopped (result : Except IpcError Unit)
  /-- `closed` is stored, `pending` not drained yet -/
  | draining (result : Except IpcError Unit)
  | finished

/-- Who holds the writer. -/
inductive Writer where
  | call (i : Nat)
  | cancel (k : Nat)
  deriving DecidableEq, Repr

/-- What was written to the connection. -/
inductive Outgoing where
  | request (call requestId : Nat) (bytes : List UInt8)
  | cancel (requestId : Nat) (bytes : List UInt8)

/-- The bytes that were written. -/
def Outgoing.bytes : Outgoing → List UInt8
  | .request _ _ bytes => bytes
  | .cancel _ bytes => bytes

/-- The state of a session. -/
structure Session where
  calls : List Call
  cancels : List Cancel
  nextId : Nat
  pending : Finmap (fun _ : Nat => Nat)
  bufHolder : Option Nat
  writerHolder : Option Writer
  closed : Bool
  reader : ReaderPhase
  outbox : List Outgoing

/-- `ControlSession::from_stream`. -/
def Session.fromStream : Session where
  calls := []
  cancels := []
  nextId := 1
  pending := ∅
  bufHolder := none
  writerHolder := none
  closed := false
  reader := .reading
  outbox := []

/-- The steps of a `send` call. -/
inductive CallEvent where
  | checkClosed
  | allocate
  | checkLimit
  | register
  | encode
  | lockWriter
  | write
  /-- `write_all_flush` fails, before or after the bytes went out -/
  | writeFail (sent : Bool) (detail : String)
  | removeFailed
  | receive
  | timeout
  | removeExpired
  | finishTimeout

/-- The steps of a `cancel` call. -/
inductive CancelEvent where
  | encode
  | lockWriter
  | write
  | writeFail (sent : Bool) (detail : String)
  | remove

/-- The steps of the reader task. -/
inductive ReaderEvent where
  /-- `read_binary_frame_into` returned a frame -/
  | frame (header : FrameHeader) (payload : List UInt8)
  /-- `read_jsonl_line` returned a line -/
  | line (bytes : List UInt8)
  /-- the end of the stream, or a read error -/
  | stop (result : Except IpcError Unit)
  | markClosed
  | drain

/-- The steps of a session. -/
inductive SessionEvent where
  /-- a caller calls `send` -/
  | send (request : ControlRequest)
  | call (i : Nat) (e : CallEvent)
  /-- a caller calls `cancel` -/
  | requestCancel (requestId : Nat)
  | cancel (k : Nat) (e : CancelEvent)
  | reader (e : ReaderEvent)
  /-- `close`, which owns the session: nothing else is in progress -/
  | close

/-- The reader got something from the connection. -/
def SessionEvent.isRead : SessionEvent → Bool
  | .reader (.frame _ _) | .reader (.line _) => true
  | _ => false

/-- `tx.send(result)`: a slot takes one message. -/
def Call.offer (c : Call) (result : Except IpcError ControlResponse) : Call :=
  match c.slot with
  | .empty => { c with slot := .full result }
  | _ => c

/-- The sender is dropped. -/
def Call.hangUp (c : Call) : Call :=
  match c.slot with
  | .empty => { c with slot := .closed }
  | _ => c

/-- The call has returned. -/
def CallPhase.isDone : CallPhase → Bool
  | .done _ => true
  | _ => false

/-- The cancel call has returned. -/
def CancelPhase.isDone : CancelPhase → Bool
  | .done _ => true
  | _ => false

namespace Session

/-- Move call `i` to another phase. -/
def setPhase (s : Session) (i : Nat) (phase : CallPhase) : Session :=
  { s with calls := s.calls.modify i fun c => { c with phase := phase } }

/-- Move cancel call `k` to another phase. -/
def setCancel (s : Session) (k : Nat) (phase : CancelPhase) : Session :=
  { s with cancels := s.cancels.modify k fun c => { c with phase := phase } }

/-- `pending.insert(request_id, ..)`; an older entry is dropped with its sender. -/
def insertPending (s : Session) (requestId i : Nat) : Session :=
  { s with
    pending := s.pending.insert requestId i
    calls := match s.pending.lookup requestId with
      | none => s.calls
      | some j => s.calls.modify j Call.hangUp }

/-- `pending.remove(&request_id)` with the entry dropped. -/
def removePending (s : Session) (requestId : Nat) : Session :=
  match s.pending.lookup requestId with
  | none => s
  | some j =>
      { s with
        pending := s.pending.erase requestId
        calls := s.calls.modify j Call.hangUp }

/-- `pending.remove(&request_id)` with a message to the entry's call. -/
def answerPending (s : Session) (requestId : Nat) (result : Except IpcError ControlResponse) :
    Session :=
  match s.pending.lookup requestId with
  | none => s
  | some j =>
      { s with
        pending := s.pending.erase requestId
        calls := s.calls.modify j (Call.offer · result) }

/-- `pending.drain()` with a message to every entry's call. -/
def drainPending (s : Session) (error : IpcError) : Session :=
  { s with
    pending := ∅
    calls := s.calls.mapIdx fun j c =>
      if c.requestId.bind s.pending.lookup = some j then c.offer (.error error) else c }

/-- The reader got a response for `request_id`. -/
def deliver (s : Session) (requestId : Nat) (response : ControlResponse) : Session :=
  match s.pending.lookup requestId with
  | none => { s with reader := .stopped (.error (.lateResponse requestId)) }
  | some _ => s.answerPending requestId (.ok response)

end Session

/-- The bytes of a request under the session's codec. -/
def SessionCfg.encodeRequest (cfg : SessionCfg) (requestId : Nat) (request : ControlRequest) :
    Except IpcError (List UInt8) :=
  match cfg.codec with
  | .binary => encodeBinaryRequest cfg.msgpack requestId request cfg.limits
  | .jsonl => encodeJsonl (cfg.json.writeRequest request) cfg.limits

/-- One step of call `i`, which is `c`. -/
def callStep (cfg : SessionCfg) (s : Session) (i : Nat) (c : Call) : CallEvent → Option Session
  | .checkClosed =>
      match c.phase with
      | .start => some (s.setPhase i (if s.closed then .done (.error .closed) else .opened))
      | _ => none
  | .allocate =>
      match c.phase with
      | .opened =>
          some { s with
            -- `fetch_add` wraps, and the id 0 is refused but used up
            nextId := (s.nextId + 1) % 2 ^ 64
            calls := s.calls.modify i fun c =>
              { c with
                requestId := some s.nextId
                phase := if s.nextId = 0 then .done (.error .invalidRequestId) else .allocated } }
      | _ => none
  | .checkLimit =>
      match c.phase with
      | .allocated =>
          some (s.setPhase i (if cfg.limits.maxInFlight ≤ s.pending.keys.card then
            .done (.error (.pendingLimitExceeded cfg.limits.maxInFlight)) else .admitted))
      | _ => none
  | .register =>
      match c.phase, c.requestId with
      | .admitted, some requestId => some ((s.insertPending requestId i).setPhase i .registered)
      | _, _ => none
  | .encode =>
      match c.phase, c.requestId, s.bufHolder with
      | .registered, some requestId, none =>
          match cfg.encodeRequest requestId c.request with
          -- `?` leaves the entry in `pending`
          | .error error => some (s.setPhase i (.done (.error error)))
          | .ok bytes => some { s.setPhase i (.encoded bytes) with bufHolder := some i }
      | _, _, _ => none
  | .lockWriter =>
      match c.phase, s.writerHolder with
      | .encoded bytes, none =>
          some { s.setPhase i (.writing bytes) with writerHolder := some (.call i) }
      | _, _ => none
  | .write =>
      match c.phase, c.requestId with
      | .writing bytes, some requestId =>
          some { s.setPhase i .awaiting with
            bufHolder := none
            writerHolder := none
            outbox := s.outbox ++ [.request i requestId bytes] }
      | _, _ => none
  | .writeFail sent detail =>
      match c.phase, c.requestId with
      | .writing bytes, some requestId =>
          some { s.setPhase i (.failed (.io detail)) with
            bufHolder := none
            writerHolder := none
            -- the write or its flush failed: the bytes may have arrived
            outbox := if sent then s.outbox ++ [.request i requestId bytes] else s.outbox }
      | _, _ => none
  | .removeFailed =>
      match c.phase, c.requestId with
      | .failed error, some requestId =>
          some ((s.removePending requestId).setPhase i (.done (.error error)))
      | _, _ => none
  | .receive =>
      match c.phase, c.slot with
      | .awaiting, .full result => some (s.setPhase i (.done result))
      | .awaiting, .closed => some (s.setPhase i (.done (.error .closed)))
      | _, _ => none
  | .timeout =>
      match c.phase, c.slot with
      -- `timeout` polls the channel first
      | .awaiting, .empty => some (s.setPhase i .expired)
      | _, _ => none
  | .removeExpired =>
      match c.phase, c.requestId with
      | .expired, some requestId =>
          some { (s.removePending requestId).setPhase i (.cancelling s.cancels.length) with
            cancels := s.cancels ++ [⟨requestId, .start⟩] }
      | _, _ => none
  | .finishTimeout =>
      match c.phase with
      | .cancelling k =>
          match (s.cancels[k]?).map Cancel.phase with
          -- the outcome of `cancel` is dropped
          | some (.done _) => some (s.setPhase i (.done (.error .timeout)))
          | _ => none
      | _ => none

/-- One step of cancel call `k`, which is `x`. -/
def cancelStep (cfg : SessionCfg) (s : Session) (k : Nat) (x : Cancel) :
    CancelEvent → Option Session
  | .encode =>
      match x.phase with
      | .start =>
          match cfg.codec with
          | .jsonl =>
              -- JSONL has no cancel frame
              some ((s.answerPending x.requestId (.error .cancelled)).setCancel k (.done (.ok ())))
          | .binary =>
              match encodeBinaryCancel x.requestId cfg.limits with
              -- `?` before the entry is looked up
              | .error error => some (s.setCancel k (.done (.error error)))
              | .ok bytes => some (s.setCancel k (.encoded bytes))
      | _ => none
  | .lockWriter =>
      match x.phase, s.writerHolder with
      | .encoded bytes, none =>
          some { s.setCancel k (.writing bytes) with writerHolder := some (.cancel k) }
      | _, _ => none
  | .write =>
      match x.phase with
      | .writing bytes =>
          some { s.setCancel k .removing with
            writerHolder := none
            outbox := s.outbox ++ [.cancel x.requestId bytes] }
      | _ => none
  | .writeFail sent detail =>
      match x.phase with
      | .writing bytes =>
          some { s.setCancel k (.done (.error (.io detail))) with
            writerHolder := none
            outbox := if sent then s.outbox ++ [.cancel x.requestId bytes] else s.outbox }
      | _ => none
  | .remove =>
      match x.phase with
      | .removing =>
          some ((s.answerPending x.requestId (.error .cancelled)).setCancel k (.done (.ok ())))
      | _ => none

/-- What the reader does with a frame: `read_binary_loop` after the read. -/
def onFrame (cfg : SessionCfg) (s : Session) (header : FrameHeader) (payload : List UInt8) :
    Session :=
  if !header.flags.contains .response then
    { s with reader := .stopped (.error (.unknownFlags header.flags.bits)) }
  else match cfg.msgpack.unpackResponse cfg.limits.maxMsgpackNestingDepth payload with
    | .error detail => { s with reader := .stopped (.error (.protocol detail)) }
    | .ok response => s.deliver header.requestId response

/-- The smallest request id in `pending`. -/
def Session.oldest (s : Session) : Option Nat := s.pending.keys.min

/-- What the reader does with a line: `read_jsonl_loop` after the read. -/
def onLine (cfg : SessionCfg) (s : Session) (bytes : List UInt8) : Session :=
  match decodeJsonl cfg.json.readResponse bytes cfg.limits with
  | .error error => { s with reader := .stopped (.error error) }
  | .ok response =>
      match s.oldest with
      -- a line without a call to go to
      | none => { s with reader := .stopped (.error (.lateResponse 0)) }
      | some requestId => s.deliver requestId response

/-- The error the reader leaves to the calls that are still waiting. -/
def drainError : Except IpcError Unit → IpcError
  | .ok () => .closed
  | .error error => .protocol error.message

/-- One step of the reader task. -/
def readerStep (cfg : SessionCfg) (s : Session) : ReaderEvent → Option Session
  | .frame header payload =>
      match s.reader, cfg.codec with
      | .reading, .binary => some (onFrame cfg s header payload)
      | _, _ => none
  | .line bytes =>
      match s.reader, cfg.codec with
      | .reading, .jsonl => some (onLine cfg s bytes)
      | _, _ => none
  | .stop result =>
      match s.reader with
      | .reading => some { s with reader := .stopped result }
      | _ => none
  | .markClosed =>
      match s.reader with
      | .stopped result => some { s with reader := .draining result, closed := true }
      | _ => none
  | .drain =>
      match s.reader with
      | .draining result => some { s.drainPending (drainError result) with reader := .finished }
      | _ => none

/-- Every call has returned. -/
def Session.quiescent (s : Session) : Bool :=
  s.calls.all (·.phase.isDone) && s.cancels.all (·.phase.isDone)

/-- One step of the session. -/
def step (cfg : SessionCfg) (s : Session) : SessionEvent → Option Session
  | .send request => some { s with calls := s.calls ++ [⟨request, none, .start, .empty⟩] }
  | .call i e =>
      match s.calls[i]? with
      | none => none
      | some c => callStep cfg s i c e
  | .requestCancel requestId => some { s with cancels := s.cancels ++ [⟨requestId, .start⟩] }
  | .cancel k e =>
      match s.cancels[k]? with
      | none => none
      | some x => cancelStep cfg s k x e
  | .reader e => readerStep cfg s e
  | .close =>
      -- `close` takes the session by value
      if s.quiescent then some { s.drainPending .closed with closed := true, reader := .finished }
      else none

/-! ## What a step can do -/

/-- The transitions of call `i`. -/
inductive CallMove (cfg : SessionCfg) (s : Session) (i : Nat) (c : Call) :
    CallEvent → Session → Prop where
  | refused : c.phase = .start → s.closed = true →
      CallMove cfg s i c .checkClosed (s.setPhase i (.done (.error .closed)))
  | opened : c.phase = .start → s.closed = false →
      CallMove cfg s i c .checkClosed (s.setPhase i .opened)
  | allocate (phase : CallPhase) : c.phase = .opened →
      (phase = .allocated ∨ phase = .done (.error .invalidRequestId)) →
      CallMove cfg s i c .allocate
        { s with
          nextId := (s.nextId + 1) % 2 ^ 64
          calls := s.calls.modify i fun c =>
            { c with requestId := some s.nextId, phase := phase } }
  | overLimit : c.phase = .allocated → cfg.limits.maxInFlight ≤ s.pending.keys.card →
      CallMove cfg s i c .checkLimit
        (s.setPhase i (.done (.error (.pendingLimitExceeded cfg.limits.maxInFlight))))
  | checkLimit : c.phase = .allocated → s.pending.keys.card < cfg.limits.maxInFlight →
      CallMove cfg s i c .checkLimit (s.setPhase i .admitted)
  | register (requestId : Nat) : c.phase = .admitted → c.requestId = some requestId →
      CallMove cfg s i c .register ((s.insertPending requestId i).setPhase i .registered)
  | encodeFail (requestId : Nat) (error : IpcError) : c.phase = .registered →
      c.requestId = some requestId → s.bufHolder = none →
      cfg.encodeRequest requestId c.request = .error error →
      CallMove cfg s i c .encode (s.setPhase i (.done (.error error)))
  | encode (requestId : Nat) (bytes : List UInt8) : c.phase = .registered →
      c.requestId = some requestId → s.bufHolder = none →
      cfg.encodeRequest requestId c.request = .ok bytes →
      CallMove cfg s i c .encode { s.setPhase i (.encoded bytes) with bufHolder := some i }
  | lockWriter (bytes : List UInt8) : c.phase = .encoded bytes → s.writerHolder = none →
      CallMove cfg s i c .lockWriter
        { s.setPhase i (.writing bytes) with writerHolder := some (.call i) }
  | write (requestId : Nat) (bytes : List UInt8) : c.phase = .writing bytes →
      c.requestId = some requestId →
      CallMove cfg s i c .write
        { s.setPhase i .awaiting with
          bufHolder := none
          writerHolder := none
          outbox := s.outbox ++ [.request i requestId bytes] }
  | writeFail (requestId : Nat) (bytes : List UInt8) (sent : Bool) (detail : String) :
      c.phase = .writing bytes → c.requestId = some requestId →
      CallMove cfg s i c (.writeFail sent detail)
        { s.setPhase i (.failed (.io detail)) with
          bufHolder := none
          writerHolder := none
          outbox := if sent then s.outbox ++ [.request i requestId bytes] else s.outbox }
  | removeFailed (requestId : Nat) (error : IpcError) : c.phase = .failed error →
      c.requestId = some requestId →
      CallMove cfg s i c .removeFailed
        ((s.removePending requestId).setPhase i (.done (.error error)))
  | receive (result : Except IpcError ControlResponse) : c.phase = .awaiting →
      (c.slot = .full result ∨ (c.slot = .closed ∧ result = .error .closed)) →
      CallMove cfg s i c .receive (s.setPhase i (.done result))
  | timeout : c.phase = .awaiting → c.slot = .empty →
      CallMove cfg s i c .timeout (s.setPhase i .expired)
  | removeExpired (requestId : Nat) : c.phase = .expired → c.requestId = some requestId →
      CallMove cfg s i c .removeExpired
        { (s.removePending requestId).setPhase i (.cancelling s.cancels.length) with
          cancels := s.cancels ++ [⟨requestId, .start⟩] }
  | finishTimeout (k : Nat) (result : Except IpcError Unit) : c.phase = .cancelling k →
      (s.cancels[k]?).map Cancel.phase = some (.done result) →
      CallMove cfg s i c .finishTimeout (s.setPhase i (.done (.error .timeout)))

theorem callStep_move {cfg : SessionCfg} {s s' : Session} {i : Nat} {c : Call} {e : CallEvent}
    (h : callStep cfg s i c e = some s') : CallMove cfg s i c e s' := by
  cases e with
  | checkClosed =>
      simp only [callStep] at h
      split at h
      · rename_i hp
        cases h
        cases hc : s.closed with
        | true => exact .refused hp hc
        | false => exact .opened hp hc
      · exact nomatch h
  | allocate =>
      simp only [callStep] at h
      split at h
      · rename_i hp
        cases h
        by_cases h0 : s.nextId = 0
        · rw [if_pos h0]
          exact .allocate _ hp (.inr rfl)
        · rw [if_neg h0]
          exact .allocate _ hp (.inl rfl)
      · exact nomatch h
  | checkLimit =>
      simp only [callStep] at h
      split at h
      · rename_i hp
        cases h
        by_cases hl : cfg.limits.maxInFlight ≤ s.pending.keys.card
        · rw [if_pos hl]
          exact .overLimit hp hl
        · rw [if_neg hl]
          exact .checkLimit hp (Nat.lt_of_not_le hl)
      · exact nomatch h
  | register =>
      simp only [callStep] at h
      split at h
      · rename_i requestId hp hid
        cases h
        exact .register requestId hp hid
      · exact nomatch h
  | encode =>
      simp only [callStep] at h
      split at h
      · rename_i requestId hp hid hb
        split at h
        · rename_i error he
          cases h
          exact .encodeFail requestId error hp hid hb he
        · rename_i bytes he
          cases h
          exact .encode requestId bytes hp hid hb he
      · exact nomatch h
  | lockWriter =>
      simp only [callStep] at h
      split at h
      · rename_i bytes hp hw
        cases h
        exact .lockWriter bytes hp hw
      · exact nomatch h
  | write =>
      simp only [callStep] at h
      split at h
      · rename_i bytes requestId hp hid
        cases h
        exact .write requestId bytes hp hid
      · exact nomatch h
  | writeFail sent detail =>
      simp only [callStep] at h
      split at h
      · rename_i bytes requestId hp hid
        cases h
        exact .writeFail requestId bytes sent detail hp hid
      · exact nomatch h
  | removeFailed =>
      simp only [callStep] at h
      split at h
      · rename_i error requestId hp hid
        cases h
        exact .removeFailed requestId error hp hid
      · exact nomatch h
  | receive =>
      simp only [callStep] at h
      split at h
      · rename_i result hp hs
        cases h
        exact .receive result hp (.inl hs)
      · rename_i hp hs
        cases h
        exact .receive _ hp (.inr ⟨hs, rfl⟩)
      · exact nomatch h
  | timeout =>
      simp only [callStep] at h
      split at h
      · rename_i hp hs
        cases h
        exact .timeout hp hs
      · exact nomatch h
  | removeExpired =>
      simp only [callStep] at h
      split at h
      · rename_i requestId hp hid
        cases h
        exact .removeExpired requestId hp hid
      · exact nomatch h
  | finishTimeout =>
      simp only [callStep] at h
      split at h
      · rename_i k hp
        split at h
        · rename_i result hk
          cases h
          exact .finishTimeout k result hp hk
        · exact nomatch h
      · exact nomatch h

/-- The transitions of cancel call `k`. -/
inductive CancelMove (cfg : SessionCfg) (s : Session) (k : Nat) (x : Cancel) :
    CancelEvent → Session → Prop where
  | forget : x.phase = .start → cfg.codec = .jsonl →
      CancelMove cfg s k x .encode
        ((s.answerPending x.requestId (.error .cancelled)).setCancel k (.done (.ok ())))
  | encodeFail (error : IpcError) : x.phase = .start → cfg.codec = .binary →
      encodeBinaryCancel x.requestId cfg.limits = .error error →
      CancelMove cfg s k x .encode (s.setCancel k (.done (.error error)))
  | encode (bytes : List UInt8) : x.phase = .start → cfg.codec = .binary →
      encodeBinaryCancel x.requestId cfg.limits = .ok bytes →
      CancelMove cfg s k x .encode (s.setCancel k (.encoded bytes))
  | lockWriter (bytes : List UInt8) : x.phase = .encoded bytes → s.writerHolder = none →
      CancelMove cfg s k x .lockWriter
        { s.setCancel k (.writing bytes) with writerHolder := some (.cancel k) }
  | write (bytes : List UInt8) : x.phase = .writing bytes →
      CancelMove cfg s k x .write
        { s.setCancel k .removing with
          writerHolder := none
          outbox := s.outbox ++ [.cancel x.requestId bytes] }
  | writeFail (bytes : List UInt8) (sent : Bool) (detail : String) : x.phase = .writing bytes →
      CancelMove cfg s k x (.writeFail sent detail)
        { s.setCancel k (.done (.error (.io detail))) with
          writerHolder := none
          outbox := if sent then s.outbox ++ [.cancel x.requestId bytes] else s.outbox }
  | remove : x.phase = .removing →
      CancelMove cfg s k x .remove
        ((s.answerPending x.requestId (.error .cancelled)).setCancel k (.done (.ok ())))

theorem cancelStep_move {cfg : SessionCfg} {s s' : Session} {k : Nat} {x : Cancel}
    {e : CancelEvent} (h : cancelStep cfg s k x e = some s') : CancelMove cfg s k x e s' := by
  cases e with
  | encode =>
      simp only [cancelStep] at h
      split at h
      · rename_i hp
        split at h
        · rename_i hc
          cases h
          exact .forget hp hc
        · rename_i hc
          split at h
          · rename_i error he
            cases h
            exact .encodeFail error hp hc he
          · rename_i bytes he
            cases h
            exact .encode bytes hp hc he
      · exact nomatch h
  | lockWriter =>
      simp only [cancelStep] at h
      split at h
      · rename_i bytes hp hw
        cases h
        exact .lockWriter bytes hp hw
      · exact nomatch h
  | write =>
      simp only [cancelStep] at h
      split at h
      · rename_i bytes hp
        cases h
        exact .write bytes hp
      · exact nomatch h
  | writeFail sent detail =>
      simp only [cancelStep] at h
      split at h
      · rename_i bytes hp
        cases h
        exact .writeFail bytes sent detail hp
      · exact nomatch h
  | remove =>
      simp only [cancelStep] at h
      split at h
      · rename_i hp
        cases h
        exact .remove hp
      · exact nomatch h

/-- A response the reader decoded, with the id it is paired with: the frame's
    own, or under JSONL the smallest one pending. -/
inductive Decoded (cfg : SessionCfg) (s : Session) :
    ReaderEvent → Nat → ControlResponse → Prop where
  | frame (header : FrameHeader) (payload : List UInt8) (response : ControlResponse) :
      cfg.codec = .binary → header.flags.contains .response = true →
      cfg.msgpack.unpackResponse cfg.limits.maxMsgpackNestingDepth payload = .ok response →
      Decoded cfg s (.frame header payload) header.requestId response
  | line (bytes : List UInt8) (requestId : Nat) (response : ControlResponse) :
      cfg.codec = .jsonl → decodeJsonl cfg.json.readResponse bytes cfg.limits = .ok response →
      s.oldest = some requestId → Decoded cfg s (.line bytes) requestId response

/-- The transitions of the reader. -/
inductive ReaderMove (cfg : SessionCfg) (s : Session) : ReaderEvent → Session → Prop where
  | answer (e : ReaderEvent) (requestId j : Nat) (response : ControlResponse) :
      s.reader = .reading → Decoded cfg s e requestId response →
      s.pending.lookup requestId = some j →
      ReaderMove cfg s e (s.answerPending requestId (.ok response))
  | stop (e : ReaderEvent) (result : Except IpcError Unit) : s.reader = .reading →
      ReaderMove cfg s e { s with reader := .stopped result }
  | markClosed (result : Except IpcError Unit) : s.reader = .stopped result →
      ReaderMove cfg s .markClosed { s with reader := .draining result, closed := true }
  | drain (result : Except IpcError Unit) : s.reader = .draining result →
      ReaderMove cfg s .drain { s.drainPending (drainError result) with reader := .finished }

theorem deliver_move {cfg : SessionCfg} {s : Session} {e : ReaderEvent} {requestId : Nat}
    {response : ControlResponse} (hr : s.reader = .reading)
    (hd : Decoded cfg s e requestId response) :
    ReaderMove cfg s e (s.deliver requestId response) := by
  simp only [Session.deliver]
  split
  · exact .stop e _ hr
  · rename_i j hj
    exact .answer e requestId j response hr hd hj

theorem readerStep_move {cfg : SessionCfg} {s s' : Session} {e : ReaderEvent}
    (h : readerStep cfg s e = some s') : ReaderMove cfg s e s' := by
  cases e with
  | frame header payload =>
      simp only [readerStep] at h
      split at h
      · rename_i hr hc
        cases h
        simp only [onFrame]
        split
        · exact .stop _ _ hr
        · rename_i hf
          split
          · exact .stop _ _ hr
          · rename_i response hu
            exact deliver_move hr (.frame header payload response hc (by simpa using hf) hu)
      · exact nomatch h
  | line bytes =>
      simp only [readerStep] at h
      split at h
      · rename_i hr hc
        cases h
        simp only [onLine]
        split
        · exact .stop _ _ hr
        · rename_i response hu
          split
          · exact .stop _ _ hr
          · rename_i requestId ho
            exact deliver_move hr (.line bytes requestId response hc hu ho)
      · exact nomatch h
  | stop result =>
      simp only [readerStep] at h
      split at h
      · rename_i hr
        cases h
        exact .stop _ _ hr
      · exact nomatch h
  | markClosed =>
      simp only [readerStep] at h
      split at h
      · rename_i result hr
        cases h
        exact .markClosed result hr
      · exact nomatch h
  | drain =>
      simp only [readerStep] at h
      split at h
      · rename_i result hr
        cases h
        exact .drain result hr
      · exact nomatch h

end ServiceSession
