import MutsukiServiceHost.ServiceDecodeProofs
import MutsukiServiceHost.ServiceServerProofs
import MutsukiServiceHost.ServiceSessionLogProofs

/-! # A JSONL session and its server — pairing by order

    `serve_jsonl` answers request lines one after another; a line carries no
    id, and `read_jsonl_loop` gives each response to the smallest id pending.
    That is the right call as long as the requests in flight are the smallest
    pending ids in the order they were written (`Fifo`).  The file states the
    steps that keep it so, and the run in which two calls write in the other
    order than they registered.

    `serde_json` writes no newline inside a value, so what a call writes is one
    line. -/

namespace ServiceJsonl

open ServiceControl ServiceFrame ServiceSession ListUpdate Transition

/-! ## `serve_jsonl` -/

/-- Where `serve_jsonl` stands with line `req`. -/
inductive JsonlPhase where
  | waiting
  /-- inside `dispatch_request` -/
  | handling (req : Nat) (request : ControlRequest)
  | responding (req : Nat) (response : ControlResponse)
  /-- holds the writer with an encoded line -/
  | writing (req : Nat) (response : ControlResponse) (line : List UInt8)
  | done (result : Except IpcError Unit)
  /-- the handler panicked and took the connection with it -/
  | panicked

/-- A response line that was written. -/
structure JsonlReply where
  req : Nat
  response : ControlResponse
  line : List UInt8

/-- The fixed surroundings of a JSONL connection. -/
structure JsonlServerCfg where
  limits : ControlIpcLimits
  json : Json

/-- The state of one JSONL connection. -/
structure JsonlConn where
  phase : JsonlPhase
  drain : Bool
  replies : List JsonlReply
  invoked : List Nat
  returned : List (Nat × ControlResponse)

/-- A fresh connection. -/
def JsonlConn.start : JsonlConn := ⟨.waiting, false, [], [], []⟩

/-- The steps of `serve_jsonl`. -/
inductive JsonlEvent where
  | beginDrain
  /-- drain seen, clean end of stream or idle timeout -/
  | stopReading
  /-- `read_jsonl_line` returned an error -/
  | readFailed (error : IpcError)
  /-- `read_jsonl_line` returned line `req` -/
  | line (req : Nat) (bytes : List UInt8)
  | handlerReturn (response : ControlResponse)
  | handlerPanic
  | encode
  | write
  | writeFail (sent : Bool) (detail : String)

/-- `serve_jsonl` after a line. -/
def JsonlConn.onLine (cfg : JsonlServerCfg) (s : JsonlConn) (req : Nat) (bytes : List UInt8) :
    JsonlConn :=
  if s.drain then { s with phase := .done (.error .draining) }
  else match decodeJsonl cfg.json.readRequest bytes cfg.limits with
    | .error error =>
        { s with phase := .responding req (ServiceServer.badRequestResponse error.message) }
    | .ok request => { s with phase := .handling req request, invoked := s.invoked ++ [req] }

/-- One step of `serve_jsonl`. -/
def jsonlStep (cfg : JsonlServerCfg) (s : JsonlConn) : JsonlEvent → Option JsonlConn
  | .beginDrain => some { s with drain := true }
  | .stopReading =>
      match s.phase with
      | .waiting => some { s with phase := .done (.ok ()) }
      | _ => none
  | .readFailed error =>
      match s.phase with
      | .waiting => some { s with phase := .done (.error error) }
      | _ => none
  | .line req bytes =>
      match s.phase with
      | .waiting => some (s.onLine cfg req bytes)
      | _ => none
  | .handlerReturn response =>
      match s.phase with
      | .handling req _ =>
          some { s with
            phase := .responding req response
            returned := s.returned ++ [(req, response)] }
      | _ => none
  | .handlerPanic =>
      match s.phase with
      | .handling _ _ => some { s with phase := .panicked }
      | _ => none
  | .encode =>
      match s.phase with
      | .responding req response =>
          match encodeJsonl (cfg.json.writeResponse response) cfg.limits with
          | .error error => some { s with phase := .done (.error error) }
          | .ok line => some { s with phase := .writing req response line }
      | _ => none
  | .write =>
      match s.phase with
      | .writing req response line =>
          some { s with phase := .waiting, replies := s.replies ++ [⟨req, response, line⟩] }
      | _ => none
  | .writeFail sent detail =>
      match s.phase with
      | .writing req response line =>
          some { s with
            phase := .done (.error (.io detail))
            replies := if sent then s.replies ++ [⟨req, response, line⟩] else s.replies }
      | _ => none

/-- The line the server is busy with. -/
def JsonlPhase.busy? : JsonlPhase → Option Nat
  | .handling req _ | .responding req _ | .writing req _ _ => some req
  | _ => none

/-- The server takes no more lines. -/
def JsonlPhase.isOver : JsonlPhase → Bool
  | .done _ | .panicked => true
  | _ => false

/-- What a step does to the line the server is busy with and to the replies. -/
inductive JsonlMove (s : JsonlConn) (e : JsonlEvent) (s' : JsonlConn) : Prop where
  | keep : (∀ req bytes, e ≠ .line req bytes) → s'.phase.busy? = s.phase.busy? →
      s'.phase.isOver = s.phase.isOver → s'.replies = s.replies → JsonlMove s e s'
  | take (req : Nat) (bytes : List UInt8) : e = .line req bytes → s.phase = .waiting →
      (s'.phase.busy? = some req ∧ s'.phase.isOver = false ∨
        s'.phase.busy? = none ∧ s'.phase.isOver = true) →
      s'.replies = s.replies → JsonlMove s e s'
  | reply (p : JsonlReply) : s.phase.busy? = some p.req → s'.phase.busy? = none →
      s'.replies = s.replies ++ [p] → JsonlMove s e s'
  | stop : (∀ req bytes, e ≠ .line req bytes) → s'.phase.busy? = none →
      s'.phase.isOver = true → s'.replies = s.replies → JsonlMove s e s'

theorem jsonlStep_move {cfg : JsonlServerCfg} {s s' : JsonlConn} {e : JsonlEvent}
    (h : jsonlStep cfg s e = some s') : JsonlMove s e s' := by
  cases e with
  | beginDrain =>
      cases h
      exact .keep nofun rfl rfl rfl
  | stopReading =>
      simp only [jsonlStep] at h
      split at h
      · cases h
        exact .stop nofun rfl rfl rfl
      · exact nomatch h
  | readFailed error =>
      simp only [jsonlStep] at h
      split at h
      · cases h
        exact .stop nofun rfl rfl rfl
      · exact nomatch h
  | line req bytes =>
      simp only [jsonlStep] at h
      split at h
      · rename_i hp
        cases h
        simp only [JsonlConn.onLine]
        split
        · exact .take req bytes rfl hp (.inr ⟨rfl, rfl⟩) rfl
        · split
          · exact .take req bytes rfl hp (.inl ⟨rfl, rfl⟩) rfl
          · exact .take req bytes rfl hp (.inl ⟨rfl, rfl⟩) rfl
      · exact nomatch h
  | handlerReturn response =>
      simp only [jsonlStep] at h
      split at h
      · rename_i req request hp
        cases h
        exact .keep nofun (by rw [hp]; rfl) (by rw [hp]; rfl) rfl
      · exact nomatch h
  | handlerPanic =>
      simp only [jsonlStep] at h
      split at h
      · cases h
        exact .stop nofun rfl rfl rfl
      · exact nomatch h
  | encode =>
      simp only [jsonlStep] at h
      split at h
      · rename_i req response hp
        split at h
        · cases h
          exact .stop nofun rfl rfl rfl
        · cases h
          exact .keep nofun (by rw [hp]; rfl) (by rw [hp]; rfl) rfl
      · exact nomatch h
  | write =>
      simp only [jsonlStep] at h
      split at h
      · rename_i req response line hp
        cases h
        exact .reply ⟨req, response, line⟩ (by rw [hp]; rfl) rfl rfl
      · exact nomatch h
  | writeFail sent detail =>
      simp only [jsonlStep] at h
      split at h
      · rename_i req response line hp
        cases h
        cases sent with
        | false => exact .stop nofun rfl rfl rfl
        | true => exact .reply ⟨req, response, line⟩ (by rw [hp]; rfl) rfl rfl
      · exact nomatch h

/-! ## The connection -/

/-- The two ends of a connection. -/
structure JsonlCfg where
  limits : ControlIpcLimits
  msgpack : MsgPack
  json : Json
  server : JsonlServerCfg

/-- The session end. -/
def JsonlCfg.client (cfg : JsonlCfg) : SessionCfg := ⟨.jsonl, cfg.limits, cfg.msgpack, cfg.json⟩

/-- A connection: both ends, how many lines the server has read and how many
    the reader has read. -/
structure JsonlLink where
  sess : Session
  srv : JsonlConn
  readPos : Nat
  consumed : Nat

/-- A fresh connection. -/
def JsonlLink.start : JsonlLink := ⟨.fromStream, .start, 0, 0⟩

/-- The steps of a connection. -/
inductive JsonlLinkEvent where
  /-- a step of the session, the reader's reads excepted -/
  | client (e : SessionEvent)
  /-- a step of the server that reads nothing -/
  | server (e : JsonlEvent)
  /-- the server reads the next line -/
  | readLine
  /-- the session's reader reads the next line -/
  | receive

/-- The server got a line from the connection. -/
def JsonlEvent.isRead : JsonlEvent → Bool
  | .line _ _ => true
  | _ => false

namespace JsonlLink

/-- The server takes a step. -/
def stepServer (cfg : JsonlCfg) (l : JsonlLink) (e : JsonlEvent) : Option JsonlLink :=
  (jsonlStep cfg.server l.srv e).map fun srv => { l with srv := srv }

/-- The session takes a step. -/
def stepClient (cfg : JsonlCfg) (l : JsonlLink) (e : SessionEvent) : Option JsonlLink :=
  (ServiceSession.step cfg.client l.sess e).map fun sess => { l with sess := sess }

end JsonlLink

/-- One step of the connection. -/
def step (cfg : JsonlCfg) (l : JsonlLink) : JsonlLinkEvent → Option JsonlLink
  | .client e => if e.isRead then none else l.stepClient cfg e
  | .server e => if e.isRead then none else l.stepServer cfg e
  | .readLine =>
      match l.sess.outbox[l.readPos]? with
      | none => none
      | some o =>
          match (readJsonlLine cfg.server.limits o.bytes).1 with
          | .ok none => none
          | .ok (some line) =>
              (l.stepServer cfg (.line l.readPos line)).map fun l' =>
                { l' with readPos := l.readPos + 1 }
          | .error error => l.stepServer cfg (.readFailed error)
  | .receive =>
      match l.srv.replies[l.consumed]? with
      | none => none
      | some p =>
          match (readJsonlLine cfg.limits p.line).1 with
          | .ok none => none
          | .ok (some line) =>
              (l.stepClient cfg (.reader (.line line))).map fun l' =>
                { l' with consumed := l.consumed + 1 }
          | .error error => l.stepClient cfg (.reader (.stop (.error error)))

/-- The moves of a connection, as moves of its ends. -/
inductive LinkMove (cfg : JsonlCfg) (l : JsonlLink) : JsonlLinkEvent → JsonlLink → Prop where
  | client (le : JsonlLinkEvent) (e : SessionEvent) (sess : Session) :
      (le = .client e ∨ ∃ result, e = .reader (.stop result)) → e.isRead = false →
      ServiceSession.step cfg.client l.sess e = some sess →
      LinkMove cfg l le { l with sess := sess }
  | server (le : JsonlLinkEvent) (e : JsonlEvent) (srv : JsonlConn) : e.isRead = false →
      jsonlStep cfg.server l.srv e = some srv → LinkMove cfg l le { l with srv := srv }
  | readLine (o : Outgoing) (line : List UInt8) (srv : JsonlConn) :
      l.sess.outbox[l.readPos]? = some o →
      jsonlStep cfg.server l.srv (.line l.readPos line) = some srv →
      LinkMove cfg l .readLine { l with srv := srv, readPos := l.readPos + 1 }
  | receive (p : JsonlReply) (line : List UInt8) (sess : Session) :
      l.srv.replies[l.consumed]? = some p →
      (readJsonlLine cfg.limits p.line).1 = .ok (some line) →
      ServiceSession.step cfg.client l.sess (.reader (.line line)) = some sess →
      LinkMove cfg l .receive { l with sess := sess, consumed := l.consumed + 1 }

theorem step_move {cfg : JsonlCfg} {l l' : JsonlLink} {e : JsonlLinkEvent}
    (h : step cfg l e = some l') : LinkMove cfg l e l' := by
  cases e with
  | client e =>
      simp only [step] at h
      split at h
      · exact nomatch h
      · rename_i hr
        obtain ⟨sess, hs, rfl⟩ := Option.map_eq_some_iff.mp h
        exact .client _ e sess (.inl rfl) (by simpa using hr) hs
  | server e =>
      simp only [step] at h
      split at h
      · exact nomatch h
      · rename_i hr
        obtain ⟨srv, hs, rfl⟩ := Option.map_eq_some_iff.mp h
        exact .server _ e srv (by simpa using hr) hs
  | readLine =>
      simp only [step] at h
      split at h
      · exact nomatch h
      · rename_i o ho
        split at h
        · exact nomatch h
        · rename_i line hread
          obtain ⟨l₁, hl₁, rfl⟩ := Option.map_eq_some_iff.mp h
          obtain ⟨srv, hs, rfl⟩ := Option.map_eq_some_iff.mp hl₁
          exact .readLine o line srv ho hs
        · rename_i error _
          obtain ⟨srv, hs, rfl⟩ := Option.map_eq_some_iff.mp h
          exact .server _ (.readFailed error) srv rfl hs
  | receive =>
      simp only [step] at h
      split at h
      · exact nomatch h
      · rename_i p hp
        split at h
        · exact nomatch h
        · rename_i line hread
          obtain ⟨l₁, hl₁, rfl⟩ := Option.map_eq_some_iff.mp h
          obtain ⟨sess, hs, rfl⟩ := Option.map_eq_some_iff.mp hl₁
          exact .receive p line sess hp hread hs
        · rename_i error _
          obtain ⟨sess, hs, rfl⟩ := Option.map_eq_some_iff.mp h
          exact .client _ (.reader (.stop (.error error))) sess (.inr ⟨_, rfl⟩) rfl hs

/-! ## Line by line -/

/-- The server answers the lines in the order it reads them. -/
structure InStep (l : JsonlLink) : Prop where
  order : ∀ (k : Nat) (p : JsonlReply), l.srv.replies[k]? = some p → p.req = k
  busy : ∀ r : Nat, l.srv.phase.busy? = some r →
    r = l.srv.replies.length ∧ l.readPos = l.srv.replies.length + 1
  idle : l.srv.phase.busy? = none → l.srv.phase.isOver = false →
    l.readPos = l.srv.replies.length
  behind : l.srv.replies.length ≤ l.readPos
  bound : l.readPos ≤ l.sess.outbox.length
  seen : l.consumed ≤ l.srv.replies.length

theorem inStep_start : InStep .start where
  order := by intro k p h; exact nomatch h
  busy := by intro r h; exact nomatch h
  idle := fun _ _ => rfl
  behind := Nat.le_refl _
  bound := Nat.le_refl _
  seen := Nat.le_refl _

theorem InStep.client {cfg : JsonlCfg} {l : JsonlLink} {e : SessionEvent} {sess : Session}
    (h : InStep l) (hs : ServiceSession.step cfg.client l.sess e = some sess) :
    InStep { l with sess := sess } where
  order := h.order
  busy := h.busy
  idle := h.idle
  behind := h.behind
  bound := by
    obtain ⟨more, hmore⟩ := outbox_extends hs
    show l.readPos ≤ sess.outbox.length
    rw [hmore, List.length_append]
    exact Nat.le_trans h.bound (Nat.le_add_right _ _)
  seen := h.seen

/-- A server that takes no line. -/
theorem InStep.server {cfg : JsonlCfg} {l : JsonlLink} {e : JsonlEvent} {srv : JsonlConn}
    (h : InStep l) (hr : e.isRead = false) (hs : jsonlStep cfg.server l.srv e = some srv) :
    InStep { l with srv := srv } := by
  cases jsonlStep_move hs with
  | keep _ hbusy hover hrep =>
      refine ⟨?_, ?_, ?_, ?_, h.bound, ?_⟩
      · rw [hrep]
        exact h.order
      · rw [hbusy, hrep]
        exact h.busy
      · rw [hbusy, hover, hrep]
        exact h.idle
      · rw [hrep]
        exact h.behind
      · rw [hrep]
        exact h.seen
  | take req bytes he =>
      rw [he] at hr
      exact nomatch hr
  | reply p hbusy hnone hrep =>
      obtain ⟨hreq, hpos⟩ := h.busy p.req hbusy
      have hlen : srv.replies.length = l.srv.replies.length + 1 := by
        rw [hrep, List.length_append]
        rfl
      refine ⟨?_, ?_, ?_, ?_, h.bound, ?_⟩
      · intro k q hq
        have hq' : (l.srv.replies ++ [p])[k]? = some q := hrep ▸ hq
        rcases getElem?_concat_inv hq' with hq' | ⟨rfl, rfl⟩
        · exact h.order k q hq'
        · exact hreq
      · intro r hr'
        rw [hnone] at hr'
        exact nomatch hr'
      · intro _ _
        exact hpos.trans hlen.symm
      · exact Nat.le_of_eq (hlen.trans hpos.symm)
      · rw [hlen]
        exact Nat.le_succ_of_le h.seen
  | stop _ hnone hover hrep =>
      refine ⟨?_, ?_, ?_, ?_, h.bound, ?_⟩
      · rw [hrep]
        exact h.order
      · intro r hr'
        rw [hnone] at hr'
        exact nomatch hr'
      · intro _ hr'
        rw [hover] at hr'
        exact nomatch hr'
      · rw [hrep]
        exact h.behind
      · rw [hrep]
        exact h.seen

theorem InStep.receive {l : JsonlLink} {p : JsonlReply} {sess : Session}
    (h : InStep { l with sess := sess }) (hp : l.srv.replies[l.consumed]? = some p) :
    InStep { l with sess := sess, consumed := l.consumed + 1 } :=
  { h with seen := lt_length_of_getElem? hp }

theorem InStep.readLine {cfg : JsonlCfg} {l : JsonlLink} {o : Outgoing} {line : List UInt8}
    {srv : JsonlConn} (h : InStep l) (ho : l.sess.outbox[l.readPos]? = some o)
    (hs : jsonlStep cfg.server l.srv (.line l.readPos line) = some srv) :
    InStep { l with srv := srv, readPos := l.readPos + 1 } := by
  cases jsonlStep_move hs with
  | keep hne => exact absurd rfl (hne l.readPos line)
  | stop hne => exact absurd rfl (hne l.readPos line)
  | reply p hbusy =>
      -- the server reads a line only when it is not busy
      simp only [jsonlStep] at hs
      split at hs
      · rename_i hp
        rw [hp] at hbusy
        exact nomatch hbusy
      · exact nomatch hs
  | take req bytes he hp hcase hrep =>
      cases he
      have hpos : l.readPos = l.srv.replies.length :=
        h.idle (by rw [hp]; rfl) (by rw [hp]; rfl)
      refine ⟨?_, ?_, ?_, ?_, lt_length_of_getElem? ho, ?_⟩
      · rw [hrep]
        exact h.order
      · intro r hr
        rw [hrep]
        rcases hcase with ⟨hb, -⟩ | ⟨hb, -⟩
        · rw [hb] at hr
          cases hr
          exact ⟨hpos, congrArg (· + 1) hpos⟩
        · rw [hb] at hr
          exact nomatch hr
      · intro hb ho'
        rcases hcase with ⟨hb', -⟩ | ⟨-, ho''⟩
        · rw [hb'] at hb
          exact nomatch hb
        · rw [ho''] at ho'
          exact nomatch ho'
      · rw [hrep]
        exact Nat.le_succ_of_le h.behind
      · rw [hrep]
        exact h.seen

/-! ## First written, first answered -/

/-- The call and the id of a written request. -/
def sentCall : Outgoing → Option (Nat × Nat)
  | .request i requestId _ => some (i, requestId)
  | .cancel _ _ => none

/-- The requests in flight: written, their response not read yet. -/
def JsonlLink.inFlight (l : JsonlLink) : List (Nat × Nat) :=
  (l.sess.outbox.drop l.consumed).filterMap sentCall

/-- `y` is pending and its own request is in flight. -/
def Held (pending : Finmap (fun _ : Nat => Nat)) (flight : List (Nat × Nat)) (y : Nat) : Prop :=
  ∃ a ∈ flight, a.2 = y ∧ pending.lookup y = some a.1

instance (pending : Finmap (fun _ : Nat => Nat)) (flight : List (Nat × Nat)) (y : Nat) :
    Decidable (Held pending flight y) :=
  inferInstanceAs (Decidable (∃ a ∈ flight, _))

/-- The id whose entry a step of a call or of a cancel removes. -/
def removedId (s : Session) : SessionEvent → Option Nat
  | .call i .removeFailed | .call i .removeExpired => (s.calls[i]?).bind Call.requestId
  | .cancel k .encode | .cancel k .remove => (s.cancels[k]?).map Cancel.requestId
  | _ => none

/-- The id under which a step writes a request. -/
def writtenId (s : Session) : SessionEvent → Option (Nat × Nat)
  | .call i .write | .call i (.writeFail true _) =>
      (s.calls[i]?).bind fun c => c.requestId.map fun requestId => (i, requestId)
  | _ => none

/-- The id a step registers. -/
def registeredId (s : Session) : SessionEvent → Option Nat
  | .call i .register => (s.calls[i]?).bind Call.requestId
  | _ => none

/-- The steps of the session under which pairing by the smallest id is pairing
    by order: a call registers while all requests in flight are pending under
    smaller ids; it writes when the smaller pending ids are in flight, and all
    of them if its own entry is gone; the entry of a request in flight is
    removed when every other pending request is in flight before it. -/
structure FifoSafe (l : JsonlLink) (e : SessionEvent) : Prop where
  register : ∀ x ∈ registeredId l.sess e, ∀ a ∈ l.inFlight,
    a.2 < x ∧ l.sess.pending.lookup a.2 = some a.1
  write : ∀ a ∈ writtenId l.sess e, ∀ y ∈ l.sess.pending.keys,
    y < a.2 ∨ l.sess.pending.lookup a.2 ≠ some a.1 → Held l.sess.pending l.inFlight y
  remove : ∀ x ∈ removedId l.sess e, Held l.sess.pending l.inFlight x →
    ∀ y ∈ l.sess.pending.keys, y ≠ x → Held l.sess.pending l.inFlight y ∧ y < x

instance (l : JsonlLink) (e : SessionEvent) : Decidable (FifoSafe l e) :=
  decidable_of_iff
    ((∀ x ∈ registeredId l.sess e, ∀ a ∈ l.inFlight,
        a.2 < x ∧ l.sess.pending.lookup a.2 = some a.1) ∧
      (∀ a ∈ writtenId l.sess e, ∀ y ∈ l.sess.pending.keys,
        y < a.2 ∨ l.sess.pending.lookup a.2 ≠ some a.1 → Held l.sess.pending l.inFlight y) ∧
      ∀ x ∈ removedId l.sess e, Held l.sess.pending l.inFlight x →
        ∀ y ∈ l.sess.pending.keys, y ≠ x → Held l.sess.pending l.inFlight y ∧ y < x)
    ⟨fun h => ⟨h.1, h.2.1, h.2.2⟩, fun h => ⟨h.register, h.write, h.remove⟩⟩

/-- The condition on the steps of a connection. -/
def Safe (l : JsonlLink) : JsonlLinkEvent → Prop
  | .client e => FifoSafe l e
  | _ => True

instance (l : JsonlLink) : (e : JsonlLinkEvent) → Decidable (Safe l e)
  | .client e => inferInstanceAs (Decidable (FifoSafe l e))
  | .server _ => inferInstanceAs (Decidable True)
  | .readLine => inferInstanceAs (Decidable True)
  | .receive => inferInstanceAs (Decidable True)

/-- The requests in flight are the smallest pending ids in increasing order,
    then those whose entry is gone; while there are any of these, nothing that
    is pending waits to be written. -/
def Fifo (pending : Finmap (fun _ : Nat => Nat)) (flight : List (Nat × Nat)) : Prop :=
  ∃ live gone : List (Nat × Nat), flight = live ++ gone ∧ live.Pairwise (·.2 < ·.2) ∧
    (∀ a ∈ live, pending.lookup a.2 = some a.1) ∧
    (∀ a ∈ gone, pending.lookup a.2 ≠ some a.1) ∧
    ∀ y j : Nat, pending.lookup y = some j →
      (j, y) ∈ live ∨ (gone = [] ∧ ∀ a ∈ live, a.2 < y)

section Fifo

variable {pending : Finmap (fun _ : Nat => Nat)} {flight : List (Nat × Nat)}

/-- What is held stands among the live ones. -/
theorem Held.mem_live {live gone : List (Nat × Nat)} {y j : Nat} (h : Held pending flight y)
    (hflight : flight = live ++ gone) (hgone : ∀ a ∈ gone, pending.lookup a.2 ≠ some a.1)
    (hy : pending.lookup y = some j) : (j, y) ∈ live := by
  obtain ⟨a, ha, rfl, hlook⟩ := h
  have hj : a.1 = j := Option.some.inj (hlook.symm.trans hy)
  rw [hflight] at ha
  rcases List.mem_append.mp ha with ha | ha
  · rw [← hj]
    exact ha
  · exact absurd hlook (hgone a ha)

theorem Fifo.insert (h : Fifo pending flight) {x i : Nat}
    (hx : ∀ a ∈ flight, a.2 < x ∧ pending.lookup a.2 = some a.1) :
    Fifo (pending.insert x i) flight := by
  obtain ⟨live, gone, rfl, hsort, hlive, hgone, hrest⟩ := h
  -- nothing in flight has lost its entry
  have hnil : gone = [] := by
    cases gone with
    | nil => rfl
    | cons a rest =>
        have ha : a ∈ a :: rest := List.mem_cons_self ..
        exact absurd (hx a (List.mem_append_right _ ha)).2 (hgone a ha)
  subst hnil
  have hlt : ∀ a ∈ live, a.2 < x := fun a ha => (hx a (List.mem_append_left _ ha)).1
  refine ⟨live, [], rfl, hsort, ?_, nofun, ?_⟩
  · intro a ha
    rw [Finmap.lookup_insert_of_ne _ (Nat.ne_of_lt (hlt a ha))]
    exact hlive a ha
  · intro y j hy
    by_cases hyx : y = x
    · exact .inr ⟨rfl, hyx ▸ hlt⟩
    · rw [Finmap.lookup_insert_of_ne _ hyx] at hy
      exact hrest y j hy

theorem Fifo.write (h : Fifo pending flight) {x i : Nat} (hnew : (i, x) ∉ flight)
    (hx : ∀ y ∈ pending.keys, y < x ∨ pending.lookup x ≠ some i → Held pending flight y) :
    Fifo pending (flight ++ [(i, x)]) := by
  obtain ⟨live, gone, rfl, hsort, hlive, hgone, hrest⟩ := h
  have hkeys : ∀ {y j}, pending.lookup y = some j → y ∈ pending.keys := by
    intro y j hy
    rw [Finmap.mem_keys]
    exact Finmap.mem_of_lookup_eq_some hy
  by_cases hown : pending.lookup x = some i
  · -- its own entry is there: it comes after the live ones
    obtain hmem | ⟨rfl, hlt⟩ := hrest x i hown
    · exact absurd (List.mem_append_left _ hmem) hnew
    · refine ⟨live ++ [(i, x)], [], by simp, ?_, ?_, nofun, ?_⟩
      · refine List.pairwise_append.mpr ⟨hsort, List.pairwise_singleton _ _, ?_⟩
        intro a ha b hb
        rw [List.mem_singleton.mp hb]
        exact hlt a ha
      · intro a ha
        rcases List.mem_append.mp ha with ha | ha
        · exact hlive a ha
        · rw [List.mem_singleton.mp ha]
          exact hown
      · intro y j hy
        rcases hrest y j hy with hmem | ⟨-, hlt'⟩
        · exact .inl (List.mem_append_left _ hmem)
        · rcases Nat.lt_trichotomy y x with hyx | rfl | hyx
          · have hheld := hx y (hkeys hy) (.inl hyx)
            exact .inl (List.mem_append_left _ (hheld.mem_live rfl hgone hy))
          · rw [hown] at hy
            cases hy
            exact .inl (List.mem_append_right _ (List.mem_singleton_self _))
          · refine .inr ⟨rfl, ?_⟩
            intro a ha
            rcases List.mem_append.mp ha with ha | ha
            · exact hlt' a ha
            · rw [List.mem_singleton.mp ha]
              exact hyx
  · -- its entry is gone: everything pending is in flight
    refine ⟨live, gone ++ [(i, x)], by simp, hsort, hlive, ?_, ?_⟩
    · intro a ha
      rcases List.mem_append.mp ha with ha | ha
      · exact hgone a ha
      · rw [List.mem_singleton.mp ha]
        exact hown
    · intro y j hy
      exact .inl ((hx y (hkeys hy) (.inr hown)).mem_live rfl hgone hy)

theorem Fifo.erase (h : Fifo pending flight) {x : Nat}
    (hx : Held pending flight x → ∀ y ∈ pending.keys, y ≠ x → Held pending flight y ∧ y < x) :
    Fifo (pending.erase x) flight := by
  obtain ⟨live, gone, rfl, hsort, hlive, hgone, hrest⟩ := h
  have hstill : ∀ a ∈ gone, (pending.erase x).lookup a.2 ≠ some a.1 :=
    fun a ha hy => hgone a ha (lookup_erase_inv hy).1
  by_cases hin : ∃ j, (j, x) ∈ live
  · -- `x` is in flight: it is the last of the live ones, and nothing waits
    obtain ⟨j, hj⟩ := hin
    have hlook := hlive _ hj
    have hheld : Held pending (live ++ gone) x := ⟨(j, x), List.mem_append_left _ hj, rfl, hlook⟩
    obtain ⟨before, after, rfl⟩ := List.append_of_mem hj
    rw [List.pairwise_append, List.pairwise_cons] at hsort
    obtain ⟨hbefore, ⟨hafter, -⟩, hcross⟩ := hsort
    have hnil : after = [] := by
      cases after with
      | nil => rfl
      | cons a rest =>
          have ha : a ∈ a :: rest := List.mem_cons_self ..
          have hgt := hafter a ha
          have hpend := hlive a (by simp)
          have hkey : a.2 ∈ pending.keys := by
            rw [Finmap.mem_keys]
            exact Finmap.mem_of_lookup_eq_some hpend
          have := (hx hheld a.2 hkey (Nat.ne_of_gt hgt)).2
          omega
    subst hnil
    refine ⟨before, (j, x) :: gone, by simp, hbefore, ?_, ?_, ?_⟩
    · intro a ha
      have hlt : a.2 < x := hcross a ha (j, x) (List.mem_singleton_self _)
      rw [Finmap.lookup_erase_ne (Nat.ne_of_lt hlt)]
      exact hlive a (List.mem_append_left _ ha)
    · intro a ha
      rcases List.mem_cons.mp ha with rfl | ha
      · rw [Finmap.lookup_erase]
        exact nofun
      · exact hstill a ha
    · intro y k hy
      obtain ⟨hold, hne⟩ := lookup_erase_inv hy
      have hkey : y ∈ pending.keys := by
        rw [Finmap.mem_keys]
        exact Finmap.mem_of_lookup_eq_some hold
      have hmem := (hx hheld y hkey hne).1.mem_live rfl hgone hold
      rcases List.mem_append.mp hmem with hmem | hmem
      · exact .inl hmem
      · cases List.mem_singleton.mp hmem
        exact absurd rfl hne
  · -- `x` is not in flight, so no live entry is touched
    refine ⟨live, gone, rfl, hsort, ?_, hstill, ?_⟩
    · intro a ha
      have hne : a.2 ≠ x := by
        rintro rfl
        exact hin ⟨a.1, ha⟩
      rw [Finmap.lookup_erase_ne hne]
      exact hlive a ha
    · intro y k hy
      exact hrest y k (lookup_erase_inv hy).1

/-- The smallest pending id is that of the first request in flight. -/
theorem Fifo.oldest {a : Nat × Nat} {rest : List (Nat × Nat)} (h : Fifo pending (a :: rest))
    {x : Nat} (hx : pending.keys.min = some x) : x = a.2 ∧ pending.lookup x = some a.1 ∧
      Fifo (pending.erase x) rest := by
  obtain ⟨live, gone, hflight, hsort, hlive, hgone, hrest⟩ := h
  have hmem : x ∈ pending.keys := Finset.mem_of_min hx
  obtain ⟨j, hj⟩ : ∃ j, pending.lookup x = some j := by
    rw [Finmap.mem_keys, ← Finmap.lookup_isSome, Option.isSome_iff_exists] at hmem
    exact hmem
  cases live with
  | nil =>
      -- only requests without an entry are in flight, so nothing is pending
      rw [List.nil_append] at hflight
      obtain hbad | ⟨rfl, -⟩ := hrest x j hj
      · exact nomatch hbad
      · exact nomatch hflight
  | cons b live =>
      cases hflight
      obtain ⟨hfirst, hsorted⟩ := List.pairwise_cons.mp hsort
      have hb := hlive a (List.mem_cons_self ..)
      have hkey : a.2 ∈ pending.keys := by
        rw [Finmap.mem_keys]
        exact Finmap.mem_of_lookup_eq_some hb
      have hle : x ≤ a.2 := Finset.min_le_of_eq hkey hx
      have heq : x = a.2 := by
        rcases hrest x j hj with hmem | ⟨-, hlt⟩
        · rcases List.mem_cons.mp hmem with hhead | htail
          · exact congrArg Prod.snd hhead
          · have := hfirst _ htail
            exact absurd this (Nat.not_lt.mpr hle)
        · exact absurd (hlt a (List.mem_cons_self ..)) (Nat.not_lt.mpr hle)
      subst heq
      refine ⟨rfl, hb, live, gone, rfl, hsorted, ?_, ?_, ?_⟩
      · intro c hc
        rw [Finmap.lookup_erase_ne (Nat.ne_of_gt (hfirst c hc))]
        exact hlive c (List.mem_cons_of_mem _ hc)
      · intro c hc hlook
        exact hgone c hc (lookup_erase_inv hlook).1
      · intro y k hy
        obtain ⟨hold, hne⟩ := lookup_erase_inv hy
        rcases hrest y k hold with hmem | ⟨hnil, hlt⟩
        · rcases List.mem_cons.mp hmem with hhead | htail
          · exact absurd (congrArg Prod.snd hhead) hne
          · exact .inl htail
        · exact .inr ⟨hnil, fun c hc => hlt c (List.mem_cons_of_mem _ hc)⟩

end Fifo

/-! ## What a step does to the queue -/

/-- What a step of a JSONL session does to `pending` and to the output, while
    its reader reads. -/
inductive QueueMove (cfg : SessionCfg) (s : Session) (e : SessionEvent) (s' : Session) : Prop where
  | keep : s'.pending = s.pending → s'.outbox = s.outbox → QueueMove cfg s e s'
  | insert (x i : Nat) : registeredId s e = some x → s'.pending = s.pending.insert x i →
      s'.outbox = s.outbox → QueueMove cfg s e s'
  | write (i x : Nat) (c : Call) (bytes : List UInt8) : writtenId s e = some (i, x) →
      s.calls[i]? = some c → c.phase = .writing bytes → s'.pending = s.pending →
      s'.outbox = s.outbox ++ [.request i x bytes] → QueueMove cfg s e s'
  | erase (x : Nat) : removedId s e = some x → s'.pending = s.pending.erase x →
      s'.outbox = s.outbox → QueueMove cfg s e s'
  | answer (re : ReaderEvent) (x : Nat) (response : ControlResponse) : e = .reader re →
      Decoded cfg s re x response → s'.pending = s.pending.erase x → s'.outbox = s.outbox →
      QueueMove cfg s e s'

theorem step_queue {cfg : SessionCfg} {s s' : Session} {e : SessionEvent}
    (hcodec : cfg.codec = .jsonl) (hcan : CancelsEncoded cfg s)
    (h : ServiceSession.step cfg s e = some s') (hr : s'.reader = .reading) :
    QueueMove cfg s e s' := by
  cases ServiceSession.step_move h with
  | send | requestCancel => exact .keep rfl rfl
  | close => exact nomatch hr
  | reader re _ m =>
      cases m with
      | stop | markClosed | drain => exact nomatch hr
      | answer _ requestId j response _ hd =>
          exact .answer re requestId response rfl hd (pending_answerPending _ _ _)
            (outbox_answerPending _ _ _)
  | cancel k x ke _ hx m =>
      -- a JSONL session writes no CANCEL
      have hno : ∀ bytes, x.phase ≠ .writing bytes := by
        intro bytes hp
        have := (hcan k x hx bytes (.inr hp)).1
        rw [hcodec] at this
        exact nomatch this
      cases m with
      | encodeFail | encode | lockWriter => exact .keep rfl rfl
      | forget | remove =>
          exact .erase x.requestId (by simp only [removedId, hx, Option.map_some])
            (pending_answerPending _ _ _) (outbox_answerPending _ _ _)
      | write bytes hp | writeFail bytes _ _ hp => exact absurd hp (hno bytes)
  | call i c ce _ hc m =>
      cases m with
      | refused | opened | allocate | overLimit | checkLimit | encodeFail | encode | lockWriter
      | receive | timeout | finishTimeout => exact .keep rfl rfl
      | register requestId hp hid =>
          exact .insert requestId i (by simp only [registeredId, hc, Option.bind_some, hid]) rfl rfl
      | write requestId bytes hp hid =>
          exact .write i requestId c bytes
            (by simp only [writtenId, hc, Option.bind_some, hid, Option.map_some]) hc hp rfl rfl
      | writeFail requestId bytes sent detail hp hid =>
          cases sent with
          | false => exact .keep rfl rfl
          | true =>
              exact .write i requestId c bytes
                (by simp only [writtenId, hc, Option.bind_some, hid, Option.map_some]) hc hp rfl rfl
      | removeFailed requestId error hp hid | removeExpired requestId hp hid =>
          exact .erase requestId (by simp only [removedId, hc, Option.bind_some, hid])
            (pending_removePending _ _) (outbox_removePending _ _)

/-- The reader does not read again once it has stopped. -/
theorem reading_before {cfg : SessionCfg} {s s' : Session} {e : SessionEvent}
    (h : ServiceSession.step cfg s e = some s') (hr : s'.reader = .reading) :
    s.reader = .reading := by
  have hremove : ∀ x, (s.removePending x).reader = s.reader :=
    removePending_keeps (g := Session.reader) (fun _ _ _ => rfl) s
  have hanswer : ∀ x result, (s.answerPending x result).reader = s.reader :=
    answerPending_keeps (g := Session.reader) (fun _ _ _ => rfl) s
  cases ServiceSession.step_move h with
  | send | requestCancel => exact hr
  | close => exact nomatch hr
  | reader re _ m =>
      cases m with
      | stop | markClosed | drain => exact nomatch hr
      | answer _ _ _ _ hread => exact hread
  | cancel k x ke _ hx m =>
      cases m with
      | encodeFail | encode | lockWriter | write | writeFail => exact hr
      | forget | remove => exact (hanswer _ _).symm.trans hr
  | call i c ce _ hc m =>
      cases m with
      | refused | opened | allocate | overLimit | checkLimit | register | encodeFail | encode
      | lockWriter | write | writeFail | receive | timeout | finishTimeout => exact hr
      | removeFailed | removeExpired => exact (hremove _).symm.trans hr

/-! ## The queue along a run -/

/-- A JSONL session writes requests only. -/
theorem outbox_requests {cfg : SessionCfg} {s : Session} (h : Booked cfg s)
    (hcodec : cfg.codec = .jsonl) {o : Outgoing} (ho : o ∈ s.outbox) :
    ∃ i x bytes, o = .request i x bytes := by
  cases o with
  | request i x bytes => exact ⟨i, x, bytes, rfl⟩
  | cancel x bytes =>
      have := (h.sentCancel x bytes ho).1
      rw [hcodec] at this
      exact nomatch this

/-- A call that is writing has no request in flight. -/
theorem writing_not_inFlight {cfg : SessionCfg} {l : JsonlLink} {i x : Nat} {c : Call}
    {bytes : List UInt8} (h : Booked cfg l.sess) (hc : l.sess.calls[i]? = some c)
    (hp : c.phase = .writing bytes) : (i, x) ∉ l.inFlight := by
  intro hmem
  obtain ⟨o, ho, hsent⟩ := List.mem_filterMap.mp hmem
  cases o with
  | cancel => exact nomatch hsent
  | request i' x' bytes' =>
      cases hsent
      obtain ⟨c', hc', -, -, hmay⟩ := h.sent i x bytes' (List.mem_of_mem_drop ho)
      rw [hc] at hc'
      cases hc'
      rw [hp] at hmay
      exact nomatch hmay

theorem inFlight_write {l : JsonlLink} {sess : Session} {i x : Nat} {bytes : List UInt8}
    (hle : l.consumed ≤ l.sess.outbox.length)
    (hout : sess.outbox = l.sess.outbox ++ [.request i x bytes]) :
    { l with sess := sess }.inFlight = l.inFlight ++ [(i, x)] := by
  show (sess.outbox.drop l.consumed).filterMap sentCall = l.inFlight ++ [(i, x)]
  rw [hout, List.drop_append_of_le_length hle, List.filterMap_append]
  rfl

/-- The response that is read next belongs to the first request in flight. -/
theorem inFlight_next {cfg : SessionCfg} {l : JsonlLink} {p : JsonlReply} (h : InStep l)
    (hbooked : Booked cfg l.sess) (hcodec : cfg.codec = .jsonl)
    (hp : l.srv.replies[l.consumed]? = some p) :
    ∃ i x bytes, l.sess.outbox[p.req]? = some (.request i x bytes) ∧
      l.inFlight = (i, x) :: { l with consumed := l.consumed + 1 }.inFlight := by
  have hlt : l.consumed < l.sess.outbox.length :=
    Nat.lt_of_lt_of_le (lt_length_of_getElem? hp) (Nat.le_trans h.behind h.bound)
  obtain ⟨i, x, bytes, ho⟩ := outbox_requests hbooked hcodec (List.getElem_mem hlt)
  refine ⟨i, x, bytes, ?_, ?_⟩
  · rw [h.order l.consumed p hp, List.getElem?_eq_getElem hlt, ho]
  · show (l.sess.outbox.drop l.consumed).filterMap sentCall = _
    rw [List.drop_eq_getElem_cons hlt, ho]
    rfl

/-- The reader's steps neither register nor write nor remove. -/
theorem fifoSafe_reader (l : JsonlLink) (re : ReaderEvent) : FifoSafe l (.reader re) where
  register := by intro x hx; exact nomatch hx
  write := by intro a ha; exact nomatch ha
  remove := by intro x hx; exact nomatch hx

theorem Fifo.client {cfg : JsonlCfg} {l : JsonlLink} {e : SessionEvent} {sess : Session}
    (hinv : SessionInv cfg.client l.sess) (hle : l.consumed ≤ l.sess.outbox.length)
    (hsafe : FifoSafe l e) (hread : e.isRead = false)
    (hs : ServiceSession.step cfg.client l.sess e = some sess) (hr : sess.reader = .reading)
    (h : Fifo l.sess.pending l.inFlight) :
    Fifo sess.pending { l with sess := sess }.inFlight := by
  -- a step that writes nothing leaves the requests in flight
  have hsame : sess.outbox = l.sess.outbox → { l with sess := sess }.inFlight = l.inFlight :=
    fun hout => congrArg (fun o => (o.drop l.consumed).filterMap sentCall) hout
  cases step_queue rfl hinv.cancels hs hr with
  | keep hp hout =>
      rw [hp, hsame hout]
      exact h
  | insert x i hx hp hout =>
      rw [hp, hsame hout]
      exact h.insert (hsafe.register x hx)
  | write i x c bytes hx hc hph hp hout =>
      rw [hp, inFlight_write hle hout]
      exact h.write (writing_not_inFlight hinv.booked hc hph) (hsafe.write (i, x) hx)
  | erase x hx hp hout =>
      rw [hp, hsame hout]
      exact h.erase (hsafe.remove x hx)
  | answer re x response he hd hp hout =>
      subst he
      cases hd with
      | frame | line => exact nomatch hread

theorem Fifo.receive {cfg : JsonlCfg} {l : JsonlLink} {p : JsonlReply} {line : List UInt8}
    {sess : Session} (hinv : SessionInv cfg.client l.sess) (hstep : InStep l)
    (hp : l.srv.replies[l.consumed]? = some p)
    (hs : ServiceSession.step cfg.client l.sess (.reader (.line line)) = some sess)
    (hr : sess.reader = .reading) (h : Fifo l.sess.pending l.inFlight) :
    Fifo sess.pending { l with sess := sess, consumed := l.consumed + 1 }.inFlight := by
  obtain ⟨i, x, bytes, -, hflight⟩ := inFlight_next hstep hinv.booked rfl hp
  rw [hflight] at h
  -- with nothing to pair, the reader would have stopped
  cases ServiceSession.step_move hs with
  | reader _ _ m =>
      cases m with
      | stop => exact nomatch hr
      | answer _ requestId j response _ hd =>
          cases hd with
          | line _ _ _ _ _ hold =>
              show Fifo (l.sess.answerPending requestId (.ok response)).pending
                ((((l.sess.answerPending requestId (.ok response)).outbox).drop
                  (l.consumed + 1)).filterMap sentCall)
              rw [pending_answerPending, outbox_answerPending]
              exact (h.oldest hold).2.2

/-! ## Where a response comes from -/

/-- `response` is what the handler returned for line `req`, or the error the
    server made up because the line did not decode. -/
def Source (s : JsonlConn) (req : Nat) (response : ControlResponse) : Prop :=
  (req, response) ∈ s.returned ∨
    ∃ error : IpcError, response = ServiceServer.badRequestResponse error.message

/-- A phase that carries a response carries one with a source. -/
def PhaseProduced (cfg : JsonlServerCfg) (s : JsonlConn) : JsonlPhase → Prop
  | .responding req response => Source s req response
  | .writing req response line =>
      Source s req response ∧ encodeJsonl (cfg.json.writeResponse response) cfg.limits = .ok line
  | _ => True

/-- What the server has written and is about to write has a source. -/
structure Produced (cfg : JsonlServerCfg) (s : JsonlConn) : Prop where
  phase : PhaseProduced cfg s s.phase
  replies : ∀ p ∈ s.replies, Source s p.req p.response ∧
    encodeJsonl (cfg.json.writeResponse p.response) cfg.limits = .ok p.line

theorem Produced.preserved {cfg : JsonlServerCfg} {s s' : JsonlConn} {e : JsonlEvent}
    (h : Produced cfg s) (hs : jsonlStep cfg s e = some s') : Produced cfg s' := by
  cases e with
  | beginDrain =>
      cases hs
      exact ⟨h.phase, h.replies⟩
  | stopReading | readFailed error =>
      simp only [jsonlStep] at hs
      split at hs
      · cases hs
        exact ⟨trivial, h.replies⟩
      · exact nomatch hs
  | line req bytes =>
      simp only [jsonlStep] at hs
      split at hs
      · cases hs
        simp only [JsonlConn.onLine]
        split
        · exact ⟨trivial, h.replies⟩
        · split
          · exact ⟨.inr ⟨_, rfl⟩, h.replies⟩
          · exact ⟨trivial, h.replies⟩
      · exact nomatch hs
  | handlerReturn response =>
      simp only [jsonlStep] at hs
      split at hs
      · rename_i req request hp
        cases hs
        refine ⟨.inl (List.mem_append_right _ (List.mem_singleton_self _)), ?_⟩
        intro p hp
        obtain ⟨hsrc, henc⟩ := h.replies p hp
        exact ⟨hsrc.imp_left (List.mem_append_left _), henc⟩
      · exact nomatch hs
  | handlerPanic =>
      simp only [jsonlStep] at hs
      split at hs
      · cases hs
        exact ⟨trivial, h.replies⟩
      · exact nomatch hs
  | encode =>
      simp only [jsonlStep] at hs
      split at hs
      · rename_i req response hp
        have hsrc := h.phase
        rw [hp] at hsrc
        split at hs
        · cases hs
          exact ⟨trivial, h.replies⟩
        · rename_i line henc
          cases hs
          exact ⟨⟨hsrc, henc⟩, h.replies⟩
      · exact nomatch hs
  | write | writeFail sent detail =>
      simp only [jsonlStep] at hs
      split at hs
      · rename_i req response line hp
        have hsrc := h.phase
        rw [hp] at hsrc
        -- the line just written has the source of the phase
        have hnew : ∀ p ∈ s.replies ++ [⟨req, response, line⟩], Source s p.req p.response ∧
            encodeJsonl (cfg.json.writeResponse p.response) cfg.limits = .ok p.line := by
          intro p hmem
          rcases List.mem_append.mp hmem with hmem | hmem
          · exact h.replies p hmem
          · rw [List.mem_singleton.mp hmem]
            exact hsrc
        cases hs
        first
        | exact ⟨trivial, hnew⟩
        | refine ⟨trivial, ?_⟩
          cases sent with
          | false => exact h.replies
          | true => exact hnew
      · exact nomatch hs

/-! ## JSONL correlation -/

/-- Line `p` of the server answers the request of call `i`, and `x` is what it
    decodes to. -/
structure WrittenFor (cfg : JsonlCfg) (l : JsonlLink) (i : Nat) (x : ControlResponse)
    (p : JsonlReply) : Prop where
  written : p ∈ l.srv.replies
  request : ∃ requestId bytes, l.sess.outbox[p.req]? = some (.request i requestId bytes)
  decoded : ∃ line, (readJsonlLine cfg.limits p.line).1 = .ok (some line) ∧
    decodeJsonl cfg.json.readResponse line cfg.limits = .ok x

/-- `x` was decoded from a line that the server wrote for the request of call
    `i`: its handler's result, or the error for a line that did not decode. -/
def AnswerTo (cfg : JsonlCfg) (l : JsonlLink) (i : Nat) (x : ControlResponse) : Prop :=
  ∃ p, WrittenFor cfg l i x p ∧ Source l.srv p.req p.response ∧
    encodeJsonl (cfg.server.json.writeResponse p.response) cfg.server.limits = .ok p.line

/-- What a call has received was written for its request. -/
def Paired (cfg : JsonlCfg) (l : JsonlLink) : Prop :=
  ∀ (i : Nat) (c : Call) (x : ControlResponse), l.sess.calls[i]? = some c →
    c.slot = .full (.ok x) ∨ c.phase = .done (.ok x) → ∃ p, WrittenFor cfg l i x p

theorem WrittenFor.mono {cfg : JsonlCfg} {l l' : JsonlLink} {i : Nat} {x : ControlResponse}
    {p : JsonlReply} (h : WrittenFor cfg l i x p) {more : List Outgoing}
    (hout : l'.sess.outbox = l.sess.outbox ++ more) {more' : List JsonlReply}
    (hrep : l'.srv.replies = l.srv.replies ++ more') : WrittenFor cfg l' i x p where
  written := by
    rw [hrep]
    exact List.mem_append_left _ h.written
  request := by
    obtain ⟨requestId, bytes, ho⟩ := h.request
    refine ⟨requestId, bytes, ?_⟩
    rw [hout, List.getElem?_append_left (lt_length_of_getElem? ho)]
    exact ho
  decoded := h.decoded

/-- What the server has answered starts with what it had answered. -/
theorem jsonlReplies_extend {cfg : JsonlServerCfg} {s s' : JsonlConn} {e : JsonlEvent}
    (h : jsonlStep cfg s e = some s') : ∃ more, s'.replies = s.replies ++ more := by
  cases jsonlStep_move h with
  | keep _ _ _ hrep | take _ _ _ _ _ hrep | stop _ _ _ hrep =>
      exact ⟨[], by rw [hrep, List.append_nil]⟩
  | reply p _ _ hrep => exact ⟨[p], hrep⟩

theorem Paired.client {cfg : JsonlCfg} {l : JsonlLink} {e : SessionEvent} {sess : Session}
    (h : Paired cfg l) (hnum : Numbered l.sess) (hread : e.isRead = false)
    (hs : ServiceSession.step cfg.client l.sess e = some sess) :
    Paired cfg { l with sess := sess } := by
  intro i u x hu hx
  obtain ⟨more, hmore⟩ := outbox_extends hs
  obtain ⟨c, hc, -, hx | ⟨re, id, he, hd, -⟩⟩ := response_origin hnum hs hu hx
  · obtain ⟨p, hp⟩ := h i c x hc hx
    exact ⟨p, hp.mono hmore (List.append_nil _).symm⟩
  · subst he
    cases hd with
    | frame | line => exact nomatch hread

theorem Paired.receive {cfg : JsonlCfg} {l : JsonlLink} {p : JsonlReply} {line : List UInt8}
    {sess : Session} (h : Paired cfg l) (hinv : SessionInv cfg.client l.sess) (hstep : InStep l)
    (hfifo : l.sess.reader = .reading → Fifo l.sess.pending l.inFlight)
    (hp : l.srv.replies[l.consumed]? = some p)
    (hline : (readJsonlLine cfg.limits p.line).1 = .ok (some line))
    (hs : ServiceSession.step cfg.client l.sess (.reader (.line line)) = some sess) :
    Paired cfg { l with sess := sess, consumed := l.consumed + 1 } := by
  intro i u x hu hx
  obtain ⟨more, hmore⟩ := outbox_extends hs
  obtain ⟨c, hc, -, hx | ⟨re, id, he, hd, hlook⟩⟩ := response_origin hinv.numbered hs hu hx
  · obtain ⟨q, hq⟩ := h i c x hc hx
    exact ⟨q, hq.mono hmore (List.append_nil _).symm⟩
  · -- the reader has just taken the response to the first request in flight
    cases he
    cases hd with
    | line _ _ _ _ hdec hold =>
        have hread : readerStep cfg.client l.sess (.line line) = some sess := hs
        have hr : l.sess.reader = .reading := by
          cases readerStep_move hread with
          | answer _ _ _ _ hr | stop _ _ hr => exact hr
        obtain ⟨j, y, bytes, ho, hflight⟩ := inFlight_next hstep hinv.booked rfl hp
        have hf := hfifo hr
        rw [hflight] at hf
        obtain ⟨-, hlook', -⟩ := hf.oldest hold
        have hji : j = i := Option.some.inj (hlook'.symm.trans hlook)
        rw [hji] at ho
        refine ⟨p, ⟨List.mem_of_getElem? hp, ⟨y, bytes, ?_⟩, line, hline, hdec⟩⟩
        show sess.outbox[p.req]? = some (.request i y bytes)
        rw [hmore, List.getElem?_append_left (lt_length_of_getElem? ho)]
        exact ho

/-- The joint invariant. -/
structure JsonlInv (cfg : JsonlCfg) (l : JsonlLink) : Prop where
  sess : SessionInv cfg.client l.sess
  inStep : InStep l
  produced : Produced cfg.server l.srv
  fifo : l.sess.reader = .reading → Fifo l.sess.pending l.inFlight
  paired : Paired cfg l

theorem jsonlInv_start (cfg : JsonlCfg) : JsonlInv cfg .start where
  sess := sessionInv_fromStream _
  inStep := inStep_start
  produced := ⟨trivial, by intro p hp; exact nomatch hp⟩
  fifo := by
    intro _
    refine ⟨[], [], rfl, List.Pairwise.nil, nofun, nofun, ?_⟩
    intro y j hy
    exact nomatch hy
  paired := by intro i c x hc; exact nomatch hc

theorem JsonlInv.preserved {cfg : JsonlCfg} {l l' : JsonlLink} {e : JsonlLinkEvent}
    (h : JsonlInv cfg l) (hsafe : Safe l e) (hs : step cfg l e = some l') : JsonlInv cfg l' := by
  have hle : l.consumed ≤ l.sess.outbox.length :=
    Nat.le_trans h.inStep.seen (Nat.le_trans h.inStep.behind h.inStep.bound)
  -- a server that grows its log keeps what is paired
  have hpaired : ∀ {se srv} (readPos : Nat), jsonlStep cfg.server l.srv se = some srv →
      Paired cfg { l with srv := srv, readPos := readPos } := by
    intro se srv readPos hse i c x hc hx
    obtain ⟨p, hp⟩ := h.paired i c x hc hx
    obtain ⟨more, hmore⟩ := jsonlReplies_extend hse
    exact ⟨p, hp.mono (List.append_nil _).symm hmore⟩
  cases step_move hs with
  | client _ ce sess he hread hce =>
      have hfs : FifoSafe l ce := by
        rcases he with rfl | ⟨result, rfl⟩
        · exact hsafe
        · exact fifoSafe_reader l _
      refine ⟨h.sess.preserved hce, h.inStep.client hce, h.produced, ?_,
        h.paired.client h.sess.numbered hread hce⟩
      intro hr
      exact (h.fifo (reading_before hce hr)).client h.sess hle hfs hread hce hr
  | server _ se srv hread hse =>
      exact ⟨h.sess, h.inStep.server hread hse, h.produced.preserved hse, h.fifo,
        hpaired l.readPos hse⟩
  | readLine o line srv ho hse =>
      exact ⟨h.sess, h.inStep.readLine ho hse, h.produced.preserved hse, h.fifo,
        hpaired _ hse⟩
  | receive p line sess hp hline hce =>
      refine ⟨h.sess.preserved hce, (h.inStep.client hce).receive hp, h.produced, ?_,
        h.paired.receive h.sess h.inStep h.fifo hp hline hce⟩
      intro hr
      exact (h.fifo (reading_before hce hr)).receive h.sess h.inStep hp hce hr

/-- **JSONL CORRELATION**: in every run whose steps keep the requests in flight
    first among the pending ones, what a `send` returns was decoded from the
    line the server wrote for that very request. -/
theorem jsonl_correlation {cfg : JsonlCfg} {l : JsonlLink}
    (h : Reaches (step cfg) Safe .start l) :
    ∀ (i : Nat) (c : Call) (x : ControlResponse), l.sess.calls[i]? = some c →
      c.phase = .done (.ok x) → AnswerTo cfg l i x := by
  have hinv : JsonlInv cfg l := by
    refine h.invariant (P := JsonlInv cfg) (jsonlInv_start cfg) ?_
    intro s e s' hinv hsafe hs
    exact hinv.preserved hsafe hs
  intro i c x hc hx
  obtain ⟨p, hp⟩ := hinv.paired i c x hc (.inr hx)
  obtain ⟨hsrc, henc⟩ := hinv.produced.replies p hp.written
  exact ⟨p, hp, hsrc, henc⟩

/-! ## A sample connection

    The JSON texts of the few values that the runs use. -/

/-- The bytes of an ASCII text. -/
def asciiBytes (text : String) : List UInt8 := text.toList.map fun c => UInt8.ofNat c.toNat

/-- A request without parameters. -/
def writeSampleRequest (request : ControlRequest) : Except String (List UInt8) :=
  let text := fun method => asciiBytes "\x7b\"token\":\"" ++ asciiBytes request.token ++
    asciiBytes "\",\"method\":\"" ++ asciiBytes method ++ asciiBytes "\",\"params\":null\x7d"
  match request.method, request.params with
  | .healthCheck, .null => .ok (text "health_check")
  | .coreStatus, .null => .ok (text "core_status")
  | _, _ => .error "not a sample request"

/-- A successful response with `null` or a boolean. -/
def writeSampleResponse (response : ControlResponse) : Except String (List UInt8) :=
  match response.ok, response.result, response.error with
  | true, some .null, none => .ok (asciiBytes "\x7b\"ok\":true,\"result\":null\x7d")
  | true, some (.bool true), none => .ok (asciiBytes "\x7b\"ok\":true,\"result\":true\x7d")
  | true, some (.bool false), none => .ok (asciiBytes "\x7b\"ok\":true,\"result\":false\x7d")
  | _, _, _ => .error "not a sample response"

/-- The first of `values` that is written as `bytes`. -/
def readSample {α : Type} (write : α → Except String (List UInt8)) (values : List α)
    (bytes : List UInt8) : Except String α :=
  match values.find? fun v => (write v).toOption == some bytes with
  | some v => .ok v
  | none => .error "not a sample value"

/-- The sample serialiser. -/
def sampleJson : Json where
  writeRequest := writeSampleRequest
  readRequest :=
    readSample writeSampleRequest [⟨"t", .healthCheck, .null⟩, ⟨"t", .coreStatus, .null⟩]
  writeResponse := writeSampleResponse
  readResponse := readSample writeSampleResponse [.okValue (.bool true), .okValue (.bool false)]

/-- Both ends of the sample connection. -/
def sampleCfg : JsonlCfg := ⟨sampleLimits, sampleCodec, sampleJson, sampleLimits, sampleJson⟩

/-- A `send` of call `i` up to its registration. -/
def registers (i : Nat) (method : ControlMethod) : List JsonlLinkEvent :=
  [.client (.send ⟨"t", method, .null⟩), .client (.call i .checkClosed),
    .client (.call i .allocate), .client (.call i .checkLimit), .client (.call i .register)]

/-- Call `i` from there up to its write. -/
def writes (i : Nat) : List JsonlLinkEvent :=
  [.client (.call i .encode), .client (.call i .lockWriter), .client (.call i .write)]

/-- The server answers the next line with `response`. -/
def answers (response : ControlResponse) : List JsonlLinkEvent :=
  [.readLine, .server (.handlerReturn response), .server .encode, .server .write]

/-- Call `i` takes the next response. -/
def takes (i : Nat) : List JsonlLinkEvent := [.receive, .client (.call i .receive)]

/-- Two overlapping calls that write in the order of their ids. -/
def orderedState : JsonlLink :=
  (run (step sampleCfg) Safe .start
    (registers 0 .healthCheck ++ registers 1 .coreStatus ++ writes 0 ++ writes 1 ++
      answers (.okValue (.bool true)) ++ answers (.okValue (.bool false)) ++ takes 0 ++
      takes 1)).getD .start

theorem jsonl_correlation_sample :
    Reaches (step sampleCfg) Safe .start orderedState ∧
      AnswerTo sampleCfg orderedState 0 (.okValue (.bool true)) ∧
      AnswerTo sampleCfg orderedState 1 (.okValue (.bool false)) := by
  have hrun : Reaches (step sampleCfg) Safe .start orderedState := reaches_getD (by decide)
  exact ⟨hrun, jsonl_correlation hrun 0 _ _ rfl rfl, jsonl_correlation hrun 1 _ _ rfl rfl⟩

/-- The same two calls, where the second one gets the encode buffers first. -/
def overtakenState : JsonlLink :=
  (run (step sampleCfg) Free .start
    (registers 0 .healthCheck ++ registers 1 .coreStatus ++ writes 1 ++ writes 0 ++
      answers (.okValue (.bool false)) ++ takes 0)).getD .start

/-- **A RESPONSE GOES TO THE WRONG CALL**: call 1 writes first, and its response
    is what `send` returns to call 0, whose request the server has not read. -/
theorem response_goes_to_smallest_id : Reaches (step sampleCfg) Free .start overtakenState ∧
    (overtakenState.sess.calls[0]?).map Call.phase = some (.done (.ok (.okValue (.bool false)))) ∧
    overtakenState.readPos = 1 ∧
    (overtakenState.sess.outbox[0]?).bind sentCall = some (1, 2) ∧
    ¬ AnswerTo sampleCfg overtakenState 0 (.okValue (.bool false)) := by
  refine ⟨reaches_getD (by decide), rfl, rfl, rfl, ?_⟩
  rintro ⟨p, hp, -, -⟩
  -- the one reply there is answers the request of call 1
  have hreq : ∀ q ∈ overtakenState.srv.replies.map JsonlReply.req, q = 0 := by decide
  obtain ⟨requestId, bytes, ho⟩ := hp.request
  rw [hreq p.req (List.mem_map_of_mem hp.written)] at ho
  have hcall : some 1 = some 0 := congrArg (fun o => (o.bind sentCall).map Prod.fst) ho
  exact absurd hcall (by decide)

end ServiceJsonl
