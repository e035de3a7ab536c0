import MutsukiServiceHost.ServiceJsonlProofs
import MutsukiServiceHost.ServiceLinkProofs
import MutsukiServiceHost.ServiceOrderProofs

/-! # `ControlClient` — one session at a time, reconnect once

    A client keeps at most one `ControlSession` behind a mutex and holds the
    mutex for the whole of a `send`.  When the first attempt ends with `Closed`
    or `Io` the session is dropped and the request is sent once more on another
    connection.  Dropping a session does not close its connection: the detached
    reader task keeps its half, so the server goes on with what it has read.

    The server's handler runs at most once for a request that was written once;
    how often it runs for a call of the client is a matter of its attempts. -/

namespace ServiceClient

open ServiceControl ServiceFrame ServiceSession ListUpdate Transition

/-! ## A connection of either codec -/

/-- The fixed surroundings of a client. -/
structure ClientCfg where
  codec : IpcCodec
  binary : ServiceLink.LinkCfg
  jsonl : ServiceJsonl.JsonlCfg

/-- A connection with both its ends. -/
inductive Conn where
  | binary (l : ServiceLink.Link)
  | jsonl (l : ServiceJsonl.JsonlLink)

/-- The steps of a connection. -/
inductive ConnEvent where
  | binary (e : ServiceLink.LinkEvent)
  | jsonl (e : ServiceJsonl.JsonlLinkEvent)

/-- What only the owner of a session does. -/
def ownersOnly : SessionEvent → Bool
  | .send _ | .requestCancel _ | .close => true
  | _ => false

/-- The step is the owner's. -/
def ConnEvent.isOwners : ConnEvent → Bool
  | .binary (.client e) | .jsonl (.client e) => ownersOnly e
  | _ => false

namespace Conn

/-- A fresh connection. -/
def fresh (cfg : ClientCfg) : Conn :=
  match cfg.codec with
  | .binary => .binary (.start cfg.binary)
  | .jsonl => .jsonl .start

/-- The session at this end. -/
def sess : Conn → Session
  | .binary l => l.sess
  | .jsonl l => l.sess

/-- One step of a connection. -/
def step (cfg : ClientCfg) : Conn → ConnEvent → Option Conn
  | .binary l, .binary e => (ServiceLink.step cfg.binary l e).map .binary
  | .jsonl l, .jsonl e => (ServiceJsonl.step cfg.jsonl l e).map .jsonl
  | _, _ => none

/-- The owner of the session takes a step. -/
def stepOwner (cfg : ClientCfg) (c : Conn) (e : SessionEvent) : Option Conn :=
  match c with
  | .binary _ => c.step cfg (.binary (.client e))
  | .jsonl _ => c.step cfg (.jsonl (.client e))

/-- How often the server called its handler for the request of session call
    `i`: the requests are read in the order they were written. -/
def handlerCalls : Conn → Nat → Nat
  | .binary l, i =>
      l.srv.invoked.countP fun r => (l.sess.outbox.filterMap Outgoing.call?)[r]? = some i
  | .jsonl l, i => l.srv.invoked.countP fun r => (l.sess.outbox[r]?).bind Outgoing.call? = some i

end Conn

/-! ## One handler call for one request -/

section Once

open ServiceServer

/-- The task has not called the handler. -/
def notInvoked : TaskPhase → Bool
  | .spawned | .locking => true
  | _ => false

/-- The binary server calls the handler once for a request. -/
structure InvokedOnce (s : ServerConn) : Prop where
  nodup : s.invoked.Nodup
  started : ∀ r ∈ s.invoked, ∃ (i : Nat) (t : Task), s.tasks[i]? = some t ∧ t.req = r ∧
    notInvoked t.phase = false

theorem invokedOnce_start (cfg : ServerCfg) : InvokedOnce (.start cfg) where
  nodup := List.nodup_nil
  started := by intro r h; exact nomatch h

/-- A task that has called the handler does not go back. -/
theorem notInvoked_phaseStep {cfg : ServerCfg} {t : Task} {te : TaskEvent} {p : TaskPhase}
    (h : PhaseStep cfg t te p) (ht : notInvoked t.phase = false) : notInvoked p = false := by
  cases h with
  | lock hp =>
      rw [hp] at ht
      exact nomatch ht
  | invoke | acquire | handled | panicked | abortSeen | encodeFail | encode | lockWriter | write
  | flush | writeFail | remove | drop => rfl

/-- A step calls the handler for at most one task, which had not called it. -/
theorem step_invoked {cfg : ServerCfg} {s s' : ServerConn} {e : ServerEvent}
    (hs : ServiceServer.step cfg s e = some s') : s'.invoked = s.invoked ∨
      ∃ (i : Nat) (t u : Task), s.tasks[i]? = some t ∧ notInvoked t.phase = true ∧
        s'.tasks[i]? = some u ∧ u.req = t.req ∧ notInvoked u.phase = false ∧
        s'.invoked = s.invoked ++ [t.req] := by
  rcases ServiceServer.step_move hs with ⟨le, rfl, m⟩ | ⟨i, t, te, rfl, ht, m⟩
  · cases step_order hs with
    | quiet _ _ hi => exact .inl hi
    | lock _ _ he | invoke _ _ he | acquire _ _ he | returned _ _ _ he | gone _ _ _ he =>
        exact nomatch he
  · have hinvoke : notInvoked t.phase = true → ∃ (j : Nat) (t' u : Task),
        s.tasks[j]? = some t' ∧ notInvoked t'.phase = true ∧
        (s.invoke i t.req).tasks[j]? = some u ∧ u.req = t'.req ∧ notInvoked u.phase = false ∧
        (s.invoke i t.req).invoked = s.invoked ++ [t'.req] := fun hp =>
      ⟨i, t, _, ht, hp, getElem?_modify_self ht, rfl, rfl, rfl⟩
    cases m with
    | pollInvoke hp | acquire hp => exact .inr (hinvoke (by rw [hp]; rfl))
    | pollLock | handlerReturn | handlerPanic | abortSeen | encodeFail | encode | lockWriter
    | write | flush | writeFail | drop => exact .inl rfl
    | remove => exact .inl (mutateQueue_removePending s i t.requestId).2.1

theorem InvokedOnce.preserved {cfg : ServerCfg} {s s' : ServerConn} {e : ServerEvent}
    (htag : Tagged s) (h : InvokedOnce s) (hs : ServiceServer.step cfg s e = some s') :
    InvokedOnce s' := by
  -- tasks that have called the handler stay
  have hkeep : ∀ r ∈ s.invoked, ∃ (i : Nat) (t : Task), s'.tasks[i]? = some t ∧ t.req = r ∧
      notInvoked t.phase = false := by
    intro r hr
    obtain ⟨i, t, ht, hreq, hp⟩ := h.started r hr
    obtain ⟨u, hu, hutag⟩ := step_keeps_task hs ht
    refine ⟨i, u, hu, (Task.req_of_tag hutag).trans hreq, ?_⟩
    cases step_origin hs hu with
    | fresh hi => exact absurd (lt_length_of_getElem? ht) (by omega)
    | same t' _ ht' _ hph _ =>
        rw [ht] at ht'
        cases ht'
        rw [hph]
        exact hp
    | moved t' te _ ht' _ hstep _ =>
        rw [ht] at ht'
        cases ht'
        exact notInvoked_phaseStep hstep hp
  rcases step_invoked hs with heq | ⟨i, t, u, ht, hold, hu, hreq, hnew, heq⟩
  · exact ⟨heq ▸ h.nodup, heq ▸ hkeep⟩
  · refine ⟨?_, ?_⟩
    · rw [heq]
      refine List.nodup_append.mpr ⟨h.nodup, List.nodup_singleton _, ?_⟩
      intro a ha b hb hab
      rw [List.mem_singleton.mp hb] at hab
      -- the only task of this request is `i`, which has not called the handler
      obtain ⟨k, v, hv, hvreq, hvp⟩ := h.started a ha
      have hki : k = i := htag.req_injective hv ht (hvreq.trans hab)
      rw [hki, ht] at hv
      cases hv
      rw [hold] at hvp
      exact nomatch hvp
    · intro r hr
      rw [heq] at hr
      rcases List.mem_append.mp hr with hr | hr
      · exact hkeep r hr
      · exact ⟨i, u, hu, hreq.trans (List.mem_singleton.mp hr).symm, hnew⟩

end Once

/-- The JSONL server calls the handler once for a line. -/
structure LinesOnce (l : ServiceJsonl.JsonlLink) : Prop where
  nodup : l.srv.invoked.Nodup
  read : ∀ r ∈ l.srv.invoked, r < l.readPos

theorem jsonlStep_invoked {cfg : ServiceJsonl.JsonlServerCfg} {s s' : ServiceJsonl.JsonlConn}
    {e : ServiceJsonl.JsonlEvent} (hs : ServiceJsonl.jsonlStep cfg s e = some s') :
    s'.invoked = s.invoked ∨ ∃ req bytes, e = .line req bytes ∧ s'.invoked = s.invoked ++ [req] := by
  cases e with
  | line req bytes =>
      simp only [ServiceJsonl.jsonlStep] at hs
      split at hs
      · cases hs
        simp only [ServiceJsonl.JsonlConn.onLine]
        split
        · exact .inl rfl
        · split
          · exact .inl rfl
          · exact .inr ⟨req, bytes, rfl, rfl⟩
      · cases hs
  | beginDrain =>
      cases hs
      exact .inl rfl
  | encode =>
      simp only [ServiceJsonl.jsonlStep] at hs
      split at hs
      · split at hs
        · cases hs
          exact .inl rfl
        · cases hs
          exact .inl rfl
      · cases hs
  | stopReading | readFailed | handlerReturn | handlerPanic | write | writeFail =>
      simp only [ServiceJsonl.jsonlStep] at hs
      split at hs
      · cases hs
        exact .inl rfl
      · cases hs

theorem LinesOnce.preserved {cfg : ServiceJsonl.JsonlCfg} {l l' : ServiceJsonl.JsonlLink}
    {e : ServiceJsonl.JsonlLinkEvent} (h : LinesOnce l) (hs : ServiceJsonl.step cfg l e = some l') :
    LinesOnce l' := by
  cases ServiceJsonl.step_move hs with
  | client | receive => exact ⟨h.nodup, h.read⟩
  | server _ se srv hread hse =>
      rcases jsonlStep_invoked hse with heq | ⟨req, bytes, rfl, -⟩
      · exact ⟨heq ▸ h.nodup, heq ▸ h.read⟩
      · exact nomatch hread
  | readLine o line srv _ hse =>
      have hlt : ∀ r ∈ l.srv.invoked, r < l.readPos + 1 := fun r hr =>
        Nat.lt_succ_of_lt (h.read r hr)
      rcases jsonlStep_invoked hse with heq | ⟨req, bytes, he, heq⟩
      · exact ⟨heq ▸ h.nodup, heq ▸ hlt⟩
      · cases he
        refine ⟨?_, ?_⟩
        · show srv.invoked.Nodup
          rw [heq]
          refine List.nodup_append.mpr ⟨h.nodup, List.nodup_singleton _, ?_⟩
          intro a ha b hb hab
          have := h.read a ha
          rw [hab, List.mem_singleton.mp hb] at this
          exact absurd this (Nat.lt_irrefl _)
        · intro r hr
          have hr' : r ∈ l.srv.invoked ++ [l.readPos] := heq ▸ hr
          rcases List.mem_append.mp hr' with hr' | hr'
          · exact hlt r hr'
          · rw [List.mem_singleton.mp hr']
            exact Nat.lt_succ_self _

/-- The invariant of a connection. -/
def ConnInv (cfg : ClientCfg) : Conn → Prop
  | .binary l => ServiceLink.LinkInv cfg.binary l ∧ InvokedOnce l.srv
  | .jsonl l => SessionInv cfg.jsonl.client l.sess ∧ LinesOnce l

theorem connInv_fresh (cfg : ClientCfg) : ConnInv cfg (.fresh cfg) := by
  simp only [Conn.fresh]
  split
  · exact ⟨ServiceLink.linkInv_start _, invokedOnce_start _⟩
  · exact ⟨sessionInv_fromStream _, List.nodup_nil, by intro r h; exact nomatch h⟩

/-- What the server of a binary connection does is a step of its own. -/
theorem InvokedOnce.link {cfg : ServiceLink.LinkCfg} {l l' : ServiceLink.Link}
    {e : ServiceLink.LinkEvent} (htag : ServiceServer.Tagged l.srv) (h : InvokedOnce l.srv)
    (hs : ServiceLink.step cfg l e = some l') : InvokedOnce l'.srv := by
  cases ServiceLink.step_move hs with
  | client | receive => exact h
  | server _ _ _ _ hse | header _ _ _ _ _ _ _ hse | payload _ _ _ _ _ _ _ hse =>
      exact h.preserved htag hse

theorem ConnInv.preserved {cfg : ClientCfg} {c c' : Conn} {e : ConnEvent} (h : ConnInv cfg c)
    (hs : c.step cfg e = some c') : ConnInv cfg c' := by
  cases c with
  | binary l =>
      cases e with
      | jsonl => exact nomatch hs
      | binary e =>
          obtain ⟨l', hl', rfl⟩ := Option.map_eq_some_iff.mp hs
          exact ⟨h.1.preserved hl', h.2.link h.1.tagged hl'⟩
  | jsonl l =>
      cases e with
      | binary => exact nomatch hs
      | jsonl e =>
          obtain ⟨l', hl', rfl⟩ := Option.map_eq_some_iff.mp hs
          refine ⟨?_, h.2.preserved hl'⟩
          cases ServiceJsonl.step_move hl' with
          | client _ _ _ _ _ hce | receive _ _ _ _ _ hce => exact h.1.preserved hce
          | server | readLine => exact h.1

/-- The handler runs at most once for a session call, and only when its request
    was written. -/
theorem ConnInv.handlerCalls_le_one {cfg : ClientCfg} {c : Conn} (h : ConnInv cfg c) (i : Nat) :
    c.handlerCalls i ≤ 1 ∧
      (0 < c.handlerCalls i → ∃ requestId bytes, .request i requestId bytes ∈ c.sess.outbox) := by
  -- an output of call `i` is its request
  have hmem : ∀ {s : Session}, i ∈ s.outbox.filterMap Outgoing.call? →
      ∃ requestId bytes, .request i requestId bytes ∈ s.outbox := by
    intro s hi
    obtain ⟨o, ho, hcall⟩ := List.mem_filterMap.mp hi
    cases o with
    | cancel => exact nomatch hcall
    | request j requestId bytes =>
        cases hcall
        exact ⟨requestId, bytes, ho⟩
  cases c with
  | binary l =>
      refine ⟨countP_le_one h.2.nodup ?_, ?_⟩
      · intro a _ b _ ha hb
        have ha := of_decide_eq_true ha
        have hb := of_decide_eq_true hb
        exact (List.getElem?_inj (lt_length_of_getElem? ha) h.1.sess.booked.once).mp
          (ha.trans hb.symm)
      · intro hpos
        obtain ⟨r, -, hr⟩ := List.countP_pos_iff.mp hpos
        exact hmem (List.mem_of_getElem? (of_decide_eq_true hr))
  | jsonl l =>
      refine ⟨countP_le_one h.2.nodup ?_, ?_⟩
      · intro a _ b _ ha hb
        obtain ⟨o, ho, hcall⟩ := Option.bind_eq_some_iff.mp (of_decide_eq_true ha)
        obtain ⟨o', ho', hcall'⟩ := Option.bind_eq_some_iff.mp (of_decide_eq_true hb)
        exact filterMap_inj h.1.booked.once ho ho' hcall hcall'
      · intro hpos
        obtain ⟨r, -, hr⟩ := List.countP_pos_iff.mp hpos
        obtain ⟨o, ho, hcall⟩ := Option.bind_eq_some_iff.mp (of_decide_eq_true hr)
        exact hmem (List.mem_filterMap.mpr ⟨o, List.mem_of_getElem? ho, hcall⟩)

/-! ## What a session call has returned stays -/

/-- The result of a call that has returned. -/
def resultOf (c : Call) : Option (Except IpcError ControlResponse) :=
  match c.phase with
  | .done result => some result
  | _ => none

theorem resultOf_eq_some {c : Call} {result : Except IpcError ControlResponse} :
    resultOf c = some result ↔ c.phase = .done result := by
  simp only [resultOf]
  split
  · rename_i r h
    rw [h]
    exact ⟨fun hr => congrArg _ (Option.some.inj hr), fun hr => congrArg _ (CallPhase.done.inj hr)⟩
  · rename_i h
    exact ⟨nofun, fun hr => absurd hr (h result)⟩

/-- The result of session call `i`. -/
def sessionResult (s : Session) (i : Nat) : Option (Except IpcError ControlResponse) :=
  (s.calls[i]?).bind resultOf

theorem sessionResult_kept {cfg : SessionCfg} {s s' : Session} {e : SessionEvent}
    (hs : ServiceSession.step cfg s e = some s') {i : Nat}
    {result : Except IpcError ControlResponse} (h : sessionResult s i = some result) :
    sessionResult s' i = some result := by
  obtain ⟨c, hc, hres⟩ := Option.bind_eq_some_iff.mp h
  have hp := resultOf_eq_some.mp hres
  have hlt := Nat.lt_of_lt_of_le (lt_length_of_getElem? hc) (ServiceSession.step_length hs)
  have hu := List.getElem?_eq_getElem hlt
  refine Option.bind_eq_some_iff.mpr ⟨_, hu, resultOf_eq_some.mpr ?_⟩
  cases ServiceSession.step_origin hs hu with
  | same c' _ hc' _ _ hph _ =>
      rw [hc] at hc'
      cases hc'
      exact hph.trans hp
  | moved c' ce _ hc' _ _ hstep _ =>
      -- a call that has returned does not move
      rw [hc] at hc'
      cases hc'
      generalize s'.calls[i].phase = p at hstep
      cases hstep with
      | refused h | opened h | allocated h | invalid h | overLimit _ h | admitted h | registered h
      | encodeFail _ h | encoded _ _ h | writing _ h | awaiting _ h | failed _ _ _ h | gaveUp _ h
      | received _ h | expired h | cancelling _ h | timedOut _ h => exact nomatch hp.symm.trans h
  | fresh hi => exact absurd (lt_length_of_getElem? hc) (by omega)

theorem Conn.step_result {cfg : ClientCfg} {c c' : Conn} {e : ConnEvent}
    (hs : c.step cfg e = some c') {i : Nat} {result : Except IpcError ControlResponse}
    (h : sessionResult c.sess i = some result) : sessionResult c'.sess i = some result := by
  cases c with
  | binary l =>
      cases e with
      | jsonl => exact nomatch hs
      | binary e =>
          obtain ⟨l', hl', rfl⟩ := Option.map_eq_some_iff.mp hs
          cases ServiceLink.step_move hl' with
          | client _ _ _ _ hce | receive _ _ _ _ _ _ _ hce => exact sessionResult_kept hce h
          | server | header | payload => exact h
  | jsonl l =>
      cases e with
      | binary => exact nomatch hs
      | jsonl e =>
          obtain ⟨l', hl', rfl⟩ := Option.map_eq_some_iff.mp hs
          cases ServiceJsonl.step_move hl' with
          | client _ _ _ _ _ hce | receive _ _ _ _ _ hce => exact sessionResult_kept hce h
          | server | readLine => exact h

theorem Conn.stepOwner_step {cfg : ClientCfg} {c c' : Conn} {e : SessionEvent}
    (hs : c.stepOwner cfg e = some c') : ∃ ce, c.step cfg ce = some c' := by
  cases c with
  | binary l => exact ⟨.binary (.client e), hs⟩
  | jsonl l => exact ⟨.jsonl (.client e), hs⟩

/-! ## The client -/

/-- Where a `ControlClient::send` call stands; `retry` on the second attempt. -/
inductive ClientPhase where
  /-- waits for the mutex in `connect` -/
  | connecting (retry : Bool)
  /-- holds the mutex, inside `ControlSession::connect` -/
  | opening (retry : Bool)
  /-- `connect` has returned; waits for the mutex in `send_with_session` -/
  | connected (retry : Bool)
  /-- holds the mutex, inside `session.send` -/
  | sending (retry : Bool) (conn call : Nat)
  /-- the first attempt failed; waits for the mutex to drop the session -/
  | resetting
  | done (result : Except IpcError ControlResponse)
  /-- the session was dropped between the two locks -/
  | panicked

/-- A `ControlClient::send` call; `attempts` is a history of its `session.send`
    calls, by connection and session call. -/
structure ClientCall where
  request : ControlRequest
  phase : ClientPhase
  attempts : List (Nat × Nat)

/-- The state of a client with all its connections. -/
structure Client where
  conns : List Conn
  session : Option Nat
  holder : Option Nat
  calls : List ClientCall

/-- `ControlClient::new`. -/
def Client.new : Client := ⟨[], none, none, []⟩

/-- The steps of a `ControlClient::send` call. -/
inductive SendEvent where
  | lockConnect
  | connectOk
  | connectFail (error : IpcError)
  | lockSend
  | returned
  | lockReset

/-- The steps of a client. -/
inductive ClientEvent where
  /-- a caller calls `send` -/
  | send (request : ControlRequest)
  | call (j : Nat) (e : SendEvent)
  /-- a caller calls `connect` -/
  | connect
  /-- a caller calls `close` -/
  | close
  /-- connection `k` moves on its own -/
  | conn (k : Nat) (e : ConnEvent)

/-- The errors after which `send` reconnects. -/
def retryable : IpcError → Bool
  | .closed | .io _ => true
  | _ => false

/-- What `send` does with the result of an attempt. -/
def afterAttempt (retry : Bool) : Except IpcError ControlResponse → ClientPhase
  | .ok response => .done (.ok response)
  | .error error => if !retry && retryable error then .resetting else .done (.error error)

namespace Client

/-- Move call `j` to another phase. -/
def setPhase (w : Client) (j : Nat) (phase : ClientPhase) : Client :=
  { w with calls := w.calls.modify j fun c => { c with phase := phase } }

/-- The result of an attempt. -/
def result (w : Client) (a : Nat × Nat) : Option (Except IpcError ControlResponse) :=
  (w.conns[a.1]?).bind fun conn => sessionResult conn.sess a.2

/-- How often a handler was called for an attempt. -/
def handlerCalls (w : Client) (a : Nat × Nat) : Nat :=
  match w.conns[a.1]? with
  | none => 0
  | some conn => conn.handlerCalls a.2

/-- How often a handler was called for a call of the client. -/
def handled (w : Client) (c : ClientCall) : Nat := (c.attempts.map w.handlerCalls).sum

end Client

/-- One step of call `j`, which is `c`. -/
def sendStep (cfg : ClientCfg) (w : Client) (j : Nat) (c : ClientCall) :
    SendEvent → Option Client
  | .lockConnect =>
      match c.phase, w.holder with
      | .connecting retry, none =>
          match w.session with
          | some _ => some (w.setPhase j (.connected retry))
          | none => some { w.setPhase j (.opening retry) with holder := some j }
      | _, _ => none
  | .connectOk =>
      match c.phase with
      | .opening retry =>
          some { w.setPhase j (.connected retry) with
            conns := w.conns ++ [.fresh cfg]
            session := some w.conns.length
            holder := none }
      | _ => none
  | .connectFail error =>
      match c.phase with
      | .opening retry =>
          some { w.setPhase j (afterAttempt retry (.error error)) with holder := none }
      | _ => none
  | .lockSend =>
      match c.phase, w.holder with
      | .connected retry, none =>
          match w.session with
          | none => some (w.setPhase j .panicked)
          | some k =>
              match w.conns[k]? with
              | none => none
              | some conn =>
                  (conn.stepOwner cfg (.send c.request)).map fun conn' =>
                    { w with
                      conns := w.conns.set k conn'
                      holder := some j
                      calls := w.calls.modify j fun c =>
                        { c with
                          phase := .sending retry k conn.sess.calls.length
                          attempts := c.attempts ++ [(k, conn.sess.calls.length)] } }
      | _, _ => none
  | .returned =>
      match c.phase with
      | .sending retry k i =>
          match w.result (k, i) with
          | none => none
          | some result => some { w.setPhase j (afterAttempt retry result) with holder := none }
      | _ => none
  | .lockReset =>
      match c.phase, w.holder with
      | .resetting, none => some { w.setPhase j (.connecting true) with session := none }
      | _, _ => none

/-- One step of the client. -/
def step (cfg : ClientCfg) (w : Client) : ClientEvent → Option Client
  | .send request => some { w with calls := w.calls ++ [⟨request, .connecting false, []⟩] }
  | .call j e =>
      match w.calls[j]? with
      | none => none
      | some c => sendStep cfg w j c e
  | .connect =>
      match w.holder, w.session with
      | none, none =>
          some { w with conns := w.conns ++ [.fresh cfg], session := some w.conns.length }
      | _, _ => none
  | .close =>
      match w.holder, w.session with
      | none, some k =>
          match w.conns[k]? with
          | none => none
          | some conn =>
              (conn.stepOwner cfg .close).map fun conn' =>
                { w with conns := w.conns.set k conn', session := none }
      | _, _ => none
  | .conn k e =>
      if e.isOwners then none
      else match w.conns[k]? with
        | none => none
        | some conn => (conn.step cfg e).map fun conn' => { w with conns := w.conns.set k conn' }

/-! ## What a step can do -/

/-- The transitions of call `j`. -/
inductive SendMove (cfg : ClientCfg) (w : Client) (j : Nat) (c : ClientCall) :
    SendEvent → Client → Prop where
  | reuse (retry : Bool) (k : Nat) : c.phase = .connecting retry → w.holder = none →
      w.session = some k → SendMove cfg w j c .lockConnect (w.setPhase j (.connected retry))
  | opening (retry : Bool) : c.phase = .connecting retry → w.holder = none → w.session = none →
      SendMove cfg w j c .lockConnect { w.setPhase j (.opening retry) with holder := some j }
  | connectOk (retry : Bool) : c.phase = .opening retry →
      SendMove cfg w j c .connectOk
        { w.setPhase j (.connected retry) with
          conns := w.conns ++ [.fresh cfg]
          session := some w.conns.length
          holder := none }
  | connectFail (retry : Bool) (error : IpcError) : c.phase = .opening retry →
      SendMove cfg w j c (.connectFail error)
        { w.setPhase j (afterAttempt retry (.error error)) with holder := none }
  | panic (retry : Bool) : c.phase = .connected retry → w.holder = none → w.session = none →
      SendMove cfg w j c .lockSend (w.setPhase j .panicked)
  | send (retry : Bool) (k : Nat) (conn conn' : Conn) : c.phase = .connected retry →
      w.holder = none → w.session = some k → w.conns[k]? = some conn →
      conn.stepOwner cfg (.send c.request) = some conn' →
      SendMove cfg w j c .lockSend
        { w with
          conns := w.conns.set k conn'
          holder := some j
          calls := w.calls.modify j fun c =>
            { c with
              phase := .sending retry k conn.sess.calls.length
              attempts := c.attempts ++ [(k, conn.sess.calls.length)] } }
  | returned (retry : Bool) (k i : Nat) (result : Except IpcError ControlResponse) :
      c.phase = .sending retry k i → w.result (k, i) = some result →
      SendMove cfg w j c .returned
        { w.setPhase j (afterAttempt retry result) with holder := none }
  | reset : c.phase = .resetting → w.holder = none →
      SendMove cfg w j c .lockReset { w.setPhase j (.connecting true) with session := none }

theorem sendStep_move {cfg : ClientCfg} {w w' : Client} {j : Nat} {c : ClientCall} {e : SendEvent}
    (h : sendStep cfg w j c e = some w') : SendMove cfg w j c e w' := by
  cases e with
  | lockConnect =>
      simp only [sendStep] at h
      split at h
      · rename_i retry hp hh
        split at h
        · rename_i k hk
          cases h
          exact .reuse retry k hp hh hk
        · rename_i hk
          cases h
          exact .opening retry hp hh hk
      · exact nomatch h
  | connectOk =>
      simp only [sendStep] at h
      split at h
      · rename_i retry hp
        cases h
        exact .connectOk retry hp
      · exact nomatch h
  | connectFail error =>
      simp only [sendStep] at h
      split at h
      · rename_i retry hp
        cases h
        exact .connectFail retry error hp
      · exact nomatch h
  | lockSend =>
      simp only [sendStep] at h
      split at h
      · rename_i retry hp hh
        split at h
        · rename_i hk
          cases h
          exact .panic retry hp hh hk
        · rename_i k hk
          split at h
          · exact nomatch h
          · rename_i conn hconn
            obtain ⟨conn', hs, rfl⟩ := Option.map_eq_some_iff.mp h
            exact .send retry k conn conn' hp hh hk hconn hs
      · exact nomatch h
  | returned =>
      simp only [sendStep] at h
      split at h
      · rename_i retry k i hp
        split at h
        · exact nomatch h
        · rename_i result hr
          cases h
          exact .returned retry k i result hp hr
      · exact nomatch h
  | lockReset =>
      simp only [sendStep] at h
      split at h
      · rename_i hp hh
        cases h
        exact .reset hp hh
      · exact nomatch h

/-- What a step does to the connections. -/
inductive ConnsMove (cfg : ClientCfg) (w w' : Client) : Prop where
  | keep : w'.conns = w.conns → ConnsMove cfg w w'
  | opened : w'.conns = w.conns ++ [.fresh cfg] → ConnsMove cfg w w'
  | moved (k : Nat) (conn conn' : Conn) (ce : ConnEvent) : w.conns[k]? = some conn →
      conn.step cfg ce = some conn' → w'.conns = w.conns.set k conn' → ConnsMove cfg w w'

theorem step_conns {cfg : ClientCfg} {w w' : Client} {e : ClientEvent}
    (h : step cfg w e = some w') : ConnsMove cfg w w' := by
  cases e with
  | send request =>
      cases h
      exact .keep rfl
  | call j e =>
      simp only [step] at h
      split at h
      · exact nomatch h
      · cases sendStep_move h with
        | reuse | opening | connectFail | panic | returned | reset => exact .keep rfl
        | connectOk => exact .opened rfl
        | send retry k conn conn' _ _ _ hconn hs =>
            obtain ⟨ce, hce⟩ := Conn.stepOwner_step hs
            exact .moved k conn conn' ce hconn hce rfl
  | connect =>
      simp only [step] at h
      split at h
      · cases h
        exact .opened rfl
      · exact nomatch h
  | close =>
      simp only [step] at h
      split at h
      · rename_i k _ _
        split at h
        · exact nomatch h
        · rename_i conn hconn
          obtain ⟨conn', hs, rfl⟩ := Option.map_eq_some_iff.mp h
          obtain ⟨ce, hce⟩ := Conn.stepOwner_step hs
          exact .moved k conn conn' ce hconn hce rfl
      · exact nomatch h
  | conn k e =>
      simp only [step] at h
      split at h
      · exact nomatch h
      · split at h
        · exact nomatch h
        · rename_i conn hconn
          obtain ⟨conn', hs, rfl⟩ := Option.map_eq_some_iff.mp h
          exact .moved k conn conn' e hconn hs rfl

/-- The invariant of every connection. -/
def ConnsInv (cfg : ClientCfg) (w : Client) : Prop :=
  ∀ (k : Nat) (conn : Conn), w.conns[k]? = some conn → ConnInv cfg conn

theorem ConnsInv.preserved {cfg : ClientCfg} {w w' : Client} {e : ClientEvent}
    (h : ConnsInv cfg w) (hs : step cfg w e = some w') : ConnsInv cfg w' := by
  intro k conn hk
  cases step_conns hs with
  | keep heq => exact h k conn (heq ▸ hk)
  | opened heq =>
      rw [heq] at hk
      rcases getElem?_concat_inv hk with hk | ⟨-, rfl⟩
      · exact h k conn hk
      · exact connInv_fresh cfg
  | moved k' old new ce hold hce heq =>
      rw [heq, List.getElem?_set] at hk
      split at hk
      · split at hk
        · cases hk
          exact (h k' old hold).preserved hce
        · exact nomatch hk
      · exact h k conn hk

/-- What an attempt has returned stays. -/
theorem result_kept {cfg : ClientCfg} {w w' : Client} {e : ClientEvent}
    (hs : step cfg w e = some w') {a : Nat × Nat} {result : Except IpcError ControlResponse}
    (h : w.result a = some result) : w'.result a = some result := by
  obtain ⟨conn, hconn, hres⟩ := Option.bind_eq_some_iff.mp h
  refine Option.bind_eq_some_iff.mpr ?_
  cases step_conns hs with
  | keep heq => exact ⟨conn, heq ▸ hconn, hres⟩
  | opened heq => exact ⟨conn, heq ▸ getElem?_concat_of_some hconn, hres⟩
  | moved k old new ce hold hce heq =>
      rw [heq, List.getElem?_set]
      split
      · rename_i hk
        subst hk
        rw [hconn] at hold
        cases hold
        rw [if_pos (lt_length_of_getElem? hconn)]
        exact ⟨new, rfl, Conn.step_result hce hres⟩
      · exact ⟨conn, hconn, hres⟩

/-! ## The attempts of a call -/

/-- The attempt ended with an error after which `send` reconnects. -/
def Failed (w : Client) (a : Nat × Nat) : Prop :=
  ∃ error, retryable error = true ∧ w.result a = some (.error error)

/-- How many attempts a call can have made. -/
def ClientPhase.attemptBound : ClientPhase → Nat
  | .connecting retry | .opening retry | .connected retry => if retry then 1 else 0
  | .sending retry _ _ => if retry then 2 else 1
  | .resetting => 1
  | .done _ | .panicked => 2

theorem ClientPhase.attemptBound_le_two (p : ClientPhase) : p.attemptBound ≤ 2 := by
  simp only [ClientPhase.attemptBound]
  split
  · split <;> decide
  · split <;> decide
  · split <;> decide
  · split <;> decide
  · decide
  · exact Nat.le_refl _
  · exact Nat.le_refl _

/-- The first attempt is over, the second one not begun. -/
def ClientPhase.between : ClientPhase → Bool
  | .connecting retry | .opening retry | .connected retry => retry
  | .resetting => true
  | _ => false

/-- A call makes a second attempt after the first one failed. -/
structure Attempts (w : Client) (c : ClientCall) : Prop where
  bound : c.attempts.length ≤ c.phase.attemptBound
  between : c.phase.between = true → ∀ a ∈ c.attempts, Failed w a
  second : ∀ a b : Nat × Nat, c.attempts = [a, b] → Failed w a
  current : ∀ (retry : Bool) (k i : Nat), c.phase = .sending retry k i →
    ∃ before, c.attempts = before ++ [(k, i)]

theorem Failed.kept {cfg : ClientCfg} {w w' : Client} {e : ClientEvent}
    (hs : step cfg w e = some w') {a : Nat × Nat} (h : Failed w a) : Failed w' a := by
  obtain ⟨error, hretry, hres⟩ := h
  exact ⟨error, hretry, result_kept hs hres⟩

theorem Attempts.kept {cfg : ClientCfg} {w w' : Client} {e : ClientEvent}
    (hs : step cfg w e = some w') {c : ClientCall} (h : Attempts w c) : Attempts w' c where
  bound := h.bound
  between := fun hp a ha => (h.between hp a ha).kept hs
  second := fun a b hab => (h.second a b hab).kept hs
  current := h.current

/-- A call that moves on without a new attempt. -/
theorem Attempts.setPhase {w : Client} {c : ClientCall} {p : ClientPhase} (h : Attempts w c)
    (hbound : c.phase.attemptBound ≤ p.attemptBound)
    (hbetween : p.between = true → ∀ a ∈ c.attempts, Failed w a)
    (hcurrent : ∀ retry k i, p ≠ .sending retry k i) : Attempts w { c with phase := p } where
  bound := Nat.le_trans h.bound hbound
  between := hbetween
  second := h.second
  current := fun retry k i hp => absurd hp (hcurrent retry k i)

/-- A call whose attempt is over: it ends, or it failed and is tried again. -/
theorem Attempts.finish {w : Client} {c : ClientCall} (h : Attempts w c) {retry : Bool}
    {result : Except IpcError ControlResponse}
    (hbound : c.phase.attemptBound ≤ if retry then 2 else 1)
    (hfailed : retry = false → ∀ error, result = .error error → retryable error = true →
      ∀ a ∈ c.attempts, Failed w a) :
    Attempts w { c with phase := afterAttempt retry result } := by
  have hle : c.phase.attemptBound ≤ 2 := by
    cases retry <;> simp at hbound <;> omega
  simp only [afterAttempt]
  split
  · exact h.setPhase hle nofun nofun
  · rename_i error
    split
    · rename_i hcond
      rw [Bool.and_eq_true, Bool.not_eq_true'] at hcond
      obtain ⟨hretry, herror⟩ := hcond
      refine h.setPhase ?_ (fun _ => hfailed hretry error rfl herror) nofun
      rw [hretry] at hbound
      exact hbound
    · exact h.setPhase hle nofun nofun

theorem SendMove.attempts {cfg : ClientCfg} {w w' : Client} {j : Nat} {c u : ClientCall}
    {e : SendEvent} (m : SendMove cfg w j c e w') (hs : step cfg w (.call j e) = some w')
    (h : Attempts w c) (hc : w.calls[j]? = some c) (hu : w'.calls[j]? = some u) :
    Attempts w' u := by
  have hk := h.kept hs
  -- the call after a change of phase
  have hset : ∀ {p : ClientPhase} {v : ClientCall},
      (w.calls.modify j fun c => { c with phase := p })[j]? = some v →
      v = { c with phase := p } := by
    intro p v hv
    rw [getElem?_modify_self hc] at hv
    exact (Option.some.inj hv).symm
  cases m with
  | reuse retry k hp | opening retry hp | connectOk retry hp =>
      rw [hset hu]
      refine hk.setPhase (by rw [hp]; exact Nat.le_refl _) ?_ nofun
      intro hb
      exact hk.between (by rw [hp]; exact hb)
  | panic retry hp =>
      rw [hset hu]
      refine hk.setPhase ?_ nofun nofun
      rw [hp]
      cases retry <;> decide
  | reset hp =>
      rw [hset hu]
      exact hk.setPhase (by rw [hp]; exact Nat.le_refl _)
        (fun _ => hk.between (by rw [hp]; rfl)) nofun
  | connectFail retry error hp =>
      rw [hset hu]
      refine hk.finish ?_ ?_
      · rw [hp]
        cases retry <;> decide
      · -- the first attempt did not get as far as `session.send`
        intro hretry _ _ _ a ha
        have hlen := hk.bound
        rw [hp, hretry] at hlen
        rw [List.length_eq_zero_iff.mp (Nat.le_zero.mp hlen)] at ha
        exact nomatch ha
  | returned retry k i result hp hres =>
      rw [hset hu]
      refine hk.finish (by rw [hp]; exact Nat.le_refl _) ?_
      intro hretry error herr hretryable a ha
      -- the only attempt is the one that has just returned
      obtain ⟨before, hatt⟩ := hk.current retry k i hp
      have hlen := hk.bound
      rw [hp, hretry, hatt, List.length_append] at hlen
      have hnil : before = [] :=
        List.length_eq_zero_iff.mp (Nat.le_zero.mp (Nat.le_of_succ_le_succ hlen))
      rw [hatt, hnil, List.nil_append, List.mem_singleton] at ha
      rw [ha]
      exact ⟨error, hretryable, result_kept hs (herr ▸ hres)⟩
  | send retry k conn conn' hp _ _ _ _ =>
      have hu' := hu
      rw [getElem?_modify_self hc] at hu'
      cases hu'
      have hlen := hk.bound
      rw [hp] at hlen
      refine ⟨?_, nofun, ?_, ?_⟩
      · show (c.attempts ++ [(k, conn.sess.calls.length)]).length ≤ _
        rw [List.length_append]
        cases retry <;> simpa [ClientPhase.attemptBound] using hlen
      · intro a b hab
        -- what stands before the new attempt is the first one
        have hsplit : c.attempts ++ [(k, conn.sess.calls.length)] = [a] ++ [b] := hab
        have hfirst : c.attempts = [a] := (List.append_inj' hsplit rfl).1
        cases retry with
        | false =>
            rw [hfirst] at hlen
            exact absurd hlen (Nat.not_succ_le_zero 0)
        | true => exact hk.between (by rw [hp]; rfl) a (hfirst ▸ List.mem_singleton_self a)
      · rintro retry' k' i' ⟨⟩
        exact ⟨c.attempts, rfl⟩

/-- The invariant of every call. -/
def CallsInv (w : Client) : Prop :=
  ∀ (j : Nat) (c : ClientCall), w.calls[j]? = some c → Attempts w c

theorem CallsInv.preserved {cfg : ClientCfg} {w w' : Client} {e : ClientEvent} (h : CallsInv w)
    (hs : step cfg w e = some w') : CallsInv w' := by
  -- a step that leaves the calls alone
  have hsame : w'.calls = w.calls → CallsInv w' := by
    intro heq j c hc
    rw [heq] at hc
    exact (h j c hc).kept hs
  have hs' := hs
  cases e with
  | send request =>
      intro j c hc
      cases hs'
      rcases getElem?_concat_inv hc with hc | ⟨-, rfl⟩
      · exact (h j c hc).kept hs
      · exact ⟨Nat.le_refl _, nofun, nofun, nofun⟩
  | call i e =>
      simp only [step] at hs'
      split at hs'
      · exact nomatch hs'
      · rename_i c hc
        have m := sendStep_move hs'
        intro j u hu
        by_cases hij : i = j
        · subst hij
          exact m.attempts hs (h i c hc) hc hu
        · -- another call is left alone
          have hold : w.calls[j]? = some u := by
            cases m <;> exact (getElem?_modify_ne hij).symm.trans hu
          exact (h j u hold).kept hs
  | connect =>
      simp only [step] at hs'
      split at hs'
      · cases hs'
        exact hsame rfl
      · exact nomatch hs'
  | close =>
      simp only [step] at hs'
      split at hs'
      · split at hs'
        · exact nomatch hs'
        · obtain ⟨conn', -, rfl⟩ := Option.map_eq_some_iff.mp hs'
          exact hsame rfl
      · exact nomatch hs'
  | conn k e =>
      simp only [step] at hs'
      split at hs'
      · exact nomatch hs'
      · split at hs'
        · exact nomatch hs'
        · obtain ⟨conn', -, rfl⟩ := Option.map_eq_some_iff.mp hs'
          exact hsame rfl

/-! ## Once per attempt -/

/-- The request of the attempt was written to its connection. -/
def Wrote (w : Client) (a : Nat × Nat) : Prop :=
  ∃ conn requestId bytes, w.conns[a.1]? = some conn ∧
    .request a.2 requestId bytes ∈ conn.sess.outbox

theorem handlerCalls_le_one {cfg : ClientCfg} {w : Client} (h : ConnsInv cfg w) (a : Nat × Nat) :
    w.handlerCalls a ≤ 1 ∧ (0 < w.handlerCalls a → Wrote w a) := by
  simp only [Client.handlerCalls, Wrote]
  cases hk : w.conns[a.1]? with
  | none => exact ⟨Nat.zero_le _, nofun⟩
  | some conn =>
      obtain ⟨hle, hwrote⟩ := (h a.1 conn hk).handlerCalls_le_one a.2
      refine ⟨hle, ?_⟩
      intro hpos
      obtain ⟨requestId, bytes, hmem⟩ := hwrote hpos
      exact ⟨conn, requestId, bytes, rfl, hmem⟩

/-- **ONCE PER ATTEMPT**: a call makes at most two attempts, and the handler is
    called at most once for each.  It is called a second time only after the
    first attempt had written its request and returned `Closed` or `Io`. -/
theorem handled_at_most_twice {cfg : ClientCfg} {w : Client}
    (h : Reaches (step cfg) Free .new w) {j : Nat} {c : ClientCall}
    (hc : w.calls[j]? = some c) :
    c.attempts.length ≤ 2 ∧ (∀ a ∈ c.attempts, w.handlerCalls a ≤ 1) ∧ w.handled c ≤ 2 ∧
      (1 < w.handled c → ∃ a b, c.attempts = [a, b] ∧ Wrote w a ∧ Failed w a ∧ Wrote w b) := by
  have hinv : ConnsInv cfg w ∧ CallsInv w := by
    refine h.invariant (P := fun w => ConnsInv cfg w ∧ CallsInv w) ?_ ?_
    · exact ⟨(by intro k conn hk; exact nomatch hk), (by intro j c hc; exact nomatch hc)⟩
    · intro s e s' hinv _ hs
      exact ⟨hinv.1.preserved hs, hinv.2.preserved hs⟩
  have hatt := hinv.2 j c hc
  have hone := handlerCalls_le_one hinv.1
  have hlen : c.attempts.length ≤ 2 := Nat.le_trans hatt.bound c.phase.attemptBound_le_two
  refine ⟨hlen, fun a _ => (hone a).1, ?_⟩
  simp only [Client.handled]
  -- the attempts, one by one
  match hlist : c.attempts with
  | [] => exact ⟨Nat.zero_le _, fun hlt => absurd hlt (Nat.not_lt_zero 1)⟩
  | [a] =>
      have hle : ([a].map w.handlerCalls).sum ≤ 1 := by
        simpa using (hone a).1
      exact ⟨Nat.le_succ_of_le hle, fun hlt => absurd hlt (Nat.not_lt.mpr hle)⟩
  | [a, b] =>
      have ha := hone a
      have hb := hone b
      have hsum : ([a, b].map w.handlerCalls).sum = w.handlerCalls a + w.handlerCalls b := by
        simp
      rw [hsum]
      refine ⟨Nat.add_le_add ha.1 hb.1, ?_⟩
      intro hlt
      exact ⟨a, b, rfl, ha.2 (by omega), hatt.second a b hlist, hb.2 (by omega)⟩
  | _ :: _ :: _ :: _ =>
      rw [hlist] at hlen
      simp at hlen

/-! ## A connection lost behind the handler -/

/-- A client with the binary codec. -/
def sampleCfg : ClientCfg := ⟨.binary, ServiceLink.sampleCfg, ServiceJsonl.sampleCfg⟩

/-- Connection `k` takes binary steps. -/
def onConn (k : Nat) (es : List ServiceLink.LinkEvent) : List ClientEvent :=
  es.map fun e => .conn k (.binary e)

/-- A mutating request up to the return of its handler on connection `k`: the
    client connects and sends, the server reads the frame and dispatches it. -/
def reloadOn (k : Nat) : List ClientEvent :=
  [.call 0 .lockConnect, .call 0 .connectOk, .call 0 .lockSend] ++
    onConn k [.client (.call 0 .checkClosed), .client (.call 0 .allocate),
      .client (.call 0 .checkLimit), .client (.call 0 .register), .client (.call 0 .encode),
      .client (.call 0 .lockWriter), .client (.call 0 .write), .readHeader, .readPayload,
      .server (.loop .insertPending), .server (.task 0 .poll), .server (.task 0 .acquire),
      .server (.task 0 (.handlerReturn .emptyOk))]

/-- The connection ends before the response reaches the client. -/
def lost : List ServiceLink.LinkEvent :=
  [.client (.reader (.stop (.ok ()))), .client (.reader .markClosed), .client (.reader .drain),
    .client (.call 0 .receive)]

/-- A `plugin_reload` whose first connection is lost behind the handler. -/
def resentState : Client :=
  (run (step sampleCfg) Free .new
    ([.send ⟨"t", .pluginReload, .null⟩] ++ reloadOn 0 ++ onConn 0 lost ++
      [.call 0 .returned, .call 0 .lockReset] ++ reloadOn 1)).getD .new

theorem handled_at_most_twice_sample : Reaches (step sampleCfg) Free .new resentState ∧
    ∃ c, resentState.calls[0]? = some c ∧ c.attempts = [(0, 0), (1, 0)] ∧
      resentState.handled c ≤ 2 ∧ Failed resentState (0, 0) := by
  have hrun : Reaches (step sampleCfg) Free .new resentState := reaches_getD (by decide)
  obtain ⟨-, -, htwice, hagain⟩ := handled_at_most_twice hrun (j := 0) rfl
  obtain ⟨a, b, hab, -, hfailed, -⟩ := hagain (by decide)
  cases hab
  exact ⟨hrun, _, rfl, rfl, htwice, hfailed⟩

/-- **A MUTATING REQUEST RUNS TWICE**: the handler of a `plugin_reload` returns,
    the connection is lost before its response is written, and the client sends
    the request again. -/
theorem mutation_handled_twice : Reaches (step sampleCfg) Free .new resentState ∧
    ∃ c, resentState.calls[0]? = some c ∧ c.request.method.isMutating = true ∧
      resentState.handled c = 2 :=
  ⟨reaches_getD (by decide), _, rfl, rfl, by decide⟩

end ServiceClient
