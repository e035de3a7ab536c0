import MutsukiServiceHost.ServiceDecodeProofs
import MutsukiServiceHost.ServiceServerLogProofs
import MutsukiServiceHost.ServiceSessionLogProofs

/-! # A binary session and its server — who answers whom

    `ControlSession` with the binary codec on one end of a connection,
    `serve_binary` on the other.  Frames are written as a whole: what the
    session wrote is read by the server's loop frame by frame, what the server
    wrote is read by the session's reader frame by frame.  Both sides decode
    the bytes they read.

    The parties share nothing but the frames, so that a response reaches the
    call it was written for is a joint invariant: of `pending` on one side, the
    frames on their way in both directions, and the requests and tasks on the
    other. -/

namespace ServiceLink

open ServiceControl ServiceFrame ListUpdate Transition

/-- The two ends of a connection. -/
structure LinkCfg where
  limits : ControlIpcLimits
  msgpack : MsgPack
  json : Json
  server : ServiceServer.ServerCfg

/-- The session end. -/
def LinkCfg.client (cfg : LinkCfg) : ServiceSession.SessionCfg :=
  ⟨.binary, cfg.limits, cfg.msgpack, cfg.json⟩

/-- A connection: both ends, how many frames of the session the server has
    read, how many frames of the server the reader has read, and which of them
    went to which call. -/
structure Link where
  sess : ServiceSession.Session
  srv : ServiceServer.ServerConn
  readPos : Nat
  consumed : Nat
  deliveries : List (Nat × Nat)

/-- A fresh connection. -/
def Link.start (cfg : LinkCfg) : Link where
  sess := .fromStream
  srv := .start cfg.server
  readPos := 0
  consumed := 0
  deliveries := []

/-- The steps of a connection. -/
inductive LinkEvent where
  /-- a step of the session, the reader's reads excepted -/
  | client (e : ServiceSession.SessionEvent)
  /-- a step of the server that neither reads nor writes the connection -/
  | server (e : ServiceServer.ServerEvent)
  /-- the server's loop reads the next header -/
  | readHeader
  /-- the server's loop reads the payload -/
  | readPayload
  /-- task `i` writes its frame -/
  | respond (i : Nat)
  /-- the server's loop writes its frame -/
  | reject
  /-- the session's reader reads the next frame -/
  | receive

/-- The server reads from the connection or writes to it. -/
def isWire : ServiceServer.ServerEvent → Bool
  | .loop (.header _ _) | .loop (.payload _) | .loop (.rejectWrite _) | .task _ (.write _) => true
  | _ => false

/-- The header of the frame the loop is reading. -/
def incoming : ServiceServer.LoopPhase → Option (Nat × FrameHeader)
  | .discarding declared header _ => some (declared, header)
  | .reading declared header => some (declared, header)
  | _ => none

/-- How many bytes the holder of a frame has left to write. -/
def restOfTask : ServiceServer.TaskPhase → Option Nat
  | .writing _ frame written => some (frame.length - written)
  | _ => none

/-- The same for the loop. -/
def restOfLoop : ServiceServer.LoopPhase → Option Nat
  | .rejectWriting _ _ frame written => some (frame.length - written)
  | _ => none

/-- The call a frame is delivered to. -/
def recipient (cfg : LinkCfg) (s : ServiceSession.Session) (header : FrameHeader)
    (payload : List UInt8) : Option Nat :=
  if header.flags.contains .response ∧
      (cfg.msgpack.unpackResponse cfg.limits.maxMsgpackNestingDepth payload).isOk = true then
    s.pending.lookup header.requestId
  else none

namespace Link

/-- The server takes a step. -/
def stepServer (cfg : LinkCfg) (l : Link) (e : ServiceServer.ServerEvent) : Option Link :=
  (ServiceServer.step cfg.server l.srv e).map fun srv => { l with srv := srv }

/-- The session takes a step. -/
def stepClient (cfg : LinkCfg) (l : Link) (e : ServiceSession.SessionEvent) : Option Link :=
  (ServiceSession.step cfg.client l.sess e).map fun sess => { l with sess := sess }

end Link

/-- One step of the connection. -/
def step (cfg : LinkCfg) (l : Link) : LinkEvent → Option Link
  | .client e => if e.isRead then none else l.stepClient cfg e
  | .server e => if isWire e then none else l.stepServer cfg e
  | .readHeader =>
      match l.sess.outbox[l.readPos]? with
      | none => none
      | some o =>
          match readFramePrefix cfg.server.limits o.bytes with
          | .ok none => none
          | .ok (some (declared, header, _)) => l.stepServer cfg (.loop (.header declared header))
          | .error error => l.stepServer cfg (.loop (.headerFailed error))
  | .readPayload =>
      match l.sess.outbox[l.readPos]?, incoming l.srv.loop with
      | some o, some (declared, header) =>
          match readPayloadOrDiscard declared header (o.bytes.drop 28) with
          | .ok (payload, _) =>
              (l.stepServer cfg (.loop (.payload payload))).map fun l' =>
                { l' with readPos := l.readPos + 1 }
          | .error error => l.stepServer cfg (.loop (.payloadFailed error))
      | _, _ => none
  | .respond i =>
      match (l.srv.tasks[i]?).bind fun t => restOfTask t.phase with
      | some n => l.stepServer cfg (.task i (.write n))
      | none => none
  | .reject =>
      match restOfLoop l.srv.loop with
      | some n => l.stepServer cfg (.loop (.rejectWrite n))
      | none => none
  | .receive =>
      match l.srv.replies[l.consumed]? with
      | none => none
      | some p =>
          match readBinaryFrameInto cfg.limits p.frame with
          | .ok none => none
          | .ok (some (header, payload, _)) =>
              (l.stepClient cfg (.reader (.frame header payload))).map fun l' =>
                { l' with
                  consumed := l.consumed + 1
                  deliveries := match recipient cfg l.sess header payload with
                    | some j => l.deliveries ++ [(l.consumed, j)]
                    | none => l.deliveries }
          | .error error =>
              (l.stepClient cfg (.reader (.stop (.error error)))).map fun l' =>
                { l' with consumed := l.consumed + 1 }

/-! ## What a step can do -/

/-- The moves of a connection, as moves of its ends. -/
inductive LinkMove (cfg : LinkCfg) (l : Link) : Link → Prop where
  /-- the session moves on its own -/
  | client (e : ServiceSession.SessionEvent) (sess : ServiceSession.Session) (consumed : Nat) :
      e.isRead = false → ServiceSession.step cfg.client l.sess e = some sess →
      l.consumed ≤ consumed → LinkMove cfg l { l with sess := sess, consumed := consumed }
  /-- the server moves on its own or writes -/
  | server (e : ServiceServer.ServerEvent) (srv : ServiceServer.ServerConn) :
      (∀ declared header, e ≠ .loop (.header declared header)) →
      (∀ payload, e ≠ .loop (.payload payload)) →
      ServiceServer.step cfg.server l.srv e = some srv → LinkMove cfg l { l with srv := srv }
  | header (o : ServiceSession.Outgoing) (declared : Nat) (header : FrameHeader)
      (rest : List UInt8) (srv : ServiceServer.ServerConn) :
      l.sess.outbox[l.readPos]? = some o →
      readFramePrefix cfg.server.limits o.bytes = .ok (some (declared, header, rest)) →
      ServiceServer.step cfg.server l.srv (.loop (.header declared header)) = some srv →
      LinkMove cfg l { l with srv := srv }
  | payload (o : ServiceSession.Outgoing) (declared : Nat) (header : FrameHeader)
      (payload : List UInt8) (srv : ServiceServer.ServerConn) :
      l.sess.outbox[l.readPos]? = some o → incoming l.srv.loop = some (declared, header) →
      ServiceServer.step cfg.server l.srv (.loop (.payload payload)) = some srv →
      LinkMove cfg l { l with srv := srv, readPos := l.readPos + 1 }
  | receive (p : ServiceServer.Reply) (header : FrameHeader) (payload rest : List UInt8)
      (sess : ServiceSession.Session) : l.srv.replies[l.consumed]? = some p →
      readBinaryFrameInto cfg.limits p.frame = .ok (some (header, payload, rest)) →
      ServiceSession.step cfg.client l.sess (.reader (.frame header payload)) = some sess →
      LinkMove cfg l
        { l with
          sess := sess
          consumed := l.consumed + 1
          deliveries := match recipient cfg l.sess header payload with
            | some j => l.deliveries ++ [(l.consumed, j)]
            | none => l.deliveries }

theorem step_move {cfg : LinkCfg} {l l' : Link} {e : LinkEvent} (h : step cfg l e = some l') :
    LinkMove cfg l l' := by
  -- a step of the server that is not a read
  have hsrv : ∀ e, (∀ declared header, e ≠ .loop (.header declared header)) →
      (∀ payload, e ≠ .loop (.payload payload)) → l.stepServer cfg e = some l' →
      LinkMove cfg l l' := by
    intro e h₁ h₂ hs
    obtain ⟨srv, hsrv, rfl⟩ := Option.map_eq_some_iff.mp hs
    exact .server e srv h₁ h₂ hsrv
  cases e with
  | client e =>
      simp only [step] at h
      split at h
      · exact nomatch h
      · rename_i hr
        obtain ⟨sess, hsess, rfl⟩ := Option.map_eq_some_iff.mp h
        exact .client e sess l.consumed (by simpa using hr) hsess (Nat.le_refl _)
  | server e =>
      simp only [step] at h
      split at h
      · exact nomatch h
      · rename_i hw
        refine hsrv e ?_ ?_ h
        · rintro declared header rfl
          exact hw rfl
        · rintro payload rfl
          exact hw rfl
  | readHeader =>
      simp only [step] at h
      split at h
      · exact nomatch h
      · rename_i o ho
        split at h
        · exact nomatch h
        · rename_i declared header rest hread
          obtain ⟨srv, hs, rfl⟩ := Option.map_eq_some_iff.mp h
          exact .header o declared header rest srv ho hread hs
        · rename_i error _
          exact hsrv (.loop (.headerFailed error)) nofun nofun h
  | readPayload =>
      simp only [step] at h
      split at h
      · rename_i o declared header ho hin
        split at h
        · obtain ⟨l₁, hl₁, rfl⟩ := Option.map_eq_some_iff.mp h
          obtain ⟨srv, hs, rfl⟩ := Option.map_eq_some_iff.mp hl₁
          exact .payload o declared header _ srv ho hin hs
        · rename_i error _
          exact hsrv (.loop (.payloadFailed error)) nofun nofun h
      · exact nomatch h
  | respond i =>
      simp only [step] at h
      split at h
      · rename_i n _
        exact hsrv (.task i (.write n)) nofun nofun h
      · exact nomatch h
  | reject =>
      simp only [step] at h
      split at h
      · rename_i n _
        exact hsrv (.loop (.rejectWrite n)) nofun nofun h
      · exact nomatch h
  | receive =>
      simp only [step] at h
      split at h
      · exact nomatch h
      · rename_i p hp
        split at h
        · exact nomatch h
        · rename_i header payload rest hread
          obtain ⟨l₁, hl₁, rfl⟩ := Option.map_eq_some_iff.mp h
          obtain ⟨sess, hs, rfl⟩ := Option.map_eq_some_iff.mp hl₁
          exact .receive p header payload rest sess hp hread hs
        · obtain ⟨l₁, hl₁, rfl⟩ := Option.map_eq_some_iff.mp h
          obtain ⟨sess, hs, rfl⟩ := Option.map_eq_some_iff.mp hl₁
          exact .client _ sess _ rfl hs (Nat.le_succ _)

/-! ## Requests on the server are requests of the session -/

/-- The id of a written request. -/
def sentId : ServiceSession.Outgoing → Option Nat
  | .request _ requestId _ => some requestId
  | .cancel _ _ => none

/-- What the server has answered starts with what it had answered. -/
theorem replies_extend {cfg : ServiceServer.ServerCfg} {s s' : ServiceServer.ServerConn}
    {e : ServiceServer.ServerEvent} (h : ServiceServer.step cfg s e = some s') :
    ∃ more, s'.replies = s.replies ++ more := by
  have hif : ∀ (c : Prop) [Decidable c] (q : ServiceServer.Reply),
      ∃ more, (if c then s.replies ++ [q] else s.replies) = s.replies ++ more := by
    intro c _ q
    split
    · exact ⟨[q], rfl⟩
    · exact ⟨[], (List.append_nil _).symm⟩
  cases ServiceServer.step_replies h with
  | keep _ _ hrep => exact ⟨[], by rw [hrep, List.append_nil]⟩
  | task _ _ _ _ _ _ _ _ _ _ _ hrep =>
      rw [hrep]
      exact hif _ _
  | loop _ _ _ _ _ _ _ _ _ _ hrep =>
      rw [hrep]
      exact hif _ _

/-- Request ids of the log stay, unless a payload is read. -/
theorem requestIds_kept {cfg : ServiceServer.ServerCfg} {s s' : ServiceServer.ServerConn}
    {e : ServiceServer.ServerEvent} (h : ServiceServer.step cfg s e = some s')
    (he : ∀ payload, e ≠ .loop (.payload payload)) :
    s'.requests.map ServiceServer.RequestLog.requestId
      = s.requests.map ServiceServer.RequestLog.requestId := by
  rcases ServiceServer.step_move h with ⟨le, rfl, m⟩ | ⟨i, t, te, rfl, ht, m⟩
  · cases m with
    | beginDrain | stopReading | headerFailed | toDiscarding | toReading | toCancelling
    | notRequest | discardFailed | readFailed | cancelMiss | cancelHit | rejectLock | rejectWrite
    | drainSweep => rfl
    | insert => rw [ServiceServer.requests_removePending]
    | abandon _ bytes | reject _ bytes | spawn _ _ bytes => exact absurd rfl (he bytes)
    | rejectFlush | rejectFail => exact map_modify fun _ => rfl
  · rw [(ServiceServer.taskMove_loop m).2]

/-- A loop that is reading a frame after a step was reading it before, unless
    the step read its header. -/
theorem incoming_kept {cfg : ServiceServer.ServerCfg} {s s' : ServiceServer.ServerConn}
    {e : ServiceServer.ServerEvent} (h : ServiceServer.step cfg s e = some s')
    (he : ∀ declared header, e ≠ .loop (.header declared header)) :
    incoming s'.loop = none ∨ s'.loop = s.loop := by
  rcases ServiceServer.step_move h with ⟨le, rfl, m⟩ | ⟨i, t, te, rfl, ht, m⟩
  · cases m with
    | toDiscarding declared header | toReading declared header =>
        exact absurd rfl (he declared header)
    | beginDrain => exact .inr rfl
    | stopReading | headerFailed | toCancelling | notRequest | abandon | reject | spawn
    | discardFailed | readFailed | cancelMiss | cancelHit | insert | rejectLock | rejectWrite
    | rejectFlush | rejectFail | drainSweep => exact .inl rfl
  · exact .inr (ServiceServer.taskMove_loop m).1

/-- A header that was read: which way the loop goes. -/
theorem header_loop {cfg : ServiceServer.ServerCfg} {s s' : ServiceServer.ServerConn}
    {declared : Nat} {header : FrameHeader}
    (h : ServiceServer.step cfg s (.loop (.header declared header)) = some s') :
    (header.flags = .request → header.opcode ≠ opcodeCancel →
      s'.loop = .reading declared header ∨ s'.loop = .discarding declared header .draining ∨
        s'.loop = .discarding declared header .limited) ∧
      (header.flags = .cancel → s'.loop = .discarding declared header .cancel) := by
  have hon : s' = s.onHeader declared header := by
    simp only [ServiceServer.step, ServiceServer.loopStep] at h
    split at h
    · split at h
      · exact (Option.some.inj h).symm
      · cases h
    · cases h
  rw [hon]
  simp only [ServiceServer.ServerConn.onHeader]
  refine ⟨?_, ?_⟩
  · intro hf hop
    have hnc : (header.flags.contains .cancel || header.opcode == opcodeCancel) = false := by
      rw [hf, beq_eq_false_iff_ne.mpr hop]
      decide
    have hr : (!header.flags.contains .request) = false := by
      rw [hf]
      decide
    rw [hnc, hr, if_neg Bool.false_ne_true, if_neg Bool.false_ne_true]
    split
    · exact .inr (.inl rfl)
    · split
      · exact .inr (.inr rfl)
      · exact .inl rfl
  · intro hf
    have hc : (header.flags.contains .cancel || header.opcode == opcodeCancel) = true := by
      rw [hf]
      rfl
    rw [hc]
    rfl

/-- A payload that was read: which request is logged. -/
theorem payload_requests {cfg : ServiceServer.ServerCfg} {s s' : ServiceServer.ServerConn}
    {payload : List UInt8}
    (h : ServiceServer.step cfg s (.loop (.payload payload)) = some s') :
    (∀ declared header, s.loop = .reading declared header ∨
        s.loop = .discarding declared header .draining ∨
        s.loop = .discarding declared header .limited →
      ∃ d, s'.requests = s.record header d) ∧
      (∀ declared header, s.loop = .discarding declared header .cancel →
        s'.requests = s.requests) := by
  -- an error answer of the loop is logged either way
  have hrej : ∀ (x : ServiceServer.ServerConn) header method response, x.requests = s.requests →
      ∃ d, (x.reject cfg header method response).requests = s.record header d := by
    intro x header method response hx
    simp only [ServiceServer.ServerConn.reject, ServiceServer.ServerConn.record]
    split
    · exact ⟨_, by rw [hx]⟩
    · exact ⟨_, by rw [hx]⟩
  simp only [ServiceServer.step, ServiceServer.loopStep] at h
  split at h
  · rename_i declared header why hl
    split at h
    · cases h
      refine ⟨?_, ?_⟩
      · rintro declared' header' (hl' | hl' | hl')
        · rw [hl] at hl'
          cases hl'
        · rw [hl] at hl'
          cases hl'
          exact ⟨_, rfl⟩
        · rw [hl] at hl'
          cases hl'
          exact hrej s header _ _ rfl
      · rintro declared' header' hl'
        rw [hl] at hl'
        cases hl'
        rfl
    · cases h
  · rename_i declared header hl
    split at h
    · cases h
      refine ⟨?_, ?_⟩
      · rintro declared' header' (hl' | hl' | hl')
        · rw [hl] at hl'
          cases hl'
          simp only [ServiceServer.ServerConn.onPayload]
          split
          · exact ⟨_, rfl⟩
          · split
            · exact hrej _ header _ _ rfl
            · exact ⟨_, rfl⟩
        · rw [hl] at hl'
          cases hl'
        · rw [hl] at hl'
          cases hl'
      · rintro declared' header' hl'
        rw [hl] at hl'
        cases hl'
    · cases h
  · cases h

theorem opcode_ne_cancel (method : ControlMethod) : method.opcode ≠ opcodeCancel := by
  cases method <;> decide

/-- A written request is a REQUEST frame under its id. -/
theorem encodeBinaryRequest_frame {codec : MsgPack} {requestId : Nat} {request : ControlRequest}
    {limits : ControlIpcLimits} {bytes : List UInt8}
    (h : encodeBinaryRequest codec requestId request limits = .ok bytes) :
    ∃ payload, encodeFrameInto request.method.opcode .request requestId payload limits
      = .ok bytes := by
  simp only [encodeBinaryRequest] at h
  cases hp : encodeMessagepackInto
      (codec.packRequest limits.maxMsgpackNestingDepth ⟨request.token, request.params⟩) limits with
  | error e =>
      rw [hp] at h
      exact nomatch h
  | ok payload =>
      rw [hp] at h
      exact ⟨payload, h⟩

/-- The log of the server is the sequence of requests it has read from the
    session, and the frame it is reading is the session's next one. -/
structure Wired (l : Link) : Prop where
  read : l.srv.requests.map ServiceServer.RequestLog.requestId
    = ((l.sess.outbox.take l.readPos).filterMap sentId).map (· % 2 ^ 64)
  bound : l.readPos ≤ l.sess.outbox.length
  request : ∀ (declared : Nat) (header : FrameHeader), l.srv.loop = .reading declared header ∨
    l.srv.loop = .discarding declared header .draining ∨
    l.srv.loop = .discarding declared header .limited →
    ∃ i requestId bytes, l.sess.outbox[l.readPos]? = some (.request i requestId bytes) ∧
      header.requestId = requestId % 2 ^ 64
  cancel : ∀ (declared : Nat) (header : FrameHeader),
    l.srv.loop = .discarding declared header .cancel →
    ∃ requestId bytes, l.sess.outbox[l.readPos]? = some (.cancel requestId bytes)
  other : ∀ (declared : Nat) (header : FrameHeader),
    l.srv.loop ≠ .discarding declared header .notRequest

theorem wired_start (cfg : LinkCfg) : Wired (.start cfg) where
  read := rfl
  bound := Nat.le_refl _
  request := by rintro declared header (h | h | h) <;> exact nomatch h
  cancel := by intro declared header h; exact nomatch h
  other := by intro declared header h; exact nomatch h

/-- The session writes more. -/
theorem Wired.client {cfg : LinkCfg} {l : Link} {e : ServiceSession.SessionEvent}
    {sess : ServiceSession.Session} (h : Wired l)
    (hs : ServiceSession.step cfg.client l.sess e = some sess) {l' : Link}
    (hsess : l'.sess = sess) (hsrv : l'.srv = l.srv) (hpos : l'.readPos = l.readPos) :
    Wired l' := by
  obtain ⟨more, hmore⟩ := ServiceSession.outbox_extends hs
  have hkeep : ∀ o, l.sess.outbox[l.readPos]? = some o →
      (l.sess.outbox ++ more)[l.readPos]? = some o := by
    intro o ho
    rw [List.getElem?_append_left (lt_length_of_getElem? ho)]
    exact ho
  refine ⟨?_, ?_, ?_, ?_, ?_⟩
  · rw [hsrv, hpos, hsess, hmore, List.take_append_of_le_length h.bound]
    exact h.read
  · rw [hpos, hsess, hmore, List.length_append]
    exact Nat.le_trans h.bound (Nat.le_add_right _ _)
  · rw [hsrv, hpos, hsess, hmore]
    intro declared header hl
    obtain ⟨i, requestId, bytes, ho, hid⟩ := h.request declared header hl
    exact ⟨i, requestId, bytes, hkeep _ ho, hid⟩
  · rw [hsrv, hpos, hsess, hmore]
    intro declared header hl
    obtain ⟨requestId, bytes, ho⟩ := h.cancel declared header hl
    exact ⟨requestId, bytes, hkeep _ ho⟩
  · rw [hsrv]
    exact h.other

/-- A server that reads no new header and no payload. -/
theorem Wired.server {cfg : LinkCfg} {l : Link} {e : ServiceServer.ServerEvent}
    {srv : ServiceServer.ServerConn} (h : Wired l)
    (h₁ : ∀ declared header, e ≠ .loop (.header declared header))
    (h₂ : ∀ payload, e ≠ .loop (.payload payload))
    (hs : ServiceServer.step cfg.server l.srv e = some srv) : Wired { l with srv := srv } := by
  have hloop : ∀ p, srv.loop = p → incoming p ≠ none → l.srv.loop = p := by
    intro p hp hin
    rcases incoming_kept hs h₁ with hnone | heq
    · rw [hp] at hnone
      exact absurd hnone hin
    · rw [← heq, hp]
  refine ⟨(requestIds_kept hs h₂).trans h.read, h.bound, ?_, ?_, ?_⟩
  · intro declared header hl
    refine h.request declared header ?_
    rcases hl with hl | hl | hl
    · exact .inl (hloop _ hl nofun)
    · exact .inr (.inl (hloop _ hl nofun))
    · exact .inr (.inr (hloop _ hl nofun))
  · intro declared header hl
    exact h.cancel declared header (hloop _ hl nofun)
  · intro declared header hl
    exact h.other declared header (hloop _ hl nofun)

/-- The server reads the header of the session's next frame. -/
theorem Wired.header {cfg : LinkCfg} {l : Link} {o : ServiceSession.Outgoing} {declared : Nat}
    {header : FrameHeader} {rest : List UInt8} {srv : ServiceServer.ServerConn}
    (hbook : ServiceSession.Booked cfg.client l.sess) (h : Wired l)
    (ho : l.sess.outbox[l.readPos]? = some o)
    (hread : readFramePrefix cfg.server.limits o.bytes = .ok (some (declared, header, rest)))
    (hs : ServiceServer.step cfg.server l.srv (.loop (.header declared header)) = some srv) :
    Wired { l with srv := srv } := by
  have hkept := requestIds_kept hs nofun
  obtain ⟨hreq, hcan⟩ := header_loop hs
  have hmem := List.mem_of_getElem? ho
  cases o with
  | request i requestId bytes =>
      obtain ⟨c, -, -, henc, -⟩ := hbook.sent i requestId bytes hmem
      obtain ⟨payload, hframe⟩ := encodeBinaryRequest_frame henc
      obtain ⟨hop, hfl, hid, -⟩ := readFramePrefix_encoded hframe hread
      have hloop := hreq hfl (hop ▸ opcode_ne_cancel _)
      have hout : ∀ d hd, srv.loop = .reading d hd ∨ srv.loop = .discarding d hd .draining ∨
          srv.loop = .discarding d hd .limited → hd = header := by
        intro d hd hl
        rcases hloop with hloop | hloop | hloop <;> rw [hloop] at hl <;>
          rcases hl with hl | hl | hl <;> cases hl <;> rfl
      refine ⟨hkept.trans h.read, h.bound, ?_, ?_, ?_⟩
      · intro d hd hl
        rw [hout d hd hl]
        exact ⟨i, requestId, bytes, ho, hid⟩
      · intro d hd hl
        rcases hloop with hloop | hloop | hloop <;> rw [hloop] at hl <;> exact nomatch hl
      · intro d hd hl
        rcases hloop with hloop | hloop | hloop <;> rw [hloop] at hl <;> exact nomatch hl
  | cancel requestId bytes =>
      have henc := (hbook.sentCancel requestId bytes hmem).2
      obtain ⟨-, hfl, -, -⟩ := readFramePrefix_encoded henc hread
      have hloop := hcan hfl
      refine ⟨hkept.trans h.read, h.bound, ?_, ?_, ?_⟩
      · intro d hd hl
        rw [hloop] at hl
        rcases hl with hl | hl | hl <;> exact nomatch hl
      · intro d hd hl
        exact ⟨requestId, bytes, ho⟩
      · intro d hd hl
        rw [hloop] at hl
        exact nomatch hl

/-- The server reads the payload, and logs the request if it is one. -/
theorem Wired.payload {cfg : LinkCfg} {l : Link} {declared : Nat} {header : FrameHeader}
    {payload : List UInt8} {srv : ServiceServer.ServerConn} (h : Wired l)
    (hin : incoming l.srv.loop = some (declared, header))
    (hs : ServiceServer.step cfg.server l.srv (.loop (.payload payload)) = some srv) :
    Wired { l with srv := srv, readPos := l.readPos + 1 } := by
  obtain ⟨hreq, hcan⟩ := payload_requests hs
  have hnone : incoming srv.loop = none := by
    rcases incoming_kept hs (by simp) with hnone | heq
    · exact hnone
    · -- the loop leaves the frame it has read
      rcases ServiceServer.step_move hs with ⟨le, hle, m⟩ | ⟨_, _, _, hle, _⟩
      · cases hle
        cases m <;> rfl
      · cases hle
  have hidle : ∀ p, srv.loop = p → (incoming p).isSome = true → False := by
    intro p hp hsome
    rw [hp] at hnone
    rw [hnone] at hsome
    cases hsome
  -- one more frame is taken off the session's output
  have hread : ∀ o, l.sess.outbox[l.readPos]? = some o →
      srv.requests.map ServiceServer.RequestLog.requestId
        = l.srv.requests.map ServiceServer.RequestLog.requestId
          ++ ([o].filterMap sentId).map (· % 2 ^ 64) →
      Wired { l with srv := srv, readPos := l.readPos + 1 } := by
    intro o ho hids
    have hlt := lt_length_of_getElem? ho
    have hget : l.sess.outbox[l.readPos] = o := by
      rw [List.getElem?_eq_getElem hlt] at ho
      exact Option.some.inj ho
    refine ⟨?_, hlt, ?_, ?_, ?_⟩
    · rw [hids, h.read, List.take_succ_eq_append_getElem hlt, List.filterMap_append,
        List.map_append, hget]
    · rintro d hd (hl | hl | hl) <;> exact (hidle _ hl rfl).elim
    · intro d hd hl
      exact (hidle _ hl rfl).elim
    · intro d hd hl
      exact (hidle _ hl rfl).elim
  -- a request is logged, a CANCEL is not
  have hrequest : l.srv.loop = .reading declared header ∨
      l.srv.loop = .discarding declared header .draining ∨
      l.srv.loop = .discarding declared header .limited →
      Wired { l with srv := srv, readPos := l.readPos + 1 } := by
    intro hl
    obtain ⟨i, requestId, bytes, ho, hid⟩ := h.request declared header hl
    obtain ⟨d, hrec⟩ := hreq declared header hl
    refine hread _ ho ?_
    rw [hrec, ServiceServer.ServerConn.record, List.map_append]
    simp [sentId, hid]
  cases hl : l.srv.loop with
  | reading d hd =>
      rw [hl] at hin
      cases hin
      exact hrequest (.inl hl)
  | discarding d hd why =>
      rw [hl] at hin
      cases hin
      cases why with
      | draining => exact hrequest (.inr (.inl hl))
      | limited => exact hrequest (.inr (.inr hl))
      | notRequest => exact absurd hl (h.other declared header)
      | cancel =>
          obtain ⟨requestId, bytes, ho⟩ := h.cancel declared header hl
          refine hread _ ho ?_
          rw [hcan declared header hl]
          exact (List.append_nil _).symm
  | waiting | cancelling | rejecting | rejectWriting | inserting | draining | done =>
      rw [hl] at hin
      cases hin

/-! ## Deliveries -/

/-- Reading `frame` gives a response with this id and this value. -/
def DecodesTo (cfg : LinkCfg) (frame : List UInt8) (requestId : Nat) (x : ControlResponse) :
    Prop :=
  ∃ header payload rest, readBinaryFrameInto cfg.limits frame = .ok (some (header, payload, rest)) ∧
    header.requestId = requestId ∧ header.flags.contains .response = true ∧
    cfg.msgpack.unpackResponse cfg.limits.maxMsgpackNestingDepth payload = .ok x

/-- What a call has got, or has returned, was delivered to it from a frame
    under its id; a frame is delivered once. -/
structure Delivered (cfg : LinkCfg) (l : Link) : Prop where
  slots : ∀ (i : Nat) (c : ServiceSession.Call) (x : ControlResponse),
    l.sess.calls[i]? = some c → c.slot = .full (.ok x) ∨ c.phase = .done (.ok x) →
    ∃ k p requestId, (k, i) ∈ l.deliveries ∧ l.srv.replies[k]? = some p ∧
      c.requestId = some requestId ∧ DecodesTo cfg p.frame requestId x
  seen : ∀ d ∈ l.deliveries, d.1 < l.consumed
  nodup : (l.deliveries.map Prod.fst).Nodup

theorem delivered_start (cfg : LinkCfg) : Delivered cfg (.start cfg) where
  slots := by intro i c x h; exact nomatch h
  seen := by intro d h; exact nomatch h
  nodup := List.nodup_nil

theorem Delivered.client {cfg : LinkCfg} {l : Link} {e : ServiceSession.SessionEvent}
    {sess : ServiceSession.Session} {consumed : Nat} (hnum : ServiceSession.Numbered l.sess)
    (h : Delivered cfg l) (hr : e.isRead = false)
    (hs : ServiceSession.step cfg.client l.sess e = some sess) (hle : l.consumed ≤ consumed) :
    Delivered cfg { l with sess := sess, consumed := consumed } where
  slots := by
    intro i u x hu hx
    obtain ⟨c, hc, hid, hx | ⟨re, id, rfl, hd, -⟩⟩ := ServiceSession.response_origin hnum hs hu hx
    · obtain ⟨k, p, requestId, hk, hp, hcid, hdec⟩ := h.slots i c x hc hx
      exact ⟨k, p, requestId, hk, hp, hid _ hcid, hdec⟩
    · cases hd with
      | frame => exact nomatch hr
      | line => exact nomatch hr
  seen := fun d hd => Nat.lt_of_lt_of_le (h.seen d hd) hle
  nodup := h.nodup

theorem Delivered.server {cfg : LinkCfg} {l l' : Link} {e : ServiceServer.ServerEvent}
    {srv : ServiceServer.ServerConn} (h : Delivered cfg l)
    (hs : ServiceServer.step cfg.server l.srv e = some srv) (hsrv : l'.srv = srv)
    (hsess : l'.sess = l.sess) (hcon : l'.consumed = l.consumed)
    (hdel : l'.deliveries = l.deliveries) : Delivered cfg l' where
  slots := by
    rw [hsess, hsrv, hdel]
    intro i c x hc hx
    obtain ⟨k, p, requestId, hk, hp, hcid, hdec⟩ := h.slots i c x hc hx
    obtain ⟨more, hmore⟩ := replies_extend hs
    refine ⟨k, p, requestId, hk, ?_, hcid, hdec⟩
    rw [hmore, List.getElem?_append_left (lt_length_of_getElem? hp)]
    exact hp
  seen := by
    rw [hdel, hcon]
    exact h.seen
  nodup := by
    rw [hdel]
    exact h.nodup

theorem Delivered.receive {cfg : LinkCfg} {l : Link} {p : ServiceServer.Reply}
    {header : FrameHeader} {payload rest : List UInt8} {sess : ServiceSession.Session}
    (hinv : ServiceSession.SessionInv cfg.client l.sess) (h : Delivered cfg l)
    (hp : l.srv.replies[l.consumed]? = some p)
    (hread : readBinaryFrameInto cfg.limits p.frame = .ok (some (header, payload, rest)))
    (hs : ServiceSession.step cfg.client l.sess (.reader (.frame header payload)) = some sess) :
    Delivered cfg
      { l with
        sess := sess
        consumed := l.consumed + 1
        deliveries := match recipient cfg l.sess header payload with
          | some j => l.deliveries ++ [(l.consumed, j)]
          | none => l.deliveries } := by
  have hmono : ∀ d ∈ l.deliveries, d ∈ (match recipient cfg l.sess header payload with
      | some j => l.deliveries ++ [(l.consumed, j)]
      | none => l.deliveries) := by
    intro d hd
    split
    · exact List.mem_append_left _ hd
    · exact hd
  refine ⟨?_, ?_, ?_⟩
  · intro i u x hu hx
    obtain ⟨c, hc, hid, hx | ⟨re, id, hre, hd, hj⟩⟩ :=
      ServiceSession.response_origin hinv.numbered hs hu hx
    · obtain ⟨k, q, requestId, hk, hq, hcid, hdec⟩ := h.slots i c x hc hx
      exact ⟨k, q, requestId, hmono _ hk, hq, hid _ hcid, hdec⟩
    · cases hre
      cases hd with
      | frame _ _ _ _ hflags hun =>
          -- the entry under the frame's id is the call's own
          obtain ⟨c', hc', hcid, -⟩ := hinv.booked.pending _ i hj
          rw [hc] at hc'
          cases hc'
          have hrec : recipient cfg l.sess header payload = some i := by
            have hok : (cfg.msgpack.unpackResponse cfg.limits.maxMsgpackNestingDepth
                payload).isOk = true := congrArg Except.isOk hun
            rw [recipient, if_pos ⟨hflags, hok⟩]
            exact hj
          refine ⟨l.consumed, p, header.requestId, ?_, hp, hid _ hcid,
            ⟨header, payload, rest, hread, rfl, hflags, hun⟩⟩
          dsimp only
          rw [hrec]
          exact List.mem_append_right _ (List.mem_singleton_self _)
  · intro d hd
    dsimp only at hd
    split at hd
    · rcases List.mem_append.mp hd with hd | hd
      · exact Nat.lt_succ_of_lt (h.seen d hd)
      · rw [List.mem_singleton.mp hd]
        exact Nat.lt_succ_self _
    · exact Nat.lt_succ_of_lt (h.seen d hd)
  · dsimp only
    split
    · rw [List.map_append]
      refine List.nodup_append.mpr ⟨h.nodup, List.nodup_singleton _, ?_⟩
      intro a ha b hb hab
      obtain ⟨d, hd, rfl⟩ := List.mem_map.mp ha
      have := h.seen d hd
      rw [hab, List.mem_singleton.mp hb] at this
      exact absurd this (Nat.lt_irrefl _)
    · exact h.nodup

/-! ## Binary correlation -/

/-- The joint invariant. -/
structure LinkInv (cfg : LinkCfg) (l : Link) : Prop where
  sess : ServiceSession.SessionInv cfg.client l.sess
  tagged : ServiceServer.Tagged l.srv
  encoded : ServiceServer.Encoded cfg.server l.srv
  sourced : ServiceServer.Sourced cfg.server l.srv
  wired : Wired l
  delivered : Delivered cfg l

theorem linkInv_start (cfg : LinkCfg) : LinkInv cfg (.start cfg) where
  sess := ServiceSession.sessionInv_fromStream _
  tagged := ServiceServer.tagged_start _
  encoded := ServiceServer.encoded_start _
  sourced := ServiceServer.sourced_start _
  wired := wired_start cfg
  delivered := delivered_start cfg

theorem LinkInv.preserved {cfg : LinkCfg} {l l' : Link} {e : LinkEvent} (h : LinkInv cfg l)
    (hs : step cfg l e = some l') : LinkInv cfg l' := by
  -- the server's own invariants
  have hserver : ∀ {se srv}, ServiceServer.step cfg.server l.srv se = some srv →
      ServiceServer.Tagged srv ∧ ServiceServer.Encoded cfg.server srv ∧
        ServiceServer.Sourced cfg.server srv :=
    fun hse => ⟨h.tagged.preserved hse, h.encoded.preserved h.tagged hse, h.sourced.preserved hse⟩
  cases step_move hs with
  | client ce sess consumed hr hce hle =>
      exact ⟨h.sess.preserved hce, h.tagged, h.encoded, h.sourced, h.wired.client hce rfl rfl rfl,
        h.delivered.client h.sess.numbered hr hce hle⟩
  | server se srv h₁ h₂ hse =>
      obtain ⟨htag, henc, hsrc⟩ := hserver hse
      exact ⟨h.sess, htag, henc, hsrc, h.wired.server h₁ h₂ hse,
        h.delivered.server hse rfl rfl rfl rfl⟩
  | header o declared header rest srv ho hread hse =>
      obtain ⟨htag, henc, hsrc⟩ := hserver hse
      exact ⟨h.sess, htag, henc, hsrc, h.wired.header h.sess.booked ho hread hse,
        h.delivered.server hse rfl rfl rfl rfl⟩
  | payload o declared header payload srv ho hin hse =>
      obtain ⟨htag, henc, hsrc⟩ := hserver hse
      exact ⟨h.sess, htag, henc, hsrc, h.wired.payload hin hse,
        h.delivered.server hse rfl rfl rfl rfl⟩
  | receive p header payload rest sess hp hread hce =>
      exact ⟨h.sess.preserved hce, h.tagged, h.encoded, h.sourced, h.wired.client hce rfl rfl rfl,
        h.delivered.receive h.sess hp hread hce⟩

/-- The requests the session has written, in order. -/
def requestsSent (l : Link) : List ServiceSession.Outgoing :=
  l.sess.outbox.filter fun o => (sentId o).isSome

/-- `x` was decoded from a frame that the server wrote for the request of call
    `i`: the encoding, under its id, of its handler's result or of an error the
    server made up for it. -/
def AnswerFor (cfg : LinkCfg) (l : Link) (i : Nat) (x : ControlResponse) : Prop :=
  ∃ k p requestId bytes, (k, i) ∈ l.deliveries ∧ l.srv.replies[k]? = some p ∧
    (requestsSent l)[p.req]? = some (.request i requestId bytes) ∧
    DecodesTo cfg p.frame requestId x ∧
    ServiceServer.FrameFor cfg.server l.srv p.req p.response p.frame ∧
    ServiceServer.SourcedFor cfg.server l.srv p.req p.response

/-- A reply's frame carries the id of the request it was written for, and that
    request is one the session wrote. -/
theorem LinkInv.reply_request {cfg : LinkCfg} {l : Link} (h : LinkInv cfg l)
    (hids : l.sess.issuedIds.length < 2 ^ 64) {p : ServiceServer.Reply} (hp : p ∈ l.srv.replies)
    {requestId : Nat} {x : ControlResponse} (hdec : DecodesTo cfg p.frame requestId x) :
    ∃ i bytes c, (requestsSent l)[p.req]? = some (.request i requestId bytes) ∧
      l.sess.calls[i]? = some c ∧ c.requestId = some requestId := by
  obtain ⟨header, payload, rest, hread, hid, -, -⟩ := hdec
  obtain ⟨q, method, hq, henc⟩ := h.encoded.replies p hp
  -- the frame's id is the logged one
  obtain ⟨body, -, hframe⟩ := encodeBinaryResponse_ok henc
  obtain ⟨declared, rest', hpre⟩ := readBinaryFrameInto_ok hread
  obtain ⟨-, -, hqid, -⟩ := readFramePrefix_encoded hframe hpre
  -- the logged id is the one at the same position among the requests sent
  have hlog : (l.srv.requests.map ServiceServer.RequestLog.requestId)[p.req]?
      = some q.requestId := by
    rw [List.getElem?_map, hq]
    rfl
  rw [h.wired.read, List.getElem?_map] at hlog
  obtain ⟨id, hsent, hmod⟩ := Option.map_eq_some_iff.mp hlog
  have hfull : (l.sess.outbox.filterMap sentId)[p.req]? = some id := by
    conv_lhs => rw [← List.take_append_drop l.readPos l.sess.outbox]
    rw [List.filterMap_append, List.getElem?_append_left (lt_length_of_getElem? hsent)]
    exact hsent
  obtain ⟨o, ho, hoid⟩ := getElem?_filterMap_inv hfull
  cases o with
  | cancel => exact nomatch hoid
  | request i id' bytes =>
      cases hoid
      have hmem : ServiceSession.Outgoing.request i id bytes ∈ l.sess.outbox :=
        (List.mem_filter.mp (List.mem_of_getElem? ho)).1
      obtain ⟨c, hc, hcid, -⟩ := h.sess.booked.sent i id bytes hmem
      -- an issued id fits into 64 bits
      have hissued : id ∈ l.sess.issuedIds :=
        List.mem_filterMap.mpr ⟨c, List.mem_of_getElem? hc, hcid⟩
      have hrange := h.sess.numbered.range hids id hissued
      have heq : requestId = id := by
        rw [← hid, hqid, ← hmod, Nat.mod_mod]
        exact Nat.mod_eq_of_lt (by omega)
      rw [heq]
      exact ⟨i, bytes, c, ho, hc, hcid⟩

/-- **BINARY CORRELATION**: on a session of fewer than 2^64 requests, what a
    `send` returns was decoded from a frame the server wrote for that very
    request; a frame goes to at most one `send`; and no id is used twice. -/
theorem binary_correlation {cfg : LinkCfg} {l : Link}
    (h : Reaches (step cfg) Free (.start cfg) l) (hids : l.sess.issuedIds.length < 2 ^ 64) :
    (∀ (i : Nat) (c : ServiceSession.Call) (x : ControlResponse), l.sess.calls[i]? = some c →
      c.phase = .done (.ok x) → AnswerFor cfg l i x) ∧
      (l.deliveries.map Prod.fst).Nodup ∧ l.sess.issuedIds.Nodup := by
  have hinv : LinkInv cfg l := by
    refine h.invariant (P := LinkInv cfg) (linkInv_start cfg) ?_
    intro s e s' hinv _ hs
    exact hinv.preserved hs
  refine ⟨?_, hinv.delivered.nodup, hinv.sess.numbered.nodup hids⟩
  intro i c x hc hx
  obtain ⟨k, p, requestId, hk, hp, hcid, hdec⟩ := hinv.delivered.slots i c x hc (.inr hx)
  have hmem := List.mem_of_getElem? hp
  obtain ⟨j, bytes, c', ho, hc', hcid'⟩ := hinv.reply_request hids hmem hdec
  -- the request with this id is the request of call `i`
  have hij : j = i :=
    filterMap_inj (hinv.sess.numbered.nodup hids) hc' hc hcid' hcid
  rw [hij] at ho
  exact ⟨k, p, requestId, bytes, hk, hp, ho, hdec, hinv.encoded.replies p hmem,
    hinv.sourced.replies p hmem⟩

/-! ## A sample connection -/

/-- Both ends of the sample connection. -/
def sampleCfg : LinkCfg where
  limits := sampleLimits
  msgpack := sampleCodec
  json := ⟨fun _ => .error "unused", fun _ => .error "unused", fun _ => .error "unused",
    fun _ => .error "unused"⟩
  server := ServiceServer.sampleCfg

/-- Call `i` runs up to its write. -/
def sends (i : Nat) : List LinkEvent :=
  [.client (.send ⟨"t", .healthCheck, .null⟩), .client (.call i .checkClosed),
    .client (.call i .allocate), .client (.call i .checkLimit), .client (.call i .register),
    .client (.call i .encode), .client (.call i .lockWriter), .client (.call i .write)]

/-- The server reads a frame and enters the task's entry. -/
def accepts : List LinkEvent := [.readHeader, .readPayload, .server (.loop .insertPending)]

/-- Task `i` answers with `response`. -/
def answers (i : Nat) (response : ControlResponse) : List LinkEvent :=
  [.server (.task i .poll), .server (.task i (.handlerReturn response)),
    .server (.task i .encode), .server (.task i .lockWriter), .respond i,
    .server (.task i .flush)]

/-- Two calls, answered in the opposite order. -/
def crossedState : Link :=
  (run (step sampleCfg) Free (.start sampleCfg)
    (sends 0 ++ sends 1 ++ accepts ++ accepts ++ answers 1 (.okValue (.bool true)) ++
      answers 0 .emptyOk ++ [.receive, .receive, .client (.call 0 .receive),
        .client (.call 1 .receive)])).getD (.start sampleCfg)

theorem binary_correlation_sample :
    Reaches (step sampleCfg) Free (.start sampleCfg) crossedState ∧
      AnswerFor sampleCfg crossedState 0 ⟨true, none, none⟩ ∧
      AnswerFor sampleCfg crossedState 1 (.okValue (.bool true)) ∧
      crossedState.deliveries = [(0, 1), (1, 0)] := by
  have hrun : Reaches (step sampleCfg) Free (.start sampleCfg) crossedState :=
    reaches_getD (by decide)
  have hids : crossedState.sess.issuedIds.length < 2 ^ 64 := by decide
  exact ⟨hrun, (binary_correlation hrun hids).1 0 _ ⟨true, none, none⟩ rfl rfl,
    (binary_correlation hrun hids).1 1 _ (.okValue (.bool true)) rfl rfl, by decide⟩

end ServiceLink
