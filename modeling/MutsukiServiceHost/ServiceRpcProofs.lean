import MutsukiServiceHost.ServiceLinkProofs
import MutsukiServiceHost.ServiceRequestProofs
import MutsukiServiceHost.ServiceTransportProofs

/-! # A call over a binary connection

    `ServiceLinkProofs` says which frame answers which call.  Here the payloads
    are read too: both sides go through `rmp_serde`, which is taken as a format
    of the serde data model that carries the values of the run.

    * `Served` — the handler of a task is called with the request of one call,
      and a call has one task at most.
    * `call_law` — what `send` returns is what the handler made of that very
      request, but for a result that is null, or one of two errors of the server:
      the pending limit and the cancellation.  A well-formed client is never told
      that its request is bad. -/

namespace ServiceRpc

open SerdeContent ServiceControl ServiceFrame ServiceLink ListUpdate Transition

/-- `rmp_serde`: bodies and responses go through `format` under a nesting limit. -/
def codec (format : Nat → Format) : MsgPack where
  packRequest depth body := (format depth).write body.serialize
  unpackRequest depth bytes := (format depth).read? ControlRequestBody.deserialize bytes
  packResponse depth response := (format depth).write response.serialize
  unpackResponse depth bytes := (format depth).decode ControlResponse.deserialize bytes

/-- A client and a server, with their limits. -/
structure RpcCfg where
  limits : ControlIpcLimits
  serverLimits : ControlIpcLimits
  packed : Nat → Format
  json : Json

/-- The connection between them. -/
def RpcCfg.link (cfg : RpcCfg) : LinkCfg where
  limits := cfg.limits
  msgpack := codec cfg.packed
  json := cfg.json
  server := ⟨cfg.serverLimits, codec cfg.packed⟩

/-- The body of a request. -/
def bodyOf (r : ControlRequest) : ControlRequestBody := ⟨r.token, r.params⟩

/-- A request that the client's format hands to the server's. -/
structure RequestCarried (cfg : RpcCfg) (r : ControlRequest) : Prop where
  proper : r.params.Proper
  carried : Carries (cfg.packed cfg.limits.maxMsgpackNestingDepth)
    (cfg.packed cfg.serverLimits.maxMsgpackNestingDepth) (bodyOf r).serialize

/-- A response that the server's format hands to the client's. -/
structure ResponseCarried (cfg : RpcCfg) (r : ControlResponse) : Prop where
  proper : r.Proper
  carried : Carries (cfg.packed cfg.serverLimits.maxMsgpackNestingDepth)
    (cfg.packed cfg.limits.maxMsgpackNestingDepth) r.serialize

/-! ## Reading what was written -/

section Reading

variable {cfg : RpcCfg}

/-- The length a header carries. -/
theorem payloadLen_encoded {opcode : UInt16} {flags : FrameFlags} {requestId : Nat}
    {payload bytes : List UInt8} {limits limits' : ControlIpcLimits}
    (hlim : limits.maxFrameBytes < 2 ^ 32)
    (he : encodeFrameInto opcode flags requestId payload limits = .ok bytes)
    {declared : Nat} {header : FrameHeader} {rest : List UInt8}
    (h : readFramePrefix limits' bytes = .ok (some (declared, header, rest))) :
    header.payloadLen = payload.length := by
  obtain ⟨-, -, hvalid⟩ := encodeFrameInto_ok he
  have hbody := validateFrameLength_ok hvalid
  obtain ⟨hdec, -, -⟩ := readFramePrefix_ok h
  obtain ⟨-, -, -, hlen⟩ := decodeFrameHeader_ok hdec
  obtain ⟨-, -, -, hslice⟩ := frameBytes_fields opcode flags requestId payload
  rw [encodeFrameInto_eq he, hslice, fromBeBytes_toBeBytes] at hlen
  rw [hlen, Nat.mod_eq_of_lt]
  omega

/-- The payload behind it. -/
theorem payload_encoded {opcode : UInt16} {flags : FrameFlags} {requestId : Nat}
    {payload payload' bytes : List UInt8} {limits limits' : ControlIpcLimits}
    (hlim : limits.maxFrameBytes < 2 ^ 32)
    (he : encodeFrameInto opcode flags requestId payload limits = .ok bytes)
    {declared : Nat} {header : FrameHeader} {rest rest' : List UInt8}
    (h : readFramePrefix limits' bytes = .ok (some (declared, header, rest)))
    (hread : readPayloadOrDiscard declared header rest = .ok (payload', rest')) :
    payload' = payload := by
  obtain ⟨-, -, -, hrest⟩ := readFramePrefix_encoded he h
  have hlen := payloadLen_encoded hlim he h
  rw [readPayloadOrDiscard] at hread
  split at hread
  · cases hread
  · rw [readExact, hlen, hrest, if_neg (Nat.lt_irrefl _), List.take_length] at hread
    cases hread
    rfl

/-- The client's frame of a carried request, as the server decodes it. -/
theorem request_decoded {r : ControlRequest} {requestId : Nat} {bytes : List UInt8}
    (hcarried : RequestCarried cfg r) (hlim : cfg.limits.maxFrameBytes < 2 ^ 32)
    (he : encodeBinaryRequest (codec cfg.packed) requestId r cfg.limits = .ok bytes)
    {declared : Nat} {header : FrameHeader} {payload rest rest' : List UInt8}
    (h : readFramePrefix cfg.serverLimits bytes = .ok (some (declared, header, rest)))
    (hread : readPayloadOrDiscard declared header rest = .ok (payload, rest')) :
    ControlMethod.fromOpcode header.opcode = some r.method ∧
      (codec cfg.packed).unpackRequest cfg.serverLimits.maxMsgpackNestingDepth payload
        = .ok (bodyOf r) := by
  rw [encodeBinaryRequest] at he
  cases hpack : encodeMessagepackInto
      ((codec cfg.packed).packRequest cfg.limits.maxMsgpackNestingDepth ⟨r.token, r.params⟩)
      cfg.limits with
  | error e =>
      rw [hpack] at he
      cases he
  | ok written =>
      rw [hpack] at he
      have hframe : encodeFrameInto r.method.opcode .request requestId written cfg.limits
        = .ok bytes := he
      obtain ⟨hopcode, -, -, -⟩ := readFramePrefix_encoded hframe h
      constructor
      · rw [hopcode, fromOpcode_opcode]
      · rw [payload_encoded hlim hframe h hread]
        exact Format.read?_carried hcarried.carried (encodeMessagepackInto_ok hpack)
          (ControlRequestBody.deserialize_serialize hcarried.proper)

/-- The server's frame of a carried response, as the client decodes it. -/
theorem response_decoded {r x : ControlResponse} {requestId requestId' : Nat}
    {method : ControlMethod} {bytes : List UInt8} (hcarried : ResponseCarried cfg r)
    (hlim : cfg.serverLimits.maxFrameBytes < 2 ^ 32)
    (he : encodeBinaryResponse (codec cfg.packed) requestId method r cfg.serverLimits = .ok bytes)
    (h : DecodesTo cfg.link bytes requestId' x) : x = r.received := by
  obtain ⟨payload, hpack, hframe⟩ := encodeBinaryResponse_ok he
  obtain ⟨header, payload', rest, hread, -, -, hunpack⟩ := h
  rw [readBinaryFrameInto] at hread
  cases hframing : readFramePrefix cfg.link.limits bytes with
  | error e =>
      rw [hframing] at hread
      cases hread
  | ok found =>
      rw [hframing] at hread
      cases found with
      | none => cases hread
      | some found =>
          obtain ⟨declared, header', rest'⟩ := found
          dsimp only at hread
          cases hpayload : readPayloadOrDiscard declared header' rest' with
          | error e =>
              rw [hpayload] at hread
              cases hread
          | ok read =>
              rw [hpayload] at hread
              cases hread
              rw [payload_encoded hlim hframe hframing hpayload] at hunpack
              have hdecode : (cfg.packed cfg.limits.maxMsgpackNestingDepth).decode
                  ControlResponse.deserialize payload = .ok r.received :=
                Format.decode_carried hcarried.carried hpack
                  (ControlResponse.deserialize_serialize hcarried.proper)
              have hx : (cfg.packed cfg.limits.maxMsgpackNestingDepth).decode
                  ControlResponse.deserialize payload = .ok x := hunpack
              rw [hdecode] at hx
              exact (Except.ok.inj hx).symm

end Reading

/-! ## The server, when every request decodes -/

section Server

open ServiceServer

variable {cfg : ServerCfg} {s s' : ServerConn} {bytes : List UInt8}

/-- The payload of a request that decodes. -/
theorem step_reading {declared : Nat} {header : FrameHeader} {method : ControlMethod}
    {body : ControlRequestBody} (hs : ServiceServer.step cfg s (.loop (.payload bytes)) = some s')
    (hloop : s.loop = .reading declared header)
    (hmethod : ControlMethod.fromOpcode header.opcode = some method)
    (hbody : cfg.codec.unpackRequest cfg.limits.maxMsgpackNestingDepth bytes = .ok body) :
    s' = { s with
      loop := .inserting s.tasks.length header.requestId
      tasks := s.tasks ++ [⟨s.requests.length, header.requestId,
        ⟨body.token, method, body.params⟩, .spawned, .quiet, false⟩]
      requests := s.record header (.spawned s.tasks.length) } := by
  simp only [ServiceServer.step, loopStep, hloop] at hs
  split at hs
  · cases hs
    simp only [ServerConn.onPayload, hmethod, hbody]
  · cases hs

/-- Whatever payload is being read decodes. -/
def Decodes (cfg : ServerCfg) (s : ServerConn) (bytes : List UInt8) : Prop :=
  ∀ declared header, s.loop = .reading declared header → ∃ method body,
    ControlMethod.fromOpcode header.opcode = some method ∧
      cfg.codec.unpackRequest cfg.limits.maxMsgpackNestingDepth bytes = .ok body

/-- The one error the loop then answers with is the pending limit. -/
theorem payload_response (hs : ServiceServer.step cfg s (.loop (.payload bytes)) = some s')
    (hdec : Decodes cfg s bytes) {r : Nat} {response : ControlResponse}
    (hr : s'.loop.response? = some (r, response)) : response = limitResponse cfg.limits := by
  cases hloop : s.loop with
  | reading declared header =>
      obtain ⟨method, body, hmethod, hbody⟩ := hdec declared header hloop
      rw [step_reading hs hloop hmethod hbody] at hr
      cases hr
  | discarding declared header why =>
      simp only [ServiceServer.step, loopStep, hloop] at hs
      split at hs
      · cases hs
        cases why with
        | cancel => cases hr
        | notRequest => cases hr
        | draining => cases hr
        | limited =>
            simp only [ServerConn.onDiscarded, ServerConn.reject] at hr
            split at hr
            · cases hr
            · cases hr
              rfl
      · cases hs
  | waiting | cancelling | rejecting | rejectWriting | inserting | draining | done =>
      simp only [ServiceServer.step, loopStep, hloop] at hs
      cases hs

/-- A response for request `r`: what its handler returned, the pending limit or
    the cancellation. -/
def AnsweredFor (cfg : ServerCfg) (s : ServerConn) (r : Nat) (response : ControlResponse) :
    Prop :=
  (r, response) ∈ s.returned ∨ response = limitResponse cfg.limits ∨ response = cancelledResponse

theorem AnsweredFor.mono {e : ServerEvent} (hs : ServiceServer.step cfg s e = some s') {r : Nat}
    {response : ControlResponse} (h : AnsweredFor cfg s r response) :
    AnsweredFor cfg s' r response :=
  h.imp_left ((step_returned hs).1 _)

/-- Every response held or written is such a response. -/
structure Answered (cfg : ServerCfg) (s : ServerConn) : Prop where
  tasks : ∀ (i : Nat) (t : Task) (response : ControlResponse), s.tasks[i]? = some t →
    t.phase.response? = some response → AnsweredFor cfg s t.req response
  loop : ∀ (r : Nat) (response : ControlResponse), s.loop.response? = some (r, response) →
    AnsweredFor cfg s r response
  replies : ∀ p ∈ s.replies, AnsweredFor cfg s p.req p.response

theorem answered_start (cfg : ServerCfg) : Answered cfg (.start cfg) where
  tasks := by intro i t response h; exact nomatch h
  loop := by intro r response h; exact nomatch h
  replies := by intro p h; exact nomatch h

/-- Only a payload puts a response into the loop's hands. -/
theorem loop_response {e : ServerEvent} (hs : ServiceServer.step cfg s e = some s')
    (he : ∀ bytes, e ≠ .loop (.payload bytes)) {r : Nat} {response : ControlResponse}
    (hr : s'.loop.response? = some (r, response)) : s.loop.response? = some (r, response) := by
  rcases ServiceServer.step_move hs with ⟨le, rfl, m⟩ | ⟨i, t, te, rfl, ht, m⟩
  · cases m with
    | beginDrain => exact hr
    | reject header bytes => exact absurd rfl (he bytes)
    | rejectLock r' response' frame hl =>
        rw [hl]
        exact hr
    | rejectWrite r' response' frame written n hl =>
        rw [hl]
        exact hr
    | stopReading | headerFailed | toDiscarding | toReading | toCancelling | notRequest
    | abandon | spawn | discardFailed | readFailed | cancelMiss | cancelHit | insert
    | rejectFlush | rejectFail | drainSweep => exact nomatch hr
  · rwa [(taskMove_loop m).1] at hr

theorem Answered.preserved {e : ServerEvent} (h : Answered cfg s)
    (hs : ServiceServer.step cfg s e = some s')
    (hdec : ∀ bytes, e = .loop (.payload bytes) → Decodes cfg s bytes) : Answered cfg s' where
  tasks := by
    intro j u response hu hr
    cases ServiceServer.step_origin hs hu with
    | same t _ ht htag hp _ =>
        rw [Task.req_of_tag htag]
        exact (h.tasks j t response ht (hp ▸ hr)).mono hs
    | moved t te he ht htag hp _ =>
        rw [Task.req_of_tag htag]
        rcases hp.response_inv hr with hr | rfl | rfl
        · exact (h.tasks j t response ht hr).mono hs
        · exact .inl ((step_returned hs).2 j t response he ht)
        · exact .inr (.inr rfl)
    | fresh _ hp =>
        rw [hp] at hr
        exact nomatch hr
  loop := by
    intro r response hr
    by_cases he : ∃ bytes, e = .loop (.payload bytes)
    · obtain ⟨bytes, rfl⟩ := he
      exact .inr (.inl (payload_response hs (hdec bytes rfl) hr))
    · exact (h.loop r response (loop_response hs (not_exists.mp he) hr)).mono hs
  replies := by
    intro p hp
    refine AnsweredFor.mono hs ?_
    cases step_replies hs with
    | keep _ _ hrep => exact h.replies p (hrep ▸ hp)
    | task i t response frame written n _ ht hph _ _ hrep =>
        rw [hrep] at hp
        split at hp
        · rcases List.mem_append.mp hp with hp | hp
          · exact h.replies p hp
          · rw [List.mem_singleton.mp hp]
            exact h.tasks i t response ht (by rw [hph]; rfl)
        · exact h.replies p hp
    | loop r response frame written n _ hl _ _ _ hrep =>
        rw [hrep] at hp
        split at hp
        · rcases List.mem_append.mp hp with hp | hp
          · exact h.replies p hp
          · rw [List.mem_singleton.mp hp]
            exact h.loop r response (by rw [hl]; rfl)
        · exact h.replies p hp

/-- A result of a handler is the result of a task. -/
theorem returned_tag {e : ServerEvent} (hs : ServiceServer.step cfg s e = some s')
    (h : ∀ p ∈ s.returned, ∃ a ∈ s.tags, a.1 = p.1) :
    ∀ p ∈ s'.returned, ∃ a ∈ s'.tags, a.1 = p.1 := by
  -- tags stay
  have htags : ∀ a ∈ s.tags, a ∈ s'.tags := by
    intro a ha
    cases step_log hs with
    | keep htags _ _ | abandon _ htags _ _ _ | reject _ htags _ _ _
    | settle _ _ _ _ _ _ _ htags => rwa [htags]
    | spawn _ _ htags =>
        rw [htags]
        exact List.mem_append_left _ ha
  have hkeep : s'.returned = s.returned → ∀ p ∈ s'.returned, ∃ a ∈ s'.tags, a.1 = p.1 := by
    intro hret p hp
    rw [hret] at hp
    obtain ⟨a, ha, hreq⟩ := h p hp
    exact ⟨a, htags a ha, hreq⟩
  rcases ServiceServer.step_move hs with ⟨le, rfl, m⟩ | ⟨i, t, te, rfl, ht, m⟩
  · cases m with
    | insert => exact hkeep (returned_removePending _ _ _)
    | beginDrain | stopReading | headerFailed | toDiscarding | toReading | toCancelling
    | notRequest | abandon | reject | spawn | discardFailed | readFailed | cancelMiss | cancelHit
    | rejectLock | rejectWrite | rejectFlush | rejectFail | drainSweep => exact hkeep rfl
  · cases m with
    | handlerReturn response hp =>
        intro p hmem
        rcases List.mem_append.mp hmem with hmem | hmem
        · obtain ⟨a, ha, hreq⟩ := h p hmem
          exact ⟨a, htags a ha, hreq⟩
        · rw [List.mem_singleton.mp hmem]
          exact ⟨t.tag, htags _ (List.mem_of_getElem? (tags_getElem? ht)), rfl⟩
    | remove => exact hkeep (returned_removePending _ _ _)
    | pollLock | pollInvoke | acquire | handlerPanic | abortSeen | encodeFail | encode
    | lockWriter | write | flush | writeFail | drop => exact hkeep rfl

/-- A loop that has read a header is at that frame. -/
theorem header_reading {declared declared' : Nat} {header header' : FrameHeader}
    (hs : ServiceServer.step cfg s (.loop (.header declared header)) = some s')
    (hloop : s'.loop = .reading declared' header') : declared = declared' ∧ header = header' := by
  rcases ServiceServer.step_move hs with ⟨le, hle, m⟩ | ⟨i, t, te, hte, -, -⟩
  · obtain rfl := ServerEvent.loop.inj hle
    cases m with
    | toDiscarding => cases hloop
    | toReading => exact LoopPhase.reading.inj hloop
  · cases hte

/-- A task that was not just spawned was there, with its request. -/
theorem task_before {e : ServerEvent} (hs : ServiceServer.step cfg s e = some s')
    (he : ∀ declared header bytes, e = .loop (.payload bytes) → s.loop ≠ .reading declared header)
    {u : Task} (hu : u ∈ s'.tasks) : ∃ t ∈ s.tasks, u.tag = t.tag := by
  obtain ⟨j, hj⟩ := List.getElem?_of_mem hu
  cases ServiceServer.step_origin hs hj with
  | same t _ ht htag => exact ⟨t, List.mem_of_getElem? ht, htag⟩
  | moved t _ _ ht htag => exact ⟨t, List.mem_of_getElem? ht, htag⟩
  | fresh _ _ hfresh =>
      obtain ⟨declared, header, bytes, rfl, hloop, -⟩ := hfresh
      exact absurd hloop (he declared header bytes rfl)

end Server

/-! ## The connection -/

section Connection

variable {cfg : RpcCfg} {l l' : Link} {e : LinkEvent}

/-- What a step of the connection does when it reads a payload. -/
theorem readPayload_inv {cfg : LinkCfg} (h : ServiceLink.step cfg l .readPayload = some l') :
    ∃ o declared header, l.sess.outbox[l.readPos]? = some o ∧
      incoming l.srv.loop = some (declared, header) ∧
      ((∃ payload rest srv, readPayloadOrDiscard declared header (o.bytes.drop 28)
            = .ok (payload, rest) ∧
          ServiceServer.step cfg.server l.srv (.loop (.payload payload)) = some srv ∧
          l' = { l with srv := srv, readPos := l.readPos + 1 }) ∨
        ∃ error srv, ServiceServer.step cfg.server l.srv (.loop (.payloadFailed error)) = some srv ∧
          l' = { l with srv := srv }) := by
  simp only [ServiceLink.step] at h
  split at h
  · rename_i o declared header ho hin
    split at h
    · rename_i payload rest hread
      obtain ⟨l₁, hl₁, rfl⟩ := Option.map_eq_some_iff.mp h
      obtain ⟨srv, hs, rfl⟩ := Option.map_eq_some_iff.mp hl₁
      exact ⟨o, declared, header, ho, hin, .inl ⟨payload, rest, srv, hread, hs, rfl⟩⟩
    · rename_i error _
      obtain ⟨srv, hs, rfl⟩ := Option.map_eq_some_iff.mp h
      exact ⟨o, declared, header, ho, hin, .inr ⟨error, srv, hs, rfl⟩⟩
  · cases h

/-- No other step takes a frame off the session's output. -/
theorem readPos_kept {cfg : LinkCfg} (h : ServiceLink.step cfg l e = some l')
    (he : e ≠ .readPayload) : l'.readPos = l.readPos := by
  have hserver : ∀ {se}, l.stepServer cfg se = some l' → l'.readPos = l.readPos := by
    intro se hs
    obtain ⟨srv, -, rfl⟩ := Option.map_eq_some_iff.mp hs
    rfl
  have hclient : ∀ {ce l₁}, l.stepClient cfg ce = some l₁ → l₁.readPos = l.readPos := by
    intro ce l₁ hs
    obtain ⟨sess, -, rfl⟩ := Option.map_eq_some_iff.mp hs
    rfl
  cases e with
  | client ce =>
      simp only [ServiceLink.step] at h
      split at h
      · cases h
      · exact hclient h
  | server se =>
      simp only [ServiceLink.step] at h
      split at h
      · cases h
      · exact hserver h
  | readHeader =>
      simp only [ServiceLink.step] at h
      split at h
      · cases h
      · split at h
        · cases h
        · exact hserver h
        · exact hserver h
  | readPayload => exact absurd rfl he
  | respond i =>
      simp only [ServiceLink.step] at h
      split at h
      · exact hserver h
      · cases h
  | reject =>
      simp only [ServiceLink.step] at h
      split at h
      · exact hserver h
      · cases h
  | receive =>
      simp only [ServiceLink.step] at h
      split at h
      · cases h
      · split at h
        · cases h
        · obtain ⟨l₁, hl₁, rfl⟩ := Option.map_eq_some_iff.mp h
          have hpos := hclient hl₁
          exact hpos
        · obtain ⟨l₁, hl₁, rfl⟩ := Option.map_eq_some_iff.mp h
          have hpos := hclient hl₁
          exact hpos

/-- Task `t` is the one of call `i`: it stands where the call's request does and
    holds the call's request. -/
def Serves (l : Link) (t : ServiceServer.Task) (i : Nat) : Prop :=
  ∃ requestId bytes c, (requestsSent l)[t.req]? = some (.request i requestId bytes) ∧
    l.sess.calls[i]? = some c ∧ c.requestId = some requestId ∧ t.request = c.request

/-- What the session has written and its calls are only added to. -/
structure Grows (l l' : Link) : Prop where
  sent : ∃ more, l'.sess.outbox = l.sess.outbox ++ more
  calls : ∀ (i : Nat) (c : ServiceSession.Call), l.sess.calls[i]? = some c →
    ∃ u, l'.sess.calls[i]? = some u ∧ u.request = c.request ∧
      ∀ id, c.requestId = some id → u.requestId = some id

theorem Grows.of_eq (h : l'.sess = l.sess) : Grows l l' where
  sent := ⟨[], by rw [h, List.append_nil]⟩
  calls := by
    intro i c hc
    rw [h]
    exact ⟨c, hc, rfl, fun _ hid => hid⟩

theorem Grows.client {ce : ServiceSession.SessionEvent} {scfg : ServiceSession.SessionCfg}
    (hnum : ServiceSession.Numbered l.sess)
    (hs : ServiceSession.step scfg l.sess ce = some l'.sess) : Grows l l' where
  sent := ServiceSession.outbox_extends hs
  calls := by
    intro i c hc
    obtain ⟨u, hu, hreq, hid, -, -⟩ := ServiceSession.step_keeps_call hnum hs hc
    exact ⟨u, hu, hreq, hid⟩

theorem Serves.grows {t : ServiceServer.Task} {i : Nat} (h : Serves l t i) (hg : Grows l l') :
    Serves l' t i := by
  obtain ⟨requestId, bytes, c, hsent, hc, hid, hreq⟩ := h
  obtain ⟨more, hmore⟩ := hg.sent
  obtain ⟨u, hu, hsame, hkeep⟩ := hg.calls i c hc
  refine ⟨requestId, bytes, u, ?_, hu, hkeep _ hid, hreq.trans hsame.symm⟩
  have happend : requestsSent l' = requestsSent l ++ more.filter fun o => (sentId o).isSome := by
    rw [requestsSent, hmore, List.filter_append]
    rfl
  rw [happend, List.getElem?_append_left (lt_length_of_getElem? hsent)]
  exact hsent

/-- The requests of a session stay when it grows. -/
theorem RequestCarried.before (hg : Grows l l')
    (h : ∀ c ∈ l'.sess.calls, RequestCarried cfg c.request) :
    ∀ c ∈ l.sess.calls, RequestCarried cfg c.request := by
  intro c hc
  obtain ⟨i, hi⟩ := List.getElem?_of_mem hc
  obtain ⟨u, hu, hsame, -⟩ := hg.calls i c hi
  rw [← hsame]
  exact h u (List.mem_of_getElem? hu)

/-- The entry at a position, among the entries of its kind. -/
theorem filter_getElem?_take {α : Type} {p : α → Bool} {xs : List α} {n : Nat} {a : α}
    (h : xs[n]? = some a) (hp : p a = true) :
    (xs.filter p)[((xs.take n).filter p).length]? = some a := by
  have hlt := lt_length_of_getElem? h
  have hdrop : xs.drop n = a :: xs.drop (n + 1) := by
    rw [List.drop_eq_getElem_cons hlt]
    rw [List.getElem?_eq_getElem hlt] at h
    rw [Option.some.inj h]
  conv_lhs => rw [← List.take_append_drop n xs, List.filter_append]
  rw [List.take_append_drop, List.getElem?_append_right (Nat.le_refl _), Nat.sub_self, hdrop,
    List.filter_cons_of_pos hp]
  rfl

/-- The request the server is reading comes next in its log. -/
theorem Wired.next_request {i requestId : Nat} {bytes : List UInt8} (h : Wired l)
    (ho : l.sess.outbox[l.readPos]? = some (.request i requestId bytes)) :
    (requestsSent l)[l.srv.requests.length]? = some (.request i requestId bytes) := by
  have hlen : l.srv.requests.length
      = ((l.sess.outbox.take l.readPos).filter fun o => (sentId o).isSome).length := by
    have hread := congrArg List.length h.read
    rw [List.length_map, List.length_map, List.length_filterMap_eq_countP,
      List.countP_eq_length_filter] at hread
    exact hread
  rw [hlen]
  exact filter_getElem?_take ho rfl

/-- Where the server stands in the session's requests. -/
structure Run (cfg : RpcCfg) (l : Link) : Prop where
  link : LinkInv cfg.link l
  heading : ∀ (declared : Nat) (header : FrameHeader), l.srv.loop = .reading declared header →
    ∃ o rest, l.sess.outbox[l.readPos]? = some o ∧
      readFramePrefix cfg.serverLimits o.bytes = .ok (some (declared, header, rest))
  served : ∀ t ∈ l.srv.tasks, ∃ i, Serves l t i
  returned : ∀ p ∈ l.srv.returned, ∃ a ∈ l.srv.tags, a.1 = p.1
  answered : Answered cfg.link.server l.srv

theorem run_start (cfg : RpcCfg) : Run cfg (.start cfg.link) where
  link := linkInv_start _
  heading := by intro declared header h; cases h
  served := by intro t h; cases h
  returned := by intro p h; cases h
  answered := answered_start _

/-- The session moves. -/
theorem Run.client {ce : ServiceSession.SessionEvent} (h : Run cfg l)
    (hlink : LinkInv cfg.link l')
    (hs : ServiceSession.step cfg.link.client l.sess ce = some l'.sess)
    (hsrv : l'.srv = l.srv) (hpos : l'.readPos = l.readPos) : Run cfg l' := by
  have hg : Grows l l' := .client h.link.sess.numbered hs
  refine ⟨hlink, ?_, ?_, ?_, ?_⟩
  · intro declared header hloop
    rw [hsrv] at hloop
    obtain ⟨o, rest, ho, hread⟩ := h.heading declared header hloop
    obtain ⟨more, hmore⟩ := hg.sent
    refine ⟨o, rest, ?_, hread⟩
    rw [hmore, hpos, List.getElem?_append_left (lt_length_of_getElem? ho)]
    exact ho
  · rw [hsrv]
    intro t ht
    obtain ⟨i, hserves⟩ := h.served t ht
    exact ⟨i, hserves.grows hg⟩
  · rw [hsrv]
    exact h.returned
  · rw [hsrv]
    exact h.answered

/-- The server moves, without taking a payload it was reading. -/
theorem Run.server {se : ServiceServer.ServerEvent} {srv : ServiceServer.ServerConn}
    (h : Run cfg l) (hlink : LinkInv cfg.link l')
    (hs : ServiceServer.step cfg.link.server l.srv se = some srv) (hsrv : l'.srv = srv)
    (hsess : l'.sess = l.sess)
    (hquiet : ∀ declared header bytes, se = .loop (.payload bytes) →
      l.srv.loop ≠ .reading declared header)
    (hheading : ∀ declared header, srv.loop = .reading declared header →
      ∃ o rest, l'.sess.outbox[l'.readPos]? = some o ∧
        readFramePrefix cfg.serverLimits o.bytes = .ok (some (declared, header, rest))) :
    Run cfg l' := by
  have hg : Grows l l' := .of_eq hsess
  subst hsrv
  refine ⟨hlink, hheading, ?_, returned_tag hs h.returned, h.answered.preserved hs ?_⟩
  · intro u hu
    obtain ⟨t, ht, htag⟩ := task_before hs hquiet hu
    obtain ⟨i, requestId, bytes, c, hsent, hc, hid, hreq⟩ := h.served t ht
    refine ⟨i, Serves.grows ⟨requestId, bytes, c, ?_, hc, hid, ?_⟩ hg⟩
    · rwa [ServiceServer.Task.req_of_tag htag]
    · rw [ServiceServer.Task.request_of_tag htag, hreq]
  · intro bytes he declared header hloop
    exact absurd hloop (hquiet declared header bytes he)

/-- The server takes the payload of a carried request. -/
theorem Run.payload {declared : Nat} {header : FrameHeader} {payload rest : List UInt8}
    {o : ServiceSession.Outgoing} {srv : ServiceServer.ServerConn} (h : Run cfg l)
    (hlim : cfg.limits.maxFrameBytes < 2 ^ 32)
    (hcarried : ∀ c ∈ l.sess.calls, RequestCarried cfg c.request)
    (hlink : LinkInv cfg.link { l with srv := srv, readPos := l.readPos + 1 })
    (ho : l.sess.outbox[l.readPos]? = some o) (hloop : l.srv.loop = .reading declared header)
    (hread : readPayloadOrDiscard declared header (o.bytes.drop 28) = .ok (payload, rest))
    (hs : ServiceServer.step cfg.link.server l.srv (.loop (.payload payload)) = some srv) :
    Run cfg { l with srv := srv, readPos := l.readPos + 1 } := by
  obtain ⟨o', rest', ho', hframing⟩ := h.heading declared header hloop
  obtain ⟨i, requestId, bytes, hnext, -⟩ := h.link.wired.request declared header (.inl hloop)
  obtain rfl : o = o' := Option.some.inj (ho.symm.trans ho')
  obtain rfl : o = .request i requestId bytes := Option.some.inj (ho.symm.trans hnext)
  obtain ⟨c, hc, hid, henc, -⟩ :=
    h.link.sess.booked.sent i requestId bytes (List.mem_of_getElem? ho)
  obtain ⟨-, -, hrest⟩ := readFramePrefix_ok hframing
  have hreq := hcarried c (List.mem_of_getElem? hc)
  -- the server decodes the call's own request
  obtain ⟨hmethod, hbody⟩ := request_decoded hreq hlim henc hframing (by rw [hrest]; exact hread)
  have hdec : Decodes cfg.link.server l.srv payload := by
    intro declared' header' hloop'
    obtain ⟨rfl, rfl⟩ := ServiceServer.LoopPhase.reading.inj (hloop.symm.trans hloop')
    exact ⟨_, _, hmethod, hbody⟩
  have hsrv := step_reading hs hloop hmethod hbody
  have hg : Grows l { l with srv := srv, readPos := l.readPos + 1 } := .of_eq rfl
  refine ⟨hlink, ?_, ?_, returned_tag hs h.returned, h.answered.preserved hs ?_⟩
  · intro declared' header' hloop'
    rw [hsrv] at hloop'
    cases hloop'
  · intro t ht
    rw [hsrv] at ht
    rcases List.mem_append.mp ht with ht | ht
    · obtain ⟨j, hserves⟩ := h.served t ht
      exact ⟨j, hserves.grows hg⟩
    · rw [List.mem_singleton.mp ht]
      exact ⟨i, Serves.grows ⟨requestId, bytes, c, Wired.next_request h.link.wired ho, hc, hid, rfl⟩
        hg⟩
  · rintro bytes' ⟨⟩
    exact hdec

/-- The session of a connection only grows. -/
theorem grows_of_step (h : LinkInv cfg.link l) (hs : ServiceLink.step cfg.link l e = some l') :
    Grows l l' := by
  cases ServiceLink.step_move hs with
  | client ce sess consumed _ hce => exact .client h.sess.numbered hce
  | receive p header payload rest sess _ _ hce => exact .client h.sess.numbered hce
  | server => exact .of_eq rfl
  | header => exact .of_eq rfl
  | payload => exact .of_eq rfl

/-- **THE STEP LEMMA**: every step keeps the invariant while the requests are
    carried. -/
theorem Run.preserved (h : Run cfg l) (hlim : cfg.limits.maxFrameBytes < 2 ^ 32)
    (hcarried : ∀ c ∈ l.sess.calls, RequestCarried cfg c.request)
    (hs : ServiceLink.step cfg.link l e = some l') : Run cfg l' := by
  have hlink := h.link.preserved hs
  -- a server that was reading a frame still reads it
  have hkept : ∀ {se srv}, ServiceServer.step cfg.link.server l.srv se = some srv →
      (∀ declared header, se ≠ .loop (.header declared header)) →
      ∀ declared header, srv.loop = .reading declared header →
        l.srv.loop = .reading declared header := by
    intro se srv hse hne declared header hloop
    rcases incoming_kept hse hne with hnone | hsame
    · rw [hloop] at hnone
      cases hnone
    · rw [← hsame, hloop]
  by_cases he : e = .readPayload
  · subst he
    obtain ⟨o, declared, header, ho, hin, ⟨payload, rest, srv, hread, hse, rfl⟩ |
      ⟨error, srv, hse, rfl⟩⟩ := readPayload_inv hs
    · cases hloop : l.srv.loop with
      | reading declared' header' =>
          rw [hloop] at hin
          cases hin
          exact h.payload hlim hcarried hlink ho hloop hread hse
      | discarding declared' header' why =>
          refine h.server hlink hse rfl rfl ?_ ?_
          · intro declared₁ header₁ bytes _ hreading
            rw [hloop] at hreading
            cases hreading
          · intro declared₁ header₁ hreading
            have hbefore := hkept hse (by rintro d hd ⟨⟩) declared₁ header₁ hreading
            rw [hloop] at hbefore
            cases hbefore
      | waiting | cancelling | rejecting | rejectWriting | inserting | draining | done =>
          rw [hloop] at hin
          cases hin
    · refine h.server hlink hse rfl rfl (by rintro d hd bytes ⟨⟩) ?_
      intro declared' header' hreading
      exact h.heading declared' header' (hkept hse (by rintro d hd ⟨⟩) declared' header' hreading)
  · cases ServiceLink.step_move hs with
    | client ce sess consumed _ hce => exact h.client hlink hce rfl rfl
    | receive p header payload rest sess _ _ hce => exact h.client hlink hce rfl rfl
    | server se srv h₁ h₂ hse =>
        refine h.server hlink hse rfl rfl ?_ ?_
        · intro declared header bytes heq
          exact absurd heq (h₂ bytes)
        · intro declared header hreading
          exact h.heading declared header (hkept hse h₁ declared header hreading)
    | header o declared header rest srv ho hread hse =>
        refine h.server hlink hse rfl rfl (by rintro d hd bytes ⟨⟩) ?_
        intro declared' header' hreading
        -- the loop reads the frame whose header it has just read
        obtain ⟨rfl, rfl⟩ := header_reading hse hreading
        exact ⟨o, rest, ho, hread⟩
    | payload o declared header payload srv ho hin hse =>
        have hpos := readPos_kept hs he
        exact absurd hpos (Nat.succ_ne_self _)

/-- **THE RUN LEMMA**: the requests of the last state are those of every state
    before it. -/
theorem run_of_reaches (hlim : cfg.limits.maxFrameBytes < 2 ^ 32)
    (h : Reaches (ServiceLink.step cfg.link) Free (.start cfg.link) l)
    (hcarried : ∀ c ∈ l.sess.calls, RequestCarried cfg c.request) : Run cfg l := by
  have hinv : LinkInv cfg.link l ∧
      ((∀ c ∈ l.sess.calls, RequestCarried cfg c.request) → Run cfg l) := by
    clear hcarried
    induction h with
    | init => exact ⟨linkInv_start _, fun _ => run_start cfg⟩
    | step e _ _ hs ih =>
        have hbefore := ih.1
        refine ⟨hbefore.preserved hs, fun hafter => ?_⟩
        have hcarried := RequestCarried.before (grows_of_step hbefore hs) hafter
        exact (ih.2 hcarried).preserved hlim hcarried hs
  exact hinv.2 hcarried

/-- A call has one task at most. -/
theorem Serves.req_unique {t t' : ServiceServer.Task} {i : Nat} (hinv : LinkInv cfg.link l)
    (h : Serves l t i) (h' : Serves l t' i) : t.req = t'.req := by
  obtain ⟨requestId, bytes, c, hsent, -⟩ := h
  obtain ⟨requestId', bytes', c', hsent', -⟩ := h'
  have hnodup : ((requestsSent l).filterMap ServiceSession.Outgoing.call?).Nodup :=
    hinv.sess.booked.once.sublist (List.filter_sublist.filterMap _)
  exact filterMap_inj hnodup hsent hsent' rfl rfl

variable (cfg l) in
/-- Every task serves a call, and none serves the same one. -/
def OneTaskEach : Prop :=
  ∀ (j : Nat) (t : ServiceServer.Task), l.srv.tasks[j]? = some t → ∃ i, Serves l t i ∧
    ∀ (j' : Nat) (t' : ServiceServer.Task), l.srv.tasks[j']? = some t' → Serves l t' i → j' = j

variable (cfg l) in
/-- `x` is what a handler made of the request of call `i`, or one of the server's
    own errors. -/
def Outcome (i : Nat) (x : ControlResponse) : Prop :=
  (∃ (j : Nat) (t : ServiceServer.Task) (response : ControlResponse),
      l.srv.tasks[j]? = some t ∧ Serves l t i ∧ (t.req, response) ∈ l.srv.returned ∧
        x = response.received) ∨
    x = ServiceServer.limitResponse cfg.serverLimits ∨ x = ServiceServer.cancelledResponse

variable (cfg) in
/-- The responses of the run are carried. -/
structure ResponsesCarried (l : Link) : Prop where
  returned : ∀ p ∈ l.srv.returned, ResponseCarried cfg p.2
  limit : ResponseCarried cfg (ServiceServer.limitResponse cfg.serverLimits)
  cancelled : ResponseCarried cfg ServiceServer.cancelledResponse

/-- **CALLS**: in every run over a format that carries its requests and
    responses, each task of the server has the request of one call, no call has
    two, and what a `send` returns is the result of its task's handler as it is
    received, the pending limit or the cancellation. -/
theorem call_law (hlim : cfg.limits.maxFrameBytes < 2 ^ 32)
    (hlim' : cfg.serverLimits.maxFrameBytes < 2 ^ 32)
    (h : Reaches (ServiceLink.step cfg.link) Free (.start cfg.link) l)
    (hids : l.sess.issuedIds.length < 2 ^ 64)
    (hrequests : ∀ c ∈ l.sess.calls, RequestCarried cfg c.request)
    (hresponses : ResponsesCarried cfg l) :
    OneTaskEach l ∧ ∀ (i : Nat) (c : ServiceSession.Call) (x : ControlResponse),
      l.sess.calls[i]? = some c → c.phase = .done (.ok x) → Outcome cfg l i x := by
  have hrun := run_of_reaches hlim h hrequests
  have hinv := hrun.link
  constructor
  · intro j t ht
    obtain ⟨i, hserves⟩ := hrun.served t (List.mem_of_getElem? ht)
    refine ⟨i, hserves, ?_⟩
    intro j' t' ht' hserves'
    exact hinv.tagged.req_injective ht' ht (hserves'.req_unique hinv hserves)
  · intro i c x hc hx
    obtain ⟨k, p, requestId, -, hp, hcid, hdec⟩ := hinv.delivered.slots i c x hc (.inr hx)
    have hmem := List.mem_of_getElem? hp
    obtain ⟨j, bytes, c', ho, hc', hcid'⟩ := hinv.reply_request hids hmem hdec
    obtain rfl : j = i := filterMap_inj (hinv.sess.numbered.nodup hids) hc' hc hcid' hcid
    obtain ⟨q, method, -, henc⟩ := hinv.encoded.replies p hmem
    have hreceived : ResponseCarried cfg p.response → x = p.response.received := by
      intro hcarried
      exact response_decoded hcarried hlim' henc hdec
    rcases hrun.answered.replies p hmem with hret | hlimit | hcancelled
    · -- the handler's result belongs to the task at the reply's place
      obtain ⟨a, ha, hreq⟩ := hrun.returned _ hret
      obtain ⟨m, hm⟩ := List.getElem?_of_mem ha
      rw [ServiceServer.ServerConn.tags, List.getElem?_map] at hm
      obtain ⟨t, ht, rfl⟩ := Option.map_eq_some_iff.mp hm
      have htreq : t.req = p.req := hreq
      obtain ⟨i', requestId', bytes', c'', hsent, hc'', hid, htask⟩ :=
        hrun.served t (List.mem_of_getElem? ht)
      have hsame := hsent
      rw [htreq, ho] at hsame
      cases hsame
      refine .inl ⟨m, t, p.response, ht, ⟨_, _, c'', hsent, hc'', hid, htask⟩, ?_,
        hreceived (hresponses.returned _ hret)⟩
      rw [htreq]
      exact hret
    · rw [hreceived (hlimit ▸ hresponses.limit), hlimit]
      exact .inr (.inl rfl)
    · rw [hreceived (hcancelled ▸ hresponses.cancelled), hcancelled]
      exact .inr (.inr rfl)

end Connection

/-! ## A sample run -/

/-- A MessagePack for the sample values. -/
def sampleFormat (_ : Nat) : Format where
  write
    | .map [("token", .str "t"), ("params", .unit)] => .ok samplePayload
    | .map [("ok", .bool true), ("result", .unit)] => .ok (ServiceTransport.samplePacked 0xC0)
    | .map [("ok", .bool true), ("result", .bool true)] => .ok (ServiceTransport.samplePacked 0xC3)
    | _ => .error "not a sample value"
  read bytes :=
    if bytes = samplePayload then .ok (.map [("token", .str "t"), ("params", .unit)])
    else if bytes = ServiceTransport.samplePacked 0xC0 then
      .ok (.map [("ok", .bool true), ("result", .unit)])
    else if bytes = ServiceTransport.samplePacked 0xC3 then
      .ok (.map [("ok", .bool true), ("result", .bool true)])
    else .error "not a sample value"

/-- Both ends of the sample connection. -/
def sampleRpc : RpcCfg where
  limits := sampleLimits
  serverLimits := sampleLimits
  packed := sampleFormat
  json := ServiceLink.sampleCfg.json

/-- A call that is answered with `empty_ok()`. -/
def answeredCall : Link :=
  (run (ServiceLink.step sampleRpc.link) Free (.start sampleRpc.link)
    (sends 0 ++ accepts ++ answers 0 .emptyOk ++ [.receive, .client (.call 0 .receive)])).getD
    (.start sampleRpc.link)

theorem sampleRequest_carried : RequestCarried sampleRpc ⟨"t", .healthCheck, .null⟩ where
  proper := .null
  carried := by
    intro bytes hwrite
    cases hwrite
    rfl

theorem sampleResponses_carried : ResponsesCarried sampleRpc answeredCall where
  returned := by
    have hreturned : answeredCall.srv.returned = [(0, .emptyOk)] := rfl
    rw [hreturned]
    intro p hp
    obtain rfl := List.mem_singleton.mp hp
    constructor
    · rintro v ⟨⟩
      exact .null
    · intro bytes hwrite
      cases hwrite
      rfl
  limit := by
    constructor
    · rintro v ⟨⟩
    · intro bytes hwrite
      cases hwrite
  cancelled := by
    constructor
    · rintro v ⟨⟩
    · intro bytes hwrite
      cases hwrite

theorem call_law_answered :
    OneTaskEach answeredCall ∧ Outcome sampleRpc answeredCall 0 ⟨true, none, none⟩ := by
  have hrun : Reaches (ServiceLink.step sampleRpc.link) Free (.start sampleRpc.link) answeredCall :=
    reaches_getD (by decide)
  have hcalls : answeredCall.sess.calls.map ServiceSession.Call.request
      = [⟨"t", .healthCheck, .null⟩] := rfl
  have hrequests : ∀ c ∈ answeredCall.sess.calls, RequestCarried sampleRpc c.request := by
    intro c hc
    have hmem : c.request ∈ answeredCall.sess.calls.map ServiceSession.Call.request :=
      List.mem_map_of_mem hc
    rw [hcalls] at hmem
    exact List.mem_singleton.mp hmem ▸ sampleRequest_carried
  have hlim : sampleRpc.limits.maxFrameBytes < 2 ^ 32 := by decide
  obtain ⟨heach, houtcome⟩ :=
    call_law hlim hlim hrun (by decide) hrequests sampleResponses_carried
  exact ⟨heach, houtcome 0 _ _ rfl rfl⟩

end ServiceRpc
