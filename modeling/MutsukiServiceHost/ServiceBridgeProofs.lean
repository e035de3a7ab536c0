import MutsukiServiceHost.ListUpdateProofs
import MutsukiServiceHost.ServiceRequestProofs
import MutsukiServiceHost.TransitionProofs

/-! # The link control bridge

    `LinkControlHandler` and `QuicLinkControlHandler` relay one request over a
    connection of its own: one frame each way, both internally tagged JSON.  The
    local server serves its connections one after the other inside the accept
    loop, the QUIC server each in a task of its own.

    A relay and its connection are an `Exchange`; the bridge is a list of them
    with the accept loop.  What the transport relies on is that a frame is
    received on the connection it was sent on; that a send or a receive fails,
    or is given up after its five seconds, is an event.

    * `bridge_law` — a relay's request reaches the handler at most once and as it
      was, `Ok` is what the handler made of it, and a relay that never connected
      or was rejected has not reached the handler; the local server has one
      connection in its hands at a time. -/

namespace ServiceControl

open SerdeContent

/-- The fields of a `ControlResponse`, as they are written. -/
def ControlResponse.entries (r : ControlResponse) : List (String × Content) :=
  ("ok", .bool r.ok) :: skipNone "result" (r.result.map Value.serialize)
    ++ skipNone "error" (r.error.map ControlErrorBody.serialize)

theorem ControlResponse.entries_keys {r : ControlResponse} {e : String × Content}
    (h : e ∈ r.entries) : e.1 ∈ ["ok", "result", "error"] := by
  obtain ⟨ok, result, error⟩ := r
  cases result with
  | none =>
      cases error with
      | none =>
          simp only [entries, skipNone, Option.map_none, List.append_nil, List.mem_singleton] at h
          simp [h]
      | some e' =>
          simp only [entries, skipNone, Option.map_none, Option.map_some, List.cons_append,
            List.nil_append, List.mem_cons, List.not_mem_nil, or_false] at h
          rcases h with h | h <;> simp [h]
  | some v =>
      cases error with
      | none =>
          simp only [entries, skipNone, Option.map_none, Option.map_some, List.append_nil,
            List.mem_cons, List.not_mem_nil, or_false] at h
          rcases h with h | h <;> simp [h]
      | some e' =>
          simp only [entries, skipNone, Option.map_some, List.cons_append, List.nil_append,
            List.mem_cons, List.not_mem_nil, or_false] at h
          rcases h with h | h | h <;> simp [h]

end ServiceControl

namespace ServiceBridge

open SerdeContent ServiceControl ListUpdate Transition

/-! ## Frames -/

/-- `LinkControlRejectCode`. -/
inductive LinkControlRejectCode where
  | protocolIncompatible
  | invalidRequest
  | internal
  deriving DecidableEq, Repr

/-- Its name (`rename_all = "snake_case"`). -/
def LinkControlRejectCode.name : LinkControlRejectCode → String
  | .protocolIncompatible => "protocol_incompatible"
  | .invalidRequest => "invalid_request"
  | .internal => "internal"

/-- Its `Debug` text. -/
def LinkControlRejectCode.debug : LinkControlRejectCode → String
  | .protocolIncompatible => "ProtocolIncompatible"
  | .invalidRequest => "InvalidRequest"
  | .internal => "Internal"

def LinkControlRejectCode.names : List String :=
  ["protocol_incompatible", "invalid_request", "internal"]

/-- `Deserialize` of a `LinkControlRejectCode`. -/
def LinkControlRejectCode.deserialize (c : Content) : Except ReadError LinkControlRejectCode :=
  match readVariant LinkControlRejectCode.names c with
  | .error e => .error e
  | .ok name =>
      if name = "protocol_incompatible" then .ok .protocolIncompatible
      else if name = "invalid_request" then .ok .invalidRequest
      else .ok .internal

/-- `LinkControlClientFrame`. -/
inductive LinkControlClientFrame where
  | controlRequest (request : ControlRequest)

/-- `LinkControlServerFrame`. -/
inductive LinkControlServerFrame where
  | controlResponse (response : ControlResponse)
  | rejected (code : LinkControlRejectCode) (message : String)

/-- `Serialize` of a `LinkControlClientFrame`: the request behind its tag. -/
def LinkControlClientFrame.serialize : LinkControlClientFrame → Content
  | .controlRequest request => .map (("frame", .str "control_request") :: request.entries)

/-- `Deserialize` of a `LinkControlClientFrame`. -/
def LinkControlClientFrame.deserialize (c : Content) : Except ReadError LinkControlClientFrame := do
  let (_, rest) ←
    readTagged "frame" "internally tagged enum LinkControlClientFrame" ["control_request"] c
  let request ← ControlRequest.deserialize rest
  return .controlRequest request

/-- `Serialize` of a `LinkControlServerFrame`. -/
def LinkControlServerFrame.serialize : LinkControlServerFrame → Content
  | .controlResponse response =>
      .map (("frame", .str "control_response") :: response.entries)
  | .rejected code message =>
      .map [("frame", .str "rejected"), ("code", .str code.name), ("message", .str message)]

/-- `Deserialize` of the fields of `Rejected`. -/
def deserializeRejected : Content → Except ReadError LinkControlServerFrame
  | .map entries => do
      let slots ← entries.foldlM
        (visitBoth (visitField "code" LinkControlRejectCode.deserialize)
          (visitField "message" readString)) (none, none)
      let code ← need "code" slots.1
      let message ← need "message" slots.2
      return .rejected code message
  | .seq items => do
      let (code, items) ←
        takeElement 0 "struct variant LinkControlServerFrame::Rejected with 2 elements"
          LinkControlRejectCode.deserialize items
      let (message, items) ←
        takeElement 1 "struct variant LinkControlServerFrame::Rejected with 2 elements" readString
          items
      takeEnd 2 (.rejected code message) items
  | c => .error (.data (.invalidType c.kind "struct variant LinkControlServerFrame::Rejected"))

/-- `Deserialize` of a `LinkControlServerFrame`. -/
def LinkControlServerFrame.deserialize (c : Content) : Except ReadError LinkControlServerFrame := do
  let (name, rest) ← readTagged "frame" "internally tagged enum LinkControlServerFrame"
    ["control_response", "rejected"] c
  if name = "control_response" then
    let response ← (ControlResponse.deserialize rest).mapError .data
    return .controlResponse response
  else deserializeRejected rest

/-- **A REQUEST FRAME** comes back whole. -/
theorem LinkControlClientFrame.deserialize_serialize {request : ControlRequest}
    (h : request.params.Proper) :
    LinkControlClientFrame.deserialize (LinkControlClientFrame.controlRequest request).serialize
      = .ok (.controlRequest request) := by
  have habsent : Absent "frame" request.entries := by
    simp [Absent, ControlRequest.entries]
  rw [LinkControlClientFrame.deserialize, LinkControlClientFrame.serialize,
    readTagged_written (List.mem_singleton_self _) habsent]
  show (ControlRequest.deserialize request.serialize >>= fun request =>
    Except.ok (LinkControlClientFrame.controlRequest request)) = _
  rw [ControlRequest.deserialize_serialize h]
  rfl

/-- The frame a client has in place of `frame`. -/
def LinkControlServerFrame.received : LinkControlServerFrame → LinkControlServerFrame
  | .controlResponse response => .controlResponse response.received
  | .rejected code message => .rejected code message

/-- A frame whose response can exist. -/
def LinkControlServerFrame.Proper : LinkControlServerFrame → Prop
  | .controlResponse response => response.Proper
  | .rejected _ _ => True

/-- **AN ANSWER FRAME** comes back as the response does. -/
theorem LinkControlServerFrame.deserialize_serialize {frame : LinkControlServerFrame}
    (h : frame.Proper) :
    LinkControlServerFrame.deserialize frame.serialize = .ok frame.received := by
  cases frame with
  | controlResponse response =>
      have habsent : Absent "frame" response.entries := by
        intro e he heq
        have hkey := ControlResponse.entries_keys he
        rw [heq] at hkey
        simp at hkey
      rw [LinkControlServerFrame.deserialize, LinkControlServerFrame.serialize,
        readTagged_written (by simp) habsent]
      show ((ControlResponse.deserialize response.serialize).mapError ReadError.data >>=
        fun response => Except.ok (LinkControlServerFrame.controlResponse response)) = _
      rw [ControlResponse.deserialize_serialize h]
      rfl
  | rejected code message =>
      have habsent : Absent "frame" [("code", .str code.name), ("message", .str message)] := by
        simp [Absent]
      rw [LinkControlServerFrame.deserialize, LinkControlServerFrame.serialize,
        readTagged_written (by simp) habsent]
      show deserializeRejected (.map [("code", .str code.name), ("message", .str message)]) = _
      cases code with
      | protocolIncompatible => rfl
      | invalidRequest => rfl
      | internal => rfl

/-! ## Relays -/

/-- Where a relay goes: to the local app, or over QUIC. -/
inductive Mode where
  | localApp (appId : String)
  | quic (addr : String)
  deriving DecidableEq, Repr

def Mode.isLocal : Mode → Bool
  | .localApp _ => true
  | .quic _ => false

/-- Why `relay_request` or `relay_quic` fails. -/
inductive RelayError where
  /-- `AppId::new` refuses the id, or there is no QUIC connector -/
  | setup (error : String)
  | connect (error : String)
  | send (error : String)
  | receive (error : String)
  | rejected (code : LinkControlRejectCode) (message : String)
  deriving DecidableEq, Repr

/-- The text of the error. -/
def Mode.text : Mode → RelayError → String
  | .localApp appId, .setup _ =>
      "standalone.link_connect_failed: invalid link app id `" ++ appId ++ "`"
  | .localApp appId, .connect error =>
      "standalone.link_connect_failed: could not reach ServiceHost link endpoint `" ++ appId
        ++ "` (" ++ error ++ ")"
  | .localApp _, .send error => "standalone.link_protocol_error: " ++ error
  | .localApp _, .receive error => "standalone.link_protocol_error: " ++ error
  | .quic _, .setup error =>
      "standalone.link_quic_unavailable: failed to create QUIC connector (" ++ error ++ ")"
  | .quic addr, .connect error =>
      "standalone.link_connect_failed: could not reach QUIC link endpoint `" ++ addr ++ "` ("
        ++ error ++ ")"
  | .quic _, .send error => "standalone.link_protocol_error: send: " ++ error
  | .quic _, .receive error => "standalone.link_protocol_error: recv: " ++ error
  | _, .rejected code message =>
      "standalone.link_rejected: " ++ code.debug ++ ": " ++ message

/-- `forward_request`: what `handle` gives its caller. -/
def Mode.forward (mode : Mode) : Except RelayError ControlResponse → ControlResponse
  | .ok response => response
  | .error error => .err (.failed (mode.text error))

/-- What a frame is to the relay. -/
def answerOf : Except String LinkControlServerFrame → Except RelayError ControlResponse
  | .error error => .error (.receive error)
  | .ok (.controlResponse response) => .ok response
  | .ok (.rejected code message) => .error (.rejected code message)

theorem answerOf_ne_setup {frame : Except String LinkControlServerFrame} (error : String) :
    answerOf frame ≠ .error (.setup error) := by
  cases frame with
  | error e => simp [answerOf]
  | ok frame => cases frame <;> simp [answerOf]

theorem answerOf_ne_connect {frame : Except String LinkControlServerFrame} (error : String) :
    answerOf frame ≠ .error (.connect error) := by
  cases frame with
  | error e => simp [answerOf]
  | ok frame => cases frame <;> simp [answerOf]

/-! ## One relay and its connection -/

/-- Where a relay stands. -/
inductive RelayPhase where
  | connecting
  | sending
  | receiving
  | done (result : Except RelayError ControlResponse)
  /-- its future was dropped -/
  | dropped

/-- Where `serve_connection` stands. -/
inductive ServePhase where
  /-- not accepted yet -/
  | backlog
  | receiving
  | handling (request : ControlRequest)
  | sending (frame : LinkControlServerFrame)
  /-- `serve_connection` has returned, the connection is not closed yet -/
  | closing
  | closed
  /-- the task that served it is gone -/
  | aborted

/-- The connection is in the server's hands. -/
def ServePhase.active : ServePhase → Bool
  | .receiving | .handling _ | .sending _ | .closing => true
  | _ => false

/-- `serve_connection` is over. -/
def ServePhase.past : ServePhase → Bool
  | .closing | .closed | .aborted => true
  | _ => false

/-- A relay with its connection: whether that has reached the server, what has
    arrived at either end, and the handler calls with their results. -/
structure Exchange where
  request : ControlRequest
  relay : RelayPhase
  reached : Bool
  toServer : Option (List UInt8)
  serve : ServePhase
  toClient : Option (List UInt8)
  invoked : List ControlRequest
  returned : List ControlResponse

/-- `handle` is called. -/
def Exchange.start (request : ControlRequest) : Exchange where
  request := request
  relay := .connecting
  reached := false
  toServer := none
  serve := .backlog
  toClient := none
  invoked := []
  returned := []

/-- How a send ends. -/
inductive Sending where
  | sent
  /-- an error of the transport, or the five seconds; the frame may have arrived -/
  | failed (error : String) (arrived : Bool)
  deriving DecidableEq, Repr

/-- `send_json`: what it returns, and what arrives. -/
def sendJson (json : Format) (c : Content) (how : Sending) :
    Except String Unit × Option (List UInt8) :=
  match json.write c with
  | .error error => (.error error, none)
  | .ok bytes =>
      match how with
      | .sent => (.ok (), some bytes)
      | .failed error arrived => (.error error, if arrived then some bytes else none)

/-- The steps of a relay and of its connection's server. -/
inductive ExchangeEvent where
  | setupFailed (error : String)
  | connectFailed (error : String)
  /-- the connection has come as far as the server -/
  | reach
  | connect
  | send (how : Sending)
  /-- the relay's `recv_json` takes the frame -/
  | receive
  | receiveFailed (error : String)
  | drop
  | accept
  /-- the server's `recv_json` takes the frame -/
  | take
  | takeFailed (error : String)
  | handlerReturn (response : ControlResponse)
  | handlerPanic
  | answer (how : Sending)
  | close

/-- The surroundings: the bridge, and `serde_json` as a format. -/
structure BridgeCfg where
  mode : Mode
  json : Format

/-- The frame of the relay. -/
def Exchange.frame (x : Exchange) : Content :=
  (LinkControlClientFrame.controlRequest x.request).serialize

namespace Exchange

/-- The relay after its send. -/
def onSend (x : Exchange) : Except String Unit × Option (List UInt8) → Exchange
  | (.ok (), bytes) => { x with relay := .receiving, toServer := bytes }
  | (.error error, bytes) => { x with relay := .done (.error (.send error)), toServer := bytes }

/-- The server after its receive. -/
def onTake (x : Exchange) : Except String LinkControlClientFrame → Exchange
  | .ok (.controlRequest request) =>
      { x with serve := .handling request, invoked := x.invoked ++ [request] }
  | .error message => { x with serve := .sending (.rejected .invalidRequest message) }

/-- One step. -/
def step (json : Format) (x : Exchange) : ExchangeEvent → Option Exchange
  | .setupFailed error =>
      match x.relay with
      | .connecting =>
          -- the set-up comes before the connection
          if x.reached then none else some { x with relay := .done (.error (.setup error)) }
      | _ => none
  | .connectFailed error =>
      match x.relay with
      | .connecting => some { x with relay := .done (.error (.connect error)) }
      | _ => none
  | .reach =>
      match x.relay with
      | .connecting => some { x with reached := true }
      | _ => none
  | .connect =>
      match x.relay with
      | .connecting => if x.reached then some { x with relay := .sending } else none
      | _ => none
  | .send how =>
      match x.relay with
      | .sending => some (x.onSend (sendJson json x.frame how))
      | _ => none
  | .receive =>
      match x.relay, x.toClient with
      | .receiving, some bytes =>
          -- bytes that say no frame are an error of the receive
          let result := answerOf (json.read? LinkControlServerFrame.deserialize bytes)
          some { x with relay := .done result }
      | _, _ => none
  | .receiveFailed error =>
      match x.relay with
      | .receiving => some { x with relay := .done (.error (.receive error)) }
      | _ => none
  | .drop =>
      match x.relay with
      | .connecting | .sending | .receiving => some { x with relay := .dropped }
      | _ => none
  | .accept =>
      match x.serve with
      | .backlog => if x.reached then some { x with serve := .receiving } else none
      | _ => none
  | .take =>
      match x.serve, x.toServer with
      | .receiving, some bytes =>
          some (x.onTake (json.read? LinkControlClientFrame.deserialize bytes))
      | _, _ => none
  | .takeFailed error =>
      match x.serve with
      | .receiving => some { x with serve := .sending (.rejected .invalidRequest error) }
      | _ => none
  | .handlerReturn response =>
      match x.serve with
      | .handling _ =>
          some { x with
            serve := .sending (.controlResponse response)
            returned := x.returned ++ [response] }
      | _ => none
  | .handlerPanic =>
      match x.serve with
      | .handling _ => some { x with serve := .aborted }
      | _ => none
  | .answer how =>
      match x.serve with
      | .sending frame =>
          -- `let _ = send_json(..)`
          some { x with serve := .closing, toClient := (sendJson json frame.serialize how).2 }
      | _ => none
  | .close =>
      match x.serve with
      | .closing => some { x with serve := .closed }
      | _ => none

/-- The task that serves the connection is aborted. -/
def abort (x : Exchange) : Exchange :=
  if x.serve.active then { x with serve := .aborted } else x

end Exchange

@[simp] theorem serve_onSend (x : Exchange) (result : Except String Unit × Option (List UInt8)) :
    (x.onSend result).serve = x.serve := by
  obtain ⟨result, bytes⟩ := result
  cases result with
  | error error => rfl
  | ok u => rfl

@[simp] theorem active_abort (x : Exchange) : x.abort.serve.active = false := by
  rw [Exchange.abort]
  split
  · rfl
  · rename_i hidle
    exact Bool.not_eq_true _ ▸ hidle

/-! ## The bridge -/

/-- The relays, whether the accept loop runs, and the connection it has in its
    hands. -/
structure Bridge where
  exchanges : List Exchange
  accepting : Bool
  busy : Option Nat

/-- A bridge that has just been started. -/
def Bridge.start : Bridge := ⟨[], true, none⟩

/-- The steps of the bridge. -/
inductive BridgeEvent where
  /-- `handle` is called -/
  | handle (request : ControlRequest)
  | exchange (i : Nat) (e : ExchangeEvent)
  /-- the server is dropped -/
  | stop

/-- What a step of connection `i` does to the accept loop, if the loop allows it.
    The local loop serves the connection itself, so that it takes no other one
    meanwhile and a panic of the handler is its end. -/
def Bridge.loop (cfg : BridgeCfg) (s : Bridge) (i : Nat) :
    ExchangeEvent → Option (Bool × Option Nat)
  | .accept =>
      -- QUIC spawns a task for each connection, the local loop awaits it
      if s.accepting = true ∧ s.busy = none then
        some (true, if cfg.mode.isLocal then some i else none)
      else none
  | .handlerPanic => some (if cfg.mode.isLocal then (false, none) else (s.accepting, s.busy))
  | .close => some (s.accepting, none)
  | _ => some (s.accepting, s.busy)

/-- The accept loop is aborted, with the connection that it serves; the task of a
    QUIC connection is not its own. -/
def Bridge.stop (s : Bridge) : Bridge where
  exchanges := match s.busy with
    | some i => s.exchanges.modify i Exchange.abort
    | none => s.exchanges
  accepting := false
  busy := none

/-- One step of the bridge. -/
def step (cfg : BridgeCfg) (s : Bridge) : BridgeEvent → Option Bridge
  | .handle request => some { s with exchanges := s.exchanges ++ [.start request] }
  | .exchange i e => do
      let x ← s.exchanges[i]?
      let x' ← x.step cfg.json e
      let (accepting, busy) ← s.loop cfg i e
      return ⟨s.exchanges.set i x', accepting, busy⟩
  | .stop => some s.stop

/-! ## What a relay and its server can do -/

section Moves

variable {json : Format} {x x' : Exchange} {e : ExchangeEvent}

/-- The moves of an exchange. -/
inductive Move (json : Format) (x : Exchange) : Exchange → Prop where
  | unreached (error : RelayError) : x.relay = .connecting →
      (∃ text, error = .setup text ∨ error = .connect text) →
      Move json x { x with relay := .done (.error error) }
  | reach : Move json x { x with reached := true }
  | connect : x.relay = .connecting → Move json x { x with relay := .sending }
  | sent (relay : RelayPhase) (bytes : Option (List UInt8)) : x.relay = .sending →
      (relay = .receiving ∨ ∃ error, relay = .done (.error (.send error))) →
      (∀ b, bytes = some b → json.write x.frame = .ok b) →
      Move json x { x with relay := relay, toServer := bytes }
  | receive (bytes : List UInt8) : x.relay = .receiving → x.toClient = some bytes →
      Move json x { x with
        relay := .done (answerOf (json.read? LinkControlServerFrame.deserialize bytes)) }
  | receiveFailed (error : String) : x.relay = .receiving →
      Move json x { x with relay := .done (.error (.receive error)) }
  | drop : Move json x { x with relay := .dropped }
  | accept : x.serve = .backlog →
      Move json x { x with serve := .receiving }
  | take (bytes : List UInt8) (request : ControlRequest) : x.serve = .receiving →
      x.toServer = some bytes →
      json.read? LinkControlClientFrame.deserialize bytes = .ok (.controlRequest request) →
      Move json x { x with serve := .handling request, invoked := x.invoked ++ [request] }
  | refuse (message : String) : x.serve = .receiving →
      Move json x { x with serve := .sending (.rejected .invalidRequest message) }
  | handlerReturn (request : ControlRequest) (response : ControlResponse) :
      x.serve = .handling request →
      Move json x { x with
        serve := .sending (.controlResponse response)
        returned := x.returned ++ [response] }
  | handlerPanic (request : ControlRequest) : x.serve = .handling request →
      Move json x { x with serve := .aborted }
  | answer (frame : LinkControlServerFrame) (bytes : Option (List UInt8)) :
      x.serve = .sending frame → (∀ b, bytes = some b → json.write frame.serialize = .ok b) →
      Move json x { x with serve := .closing, toClient := bytes }
  | close : x.serve = .closing → Move json x { x with serve := .closed }

/-- What arrives is what was written. -/
theorem sendJson_arrived {c : Content} {how : Sending} {bytes : List UInt8}
    (h : (sendJson json c how).2 = some bytes) : json.write c = .ok bytes := by
  rw [sendJson] at h
  cases hwrite : json.write c with
  | error error =>
      rw [hwrite] at h
      cases h
  | ok written =>
      rw [hwrite] at h
      cases how with
      | sent =>
          cases h
          rfl
      | failed error arrived =>
          cases arrived with
          | false => cases h
          | true =>
              cases h
              rfl

theorem step_move (h : x.step json e = some x') : Move json x x' := by
  cases e with
  | setupFailed error =>
      simp only [Exchange.step] at h
      split at h
      · rename_i hrelay
        split at h
        · cases h
        · cases h
          exact .unreached _ hrelay ⟨error, .inl rfl⟩
      · cases h
  | connectFailed error =>
      simp only [Exchange.step] at h
      split at h
      · rename_i hrelay
        cases h
        exact .unreached _ hrelay ⟨error, .inr rfl⟩
      · cases h
  | reach =>
      simp only [Exchange.step] at h
      split at h
      · cases h
        exact .reach
      · cases h
  | connect =>
      simp only [Exchange.step] at h
      split at h
      · rename_i hrelay
        split at h
        · cases h
          exact .connect hrelay
        · cases h
      · cases h
  | send how =>
      simp only [Exchange.step] at h
      split at h
      · rename_i hrelay
        cases hsent : sendJson json x.frame how with
        | mk result bytes =>
            have harrived : ∀ b, bytes = some b → json.write x.frame = .ok b := by
              intro b hb
              have hsecond : (sendJson json x.frame how).2 = some b := by
                rw [hsent]
                exact hb
              exact sendJson_arrived hsecond
            rw [hsent] at h
            cases result with
            | error error =>
                cases h
                exact .sent _ _ hrelay (.inr ⟨error, rfl⟩) harrived
            | ok u =>
                cases h
                exact .sent _ _ hrelay (.inl rfl) harrived
      · cases h
  | receive =>
      simp only [Exchange.step] at h
      split at h
      · rename_i bytes hrelay hbytes
        cases h
        exact .receive bytes hrelay hbytes
      · cases h
  | receiveFailed error =>
      simp only [Exchange.step] at h
      split at h
      · rename_i hrelay
        cases h
        exact .receiveFailed error hrelay
      · cases h
  | drop =>
      simp only [Exchange.step] at h
      split at h
      · cases h
        exact .drop
      · cases h
        exact .drop
      · cases h
        exact .drop
      · cases h
  | accept =>
      simp only [Exchange.step] at h
      split at h
      · rename_i hserve
        split at h
        · cases h
          exact .accept hserve
        · cases h
      · cases h
  | take =>
      simp only [Exchange.step] at h
      split at h
      · rename_i bytes hserve hbytes
        cases hread : json.read? LinkControlClientFrame.deserialize bytes with
        | error message =>
            rw [hread] at h
            cases h
            exact .refuse message hserve
        | ok frame =>
            rw [hread] at h
            cases frame with
            | controlRequest request =>
                cases h
                exact .take bytes request hserve hbytes hread
      · cases h
  | takeFailed error =>
      simp only [Exchange.step] at h
      split at h
      · rename_i hserve
        cases h
        exact .refuse error hserve
      · cases h
  | handlerReturn response =>
      simp only [Exchange.step] at h
      split at h
      · rename_i request hserve
        cases h
        exact .handlerReturn request response hserve
      · cases h
  | handlerPanic =>
      simp only [Exchange.step] at h
      split at h
      · rename_i request hserve
        cases h
        exact .handlerPanic request hserve
      · cases h
  | answer how =>
      simp only [Exchange.step] at h
      split at h
      · rename_i frame hserve
        cases h
        exact .answer frame _ hserve fun b hb => sendJson_arrived hb
      · cases h
  | close =>
      simp only [Exchange.step] at h
      split at h
      · rename_i hserve
        cases h
        exact .close hserve
      · cases h

end Moves

/-! ## One relay over a run -/

section Invariant

variable {json : Format} {x x' : Exchange} {e : ExchangeEvent}

/-- The server reads `request` from the relay's frame. -/
def Reads (json : Format) (x : Exchange) (request : ControlRequest) : Prop :=
  ∃ bytes, json.write x.frame = .ok bytes ∧
    json.read? LinkControlClientFrame.deserialize bytes = .ok (.controlRequest request)

/-- The server has not reached the handler. -/
def Untouched (x : Exchange) : Prop := x.invoked = [] ∧ x.returned = []

/-- The handler was called with what the server has read. -/
def Invoked (json : Format) (x : Exchange) (request : ControlRequest) : Prop :=
  Reads json x request ∧ x.invoked = [request]

/-- What a frame to the relay says of the handler. -/
def Says (json : Format) (x : Exchange) : LinkControlServerFrame → Prop
  | .rejected _ _ => Untouched x
  | .controlResponse response => (∃ request, Invoked json x request) ∧ x.returned = [response]

/-- Where the handler stands while the connection is served. -/
def Served (json : Format) (x : Exchange) : ServePhase → Prop
  | .backlog => Untouched x
  | .receiving => Untouched x
  | .handling request => Invoked json x request ∧ x.returned = []
  | .sending frame => Says json x frame
  | .closing | .closed | .aborted =>
      Untouched x ∨ (∃ request, Invoked json x request) ∧ x.returned.length ≤ 1

/-- What a relay that has not sent yet, or has ended, says. -/
def Ended (json : Format) (x : Exchange) : RelayPhase → Prop
  | .connecting | .sending => x.toServer = none
  | .done (.error (.setup _)) => x.toServer = none
  | .done (.error (.connect _)) => x.toServer = none
  | .done (.error (.rejected code message)) => ∃ bytes, x.toClient = some bytes ∧
      answerOf (json.read? LinkControlServerFrame.deserialize bytes)
        = .error (.rejected code message)
  | .done (.ok response) => ∃ bytes, x.toClient = some bytes ∧
      answerOf (json.read? LinkControlServerFrame.deserialize bytes) = .ok response
  | _ => True

/-- The invariant of an exchange. -/
structure Lawful (json : Format) (x : Exchange) : Prop where
  sent : ∀ bytes, x.toServer = some bytes → json.write x.frame = .ok bytes
  served : Served json x x.serve
  replied : ∀ bytes, x.toClient = some bytes → x.serve.past = true ∧
    ∃ frame, json.write frame.serialize = .ok bytes ∧ Says json x frame
  unread : x.toServer = none → x.invoked = []
  ended : Ended json x x.relay

theorem lawful_start (json : Format) (request : ControlRequest) :
    Lawful json (.start request) where
  sent := by
    intro bytes h
    cases h
  served := ⟨rfl, rfl⟩
  replied := by
    intro bytes h
    cases h
  unread := fun _ => rfl
  ended := rfl

/-- What `Served` says holds of a connection that is over. -/
theorem Says.past {frame : LinkControlServerFrame} (h : Says json x frame) :
    Untouched x ∨ (∃ request, Invoked json x request) ∧ x.returned.length ≤ 1 := by
  cases frame with
  | rejected code message => exact .inl h
  | controlResponse response =>
      refine .inr ⟨h.1, ?_⟩
      rw [h.2]
      exact Nat.le_refl 1

/-- A connection with a reply is not in the server's hands. -/
theorem Lawful.no_reply (h : Lawful json x) (hserve : x.serve.past = false) :
    x.toClient = none := by
  cases hreply : x.toClient with
  | none => rfl
  | some bytes =>
      obtain ⟨hpast, -⟩ := h.replied bytes hreply
      rw [hserve] at hpast
      cases hpast

/-- A step that keeps what has arrived at the relay keeps what its end says. -/
theorem Ended.frame {y : Exchange} {phase : RelayPhase} (h : Ended json x phase)
    (hsent : y.toServer = x.toServer)
    (hreplied : ∀ b, x.toClient = some b → y.toClient = some b) : Ended json y phase := by
  have hunsent : x.toServer = none → y.toServer = none := by
    intro hnone
    rw [hsent, hnone]
  cases phase with
  | connecting => exact hunsent h
  | sending => exact hunsent h
  | receiving => trivial
  | dropped => trivial
  | done result =>
      cases result with
      | ok response =>
          obtain ⟨b, hb, hanswer⟩ := h
          exact ⟨b, hreplied b hb, hanswer⟩
      | error error =>
          cases error with
          | setup text => exact hunsent h
          | connect text => exact hunsent h
          | send text => trivial
          | receive text => trivial
          | rejected code message =>
              obtain ⟨b, hb, hanswer⟩ := h
              exact ⟨b, hreplied b hb, hanswer⟩

/-- **THE STEP LEMMA** of an exchange. -/
theorem Lawful.move (h : Lawful json x) (m : Move json x x') : Lawful json x' := by
  have hserved := h.served
  cases m with
  | unreached error hrelay herror =>
      refine ⟨h.sent, h.served, h.replied, h.unread, ?_⟩
      have hended := h.ended
      rw [hrelay] at hended
      obtain ⟨text, rfl | rfl⟩ := herror
      · exact hended
      · exact hended
  | reach => exact ⟨h.sent, h.served, h.replied, h.unread, h.ended.frame rfl fun _ hb => hb⟩
  | connect hrelay =>
      have hended := h.ended
      rw [hrelay] at hended
      exact ⟨h.sent, h.served, h.replied, h.unread, hended⟩
  | sent relay bytes hrelay hnext hwritten =>
      have hended := h.ended
      rw [hrelay] at hended
      refine ⟨hwritten, h.served, h.replied, fun _ => h.unread hended, ?_⟩
      rcases hnext with rfl | ⟨error, rfl⟩
      · trivial
      · trivial
  | receive bytes hrelay hbytes =>
      refine ⟨h.sent, h.served, h.replied, h.unread, ?_⟩
      show Ended json { x with relay := _ } (.done _)
      cases hanswer : answerOf (json.read? LinkControlServerFrame.deserialize bytes) with
      | ok response => exact ⟨bytes, hbytes, hanswer⟩
      | error error =>
          cases error with
          | setup text => exact absurd hanswer (answerOf_ne_setup text)
          | connect text => exact absurd hanswer (answerOf_ne_connect text)
          | send text => trivial
          | receive text => trivial
          | rejected code message => exact ⟨bytes, hbytes, hanswer⟩
  | receiveFailed error hrelay => exact ⟨h.sent, h.served, h.replied, h.unread, trivial⟩
  | drop => exact ⟨h.sent, h.served, h.replied, h.unread, trivial⟩
  | accept hserve =>
      rw [hserve] at hserved
      have hnone := h.no_reply (by rw [hserve]; rfl)
      refine ⟨h.sent, hserved, ?_, h.unread, h.ended.frame rfl fun _ hb => hb⟩
      intro bytes hbytes
      rw [hnone] at hbytes
      cases hbytes
  | take bytes request hserve hbytes hread =>
      rw [hserve] at hserved
      obtain ⟨hinvoked, hreturned⟩ := hserved
      have hnone := h.no_reply (by rw [hserve]; rfl)
      refine ⟨h.sent, ⟨⟨⟨bytes, h.sent bytes hbytes, hread⟩, ?_⟩, hreturned⟩, ?_, ?_,
        h.ended.frame rfl fun _ hb => hb⟩
      · rw [hinvoked]
        rfl
      · intro b hb
        rw [hnone] at hb
        cases hb
      · intro hunsent
        rw [hbytes] at hunsent
        cases hunsent
  | refuse message hserve =>
      rw [hserve] at hserved
      have hnone := h.no_reply (by rw [hserve]; rfl)
      refine ⟨h.sent, hserved, ?_, h.unread, h.ended.frame rfl fun _ hb => hb⟩
      intro b hb
      rw [hnone] at hb
      cases hb
  | handlerReturn request response hserve =>
      rw [hserve] at hserved
      obtain ⟨hinvoked, hreturned⟩ := hserved
      have hnone := h.no_reply (by rw [hserve]; rfl)
      refine ⟨h.sent, ⟨⟨request, hinvoked⟩, ?_⟩, ?_, h.unread, h.ended.frame rfl fun _ hb => hb⟩
      · rw [hreturned]
        rfl
      · intro b hb
        rw [hnone] at hb
        cases hb
  | handlerPanic request hserve =>
      rw [hserve] at hserved
      obtain ⟨hinvoked, hreturned⟩ := hserved
      have hnone := h.no_reply (by rw [hserve]; rfl)
      refine ⟨h.sent, .inr ⟨⟨request, hinvoked⟩, ?_⟩, ?_, h.unread,
        h.ended.frame rfl fun _ hb => hb⟩
      · rw [hreturned]
        exact Nat.zero_le 1
      · intro b hb
        rw [hnone] at hb
        cases hb
  | answer frame bytes hserve hwritten =>
      rw [hserve] at hserved
      have hnone := h.no_reply (by rw [hserve]; rfl)
      refine ⟨h.sent, hserved.past, ?_, h.unread, h.ended.frame rfl ?_⟩
      · intro b hb
        exact ⟨rfl, frame, hwritten b hb, hserved⟩
      · intro b hb
        rw [hnone] at hb
        cases hb
  | close hserve =>
      rw [hserve] at hserved
      refine ⟨h.sent, hserved, ?_, h.unread, h.ended.frame rfl fun _ hb => hb⟩
      intro b hb
      obtain ⟨-, hframe⟩ := h.replied b hb
      exact ⟨rfl, hframe⟩

/-- So does the abort of the server. -/
theorem Lawful.abort (h : Lawful json x) : Lawful json x.abort := by
  rw [Exchange.abort]
  split
  · rename_i hactive
    have hserved := h.served
    have hpast : Untouched x ∨ (∃ request, Invoked json x request) ∧ x.returned.length ≤ 1 := by
      cases hserve : x.serve with
      | backlog =>
          rw [hserve] at hserved
          exact .inl hserved
      | receiving =>
          rw [hserve] at hserved
          exact .inl hserved
      | handling request =>
          rw [hserve] at hserved
          obtain ⟨hinvoked, hreturned⟩ := hserved
          refine .inr ⟨⟨request, hinvoked⟩, ?_⟩
          rw [hreturned]
          exact Nat.zero_le 1
      | sending frame =>
          rw [hserve] at hserved
          exact hserved.past
      | closing | closed | aborted =>
          rw [hserve] at hserved
          exact hserved
    refine ⟨h.sent, hpast, ?_, h.unread, h.ended.frame rfl fun _ hb => hb⟩
    intro b hb
    obtain ⟨-, hframe⟩ := h.replied b hb
    exact ⟨rfl, hframe⟩
  · exact h

/-! ## What a relay can rely on -/

/-- What holds of a relay in every state: the handler was called once at most and
    with its request, and what it ends with says what the handler did.  A caller
    of `handle` that is told `ok` is told so by the handler. -/
structure RelayLaw (mode : Mode) (x : Exchange) : Prop where
  once : x.invoked = [] ∨ x.invoked = [x.request]
  ok : ∀ response, x.relay = .done (.ok response) →
    x.invoked = [x.request] ∧ ∃ result, x.returned = [result] ∧ response = result.received
  handled : ∀ result, x.relay = .done result → (mode.forward result).ok = true →
    ∃ response, x.returned = [response] ∧ mode.forward result = response.received
  unreached : ∀ error, x.relay = .done (.error (.setup error)) ∨
    x.relay = .done (.error (.connect error)) → x.invoked = []
  rejected : ∀ code message, x.relay = .done (.error (.rejected code message)) → x.invoked = []

/-- `serde_json` brings back the frames of an exchange. -/
structure FramesCarried (json : Format) (x : Exchange) : Prop where
  proper : x.request.params.Proper
  request : Carries json json x.frame
  response : ∀ result ∈ x.returned, result.Proper ∧
    Carries json json (LinkControlServerFrame.controlResponse result).serialize
  rejected : ∀ code message,
    Carries json json (LinkControlServerFrame.rejected code message).serialize

/-- The server reads the relay's own request. -/
theorem FramesCarried.reads (hc : FramesCarried json x) {request : ControlRequest}
    (h : Reads json x request) : request = x.request := by
  obtain ⟨bytes, hwrite, hread⟩ := h
  have hown : json.read? LinkControlClientFrame.deserialize bytes
      = .ok (.controlRequest x.request) :=
    Format.read?_carried hc.request hwrite (LinkControlClientFrame.deserialize_serialize hc.proper)
  rw [hread] at hown
  exact LinkControlClientFrame.controlRequest.inj (Except.ok.inj hown)

theorem FramesCarried.invoked (hc : FramesCarried json x)
    (h : ∃ request, Invoked json x request) : x.invoked = [x.request] := by
  obtain ⟨request, hreads, hinvoked⟩ := h
  rw [hinvoked, hc.reads hreads]

/-- What the relay makes of a frame it was sent. -/
theorem FramesCarried.answer (hc : FramesCarried json x) {frame : LinkControlServerFrame}
    {bytes : List UInt8} (hwrite : json.write frame.serialize = .ok bytes) (h : Says json x frame) :
    answerOf (json.read? LinkControlServerFrame.deserialize bytes)
      = answerOf (.ok frame.received) := by
  cases frame with
  | rejected code message =>
      rw [Format.read?_carried (hc.rejected code message) hwrite
        (LinkControlServerFrame.deserialize_serialize trivial)]
  | controlResponse result =>
      obtain ⟨-, hreturned⟩ := h
      have hmem : result ∈ x.returned := by
        rw [hreturned]
        exact List.mem_singleton_self _
      obtain ⟨hproper, hcarries⟩ := hc.response result hmem
      rw [Format.read?_carried hcarries hwrite
        (LinkControlServerFrame.deserialize_serialize hproper)]

/-- What a relay that ended with a response has from the handler. -/
theorem Lawful.response (h : Lawful json x) (hc : FramesCarried json x) {response : ControlResponse}
    (hrelay : x.relay = .done (.ok response)) :
    x.invoked = [x.request] ∧ ∃ result, x.returned = [result] ∧ response = result.received := by
  have hended := h.ended
  rw [hrelay] at hended
  obtain ⟨bytes, hbytes, hanswer⟩ := hended
  obtain ⟨-, frame, hwrite, hsays⟩ := h.replied bytes hbytes
  rw [hc.answer hwrite hsays] at hanswer
  cases frame with
  | rejected code message => cases hanswer
  | controlResponse result =>
      cases hanswer
      exact ⟨hc.invoked hsays.1, result, hsays.2, rfl⟩

theorem Lawful.relayLaw (h : Lawful json x) (hc : FramesCarried json x) (mode : Mode) :
    RelayLaw mode x where
  once := by
    have hserved := h.served
    cases hserve : x.serve with
    | backlog =>
        rw [hserve] at hserved
        exact .inl hserved.1
    | receiving =>
        rw [hserve] at hserved
        exact .inl hserved.1
    | handling request =>
        rw [hserve] at hserved
        exact .inr (hc.invoked ⟨request, hserved.1⟩)
    | sending frame =>
        rw [hserve] at hserved
        rcases hserved.past with huntouched | ⟨hinvoked, -⟩
        · exact .inl huntouched.1
        · exact .inr (hc.invoked hinvoked)
    | closing | closed | aborted =>
        rw [hserve] at hserved
        rcases hserved with huntouched | ⟨hinvoked, -⟩
        · exact .inl huntouched.1
        · exact .inr (hc.invoked hinvoked)
  ok := fun _ hrelay => h.response hc hrelay
  handled := by
    intro result hrelay hok
    cases result with
    | error error => cases hok
    | ok response =>
        obtain ⟨-, returned, hreturned, hreceived⟩ := h.response hc hrelay
        exact ⟨returned, hreturned, hreceived⟩
  unreached := by
    intro error hrelay
    have hended := h.ended
    have hunsent : x.toServer = none := by
      rcases hrelay with hrelay | hrelay
      · rw [hrelay] at hended
        exact hended
      · rw [hrelay] at hended
        exact hended
    exact h.unread hunsent
  rejected := by
    intro code message hrelay
    have hended := h.ended
    rw [hrelay] at hended
    obtain ⟨bytes, hbytes, hanswer⟩ := hended
    obtain ⟨-, frame, hwrite, hsays⟩ := h.replied bytes hbytes
    rw [hc.answer hwrite hsays] at hanswer
    cases frame with
    | rejected code' message' => exact hsays.1
    | controlResponse result => cases hanswer

end Invariant

/-! ## The bridge over a run -/

section Run

variable {cfg : BridgeCfg} {s s' : Bridge} {e : BridgeEvent}

/-- How a connection comes into the server's hands and out of them. -/
theorem active_step {json : Format} {x x' : Exchange} {e : ExchangeEvent}
    (h : x.step json e = some x') :
    (e ≠ .accept → x'.serve.active = true → x.serve.active = true) ∧
      (e = .handlerPanic ∨ e = .close → x.serve.active = true ∧ x'.serve.active = false) := by
  constructor
  · intro hne hactive
    cases e with
    | accept => exact absurd rfl hne
    | connectFailed | reach | receiveFailed =>
        simp only [Exchange.step] at h
        split at h
        · cases h
          exact hactive
        · cases h
    | setupFailed error =>
        simp only [Exchange.step] at h
        split at h
        · split at h
          · cases h
          · cases h
            exact hactive
        · cases h
    | connect =>
        simp only [Exchange.step] at h
        split at h
        · split at h
          · cases h
            exact hactive
          · cases h
        · cases h
    | send how =>
        simp only [Exchange.step] at h
        split at h
        · cases h
          rwa [serve_onSend] at hactive
        · cases h
    | receive =>
        simp only [Exchange.step] at h
        split at h
        · cases h
          exact hactive
        · cases h
    | drop =>
        simp only [Exchange.step] at h
        split at h
        · cases h
          exact hactive
        · cases h
          exact hactive
        · cases h
          exact hactive
        · cases h
    | take =>
        simp only [Exchange.step] at h
        split at h
        · rename_i hserve _
          rw [hserve]
          rfl
        · cases h
    | takeFailed | handlerReturn | handlerPanic | answer | close =>
        simp only [Exchange.step] at h
        split at h
        · rename_i hserve
          rw [hserve]
          rfl
        · cases h
  · rintro (rfl | rfl)
    · simp only [Exchange.step] at h
      split at h
      · rename_i hserve
        cases h
        rw [hserve]
        exact ⟨rfl, rfl⟩
      · cases h
    · simp only [Exchange.step] at h
      split at h
      · rename_i hserve
        cases h
        rw [hserve]
        exact ⟨rfl, rfl⟩
      · cases h

/-- The invariant of the bridge. -/
structure BridgeInv (cfg : BridgeCfg) (s : Bridge) : Prop where
  lawful : ∀ (i : Nat) (x : Exchange), s.exchanges[i]? = some x → Lawful cfg.json x
  busy : cfg.mode.isLocal = true → ∀ (i : Nat) (x : Exchange), s.exchanges[i]? = some x →
    x.serve.active = true → s.busy = some i

theorem bridgeInv_start (cfg : BridgeCfg) : BridgeInv cfg .start where
  lawful := by
    intro i x h
    cases h
  busy := by
    intro _ i x h
    cases h

/-- What the accept loop has to do with a step. -/
theorem loop_cases {i : Nat} {e : ExchangeEvent} {accepting : Bool} {busy : Option Nat}
    (h : s.loop cfg i e = some (accepting, busy)) (hlocal : cfg.mode.isLocal = true) :
    (e = .accept ∧ s.busy = none ∧ busy = some i) ∨
      ((e = .handlerPanic ∨ e = .close) ∧ busy = none) ∨
      (e ≠ .accept ∧ busy = s.busy) := by
  cases e with
  | accept =>
      simp only [Bridge.loop, hlocal, if_true] at h
      split at h
      · rename_i hfree
        cases h
        exact .inl ⟨rfl, hfree.2, rfl⟩
      · cases h
  | handlerPanic =>
      simp only [Bridge.loop, hlocal, if_true] at h
      cases h
      exact .inr (.inl ⟨.inl rfl, rfl⟩)
  | close =>
      simp only [Bridge.loop] at h
      cases h
      exact .inr (.inl ⟨.inr rfl, rfl⟩)
  | setupFailed | connectFailed | reach | connect | send | receive | receiveFailed | drop | take
  | takeFailed | handlerReturn | answer =>
      simp only [Bridge.loop] at h
      cases h
      exact .inr (.inr ⟨by rintro ⟨⟩, rfl⟩)

/-- **THE STEP LEMMA** of the bridge. -/
theorem BridgeInv.preserved (h : BridgeInv cfg s) (hs : step cfg s e = some s') :
    BridgeInv cfg s' := by
  cases e with
  | handle request =>
      cases hs
      constructor
      · intro i x hx
        rcases getElem?_concat_inv hx with hx | ⟨-, rfl⟩
        · exact h.lawful i x hx
        · exact lawful_start cfg.json request
      · intro hlocal i x hx hactive
        rcases getElem?_concat_inv hx with hx | ⟨-, rfl⟩
        · exact h.busy hlocal i x hx hactive
        · cases hactive
  | exchange i e =>
      obtain ⟨x, hx, hs⟩ := Option.bind_eq_some_iff.mp hs
      obtain ⟨x', hstep, hs⟩ := Option.bind_eq_some_iff.mp hs
      obtain ⟨⟨accepting, busy⟩, hloop, hs⟩ := Option.bind_eq_some_iff.mp hs
      obtain rfl := Option.some.inj hs
      constructor
      · intro j y hy
        rcases getElem?_set_inv hy with ⟨rfl, rfl⟩ | ⟨-, hy⟩
        · exact (h.lawful _ x hx).move (step_move hstep)
        · exact h.lawful j y hy
      · intro hlocal j y hy hactive
        obtain ⟨hbefore, hgone⟩ := active_step hstep
        rcases loop_cases hloop hlocal with ⟨rfl, hfree, rfl⟩ | ⟨hend, rfl⟩ | ⟨hne, rfl⟩
        · -- the loop takes the connection, and had none
          rcases getElem?_set_inv hy with ⟨rfl, rfl⟩ | ⟨-, hy⟩
          · rfl
          · have hbusy := h.busy hlocal j y hy hactive
            rw [hfree] at hbusy
            cases hbusy
        · -- the loop lets go of its connection
          obtain ⟨hwas, hnot⟩ := hgone hend
          rcases getElem?_set_inv hy with ⟨rfl, rfl⟩ | ⟨hij, hy⟩
          · rw [hnot] at hactive
            cases hactive
          · have hown := h.busy hlocal i x hx hwas
            have hother := h.busy hlocal j y hy hactive
            rw [hown] at hother
            exact absurd (Option.some.inj hother) hij
        · rcases getElem?_set_inv hy with ⟨rfl, rfl⟩ | ⟨-, hy⟩
          · exact h.busy hlocal _ x hx (hbefore hne hactive)
          · exact h.busy hlocal j y hy hactive
  | stop =>
      cases hs
      have hafter : ∀ j y, (match s.busy with
          | some i => s.exchanges.modify i Exchange.abort
          | none => s.exchanges)[j]? = some y →
          s.exchanges[j]? = some y ∧ s.busy ≠ some j ∨
            ∃ x, s.exchanges[j]? = some x ∧ s.busy = some j ∧ y = x.abort := by
        intro j y hy
        cases hbusy : s.busy with
        | none =>
            rw [hbusy] at hy
            exact .inl ⟨hy, fun h => by cases h⟩
        | some i =>
            rw [hbusy] at hy
            obtain ⟨x, hx, ⟨rfl, rfl⟩ | ⟨hne, rfl⟩⟩ := getElem?_modify_inv hy
            · exact .inr ⟨x, hx, rfl, rfl⟩
            · refine .inl ⟨hx, fun h => hne ?_⟩
              exact (Option.some.inj h)
      constructor
      · intro j y hy
        rcases hafter j y hy with ⟨hold, -⟩ | ⟨x, hx, -, rfl⟩
        · exact h.lawful j y hold
        · exact (h.lawful j x hx).abort
      · intro hlocal j y hy hactive
        rcases hafter j y hy with ⟨hold, hne⟩ | ⟨x, hx, -, rfl⟩
        · exact absurd (h.busy hlocal j y hold hactive) hne
        · rw [active_abort] at hactive
          cases hactive

/-- **THE BRIDGE**: in every run over a `serde_json` that brings back the frames of
    the relays, whatever the interleaving and whatever fails, the law holds of
    every relay; and the local server has one connection in its hands at most, so
    that it never calls two handlers at a time. -/
theorem bridge_law (h : Reaches (step cfg) Free .start s)
    (hc : ∀ x ∈ s.exchanges, FramesCarried cfg.json x) :
    (∀ x ∈ s.exchanges, RelayLaw cfg.mode x) ∧
      (cfg.mode.isLocal = true → ∀ (i j : Nat) (x y : Exchange), s.exchanges[i]? = some x →
        s.exchanges[j]? = some y → x.serve.active = true → y.serve.active = true → i = j) := by
  have hinv : BridgeInv cfg s := by
    refine h.invariant (P := BridgeInv cfg) (bridgeInv_start cfg) ?_
    intro s e s' hinv _ hs
    exact hinv.preserved hs
  constructor
  · intro x hx
    obtain ⟨i, hi⟩ := List.getElem?_of_mem hx
    exact (hinv.lawful i x hi).relayLaw (hc x hx) cfg.mode
  · intro hlocal i j x y hi hj hx hy
    have hbusy := hinv.busy hlocal i x hi hx
    rw [hinv.busy hlocal j y hj hy] at hbusy
    exact (Option.some.inj hbusy).symm

end Run

/-! ## A sample run -/

/-- The bytes of an ASCII text. -/
def asciiBytes (text : String) : List UInt8 := text.toList.map fun c => UInt8.ofNat c.toNat

/-- The frame of a health check, and of its answer. -/
def sampleFrames : List UInt8 × List UInt8 :=
  (asciiBytes ("\x7b\"frame\":\"control_request\",\"token\":\"t\"," ++
    "\"method\":\"health_check\",\"params\":null\x7d"),
    asciiBytes "\x7b\"frame\":\"control_response\",\"ok\":true,\"result\":true\x7d")

/-- A `serde_json` for the sample frames. -/
def sampleJson : Format where
  write
    | .map [("frame", .str "control_request"), ("token", .str "t"),
        ("method", .str "health_check"), ("params", .unit)] => .ok sampleFrames.1
    | .map [("frame", .str "control_response"), ("ok", .bool true), ("result", .bool true)] =>
        .ok sampleFrames.2
    | _ => .error "not a sample value"
  read bytes :=
    if bytes = sampleFrames.1 then
      .ok (.map [("frame", .str "control_request"), ("token", .str "t"),
        ("method", .str "health_check"), ("params", .unit)])
    else if bytes = sampleFrames.2 then
      .ok (.map [("frame", .str "control_response"), ("ok", .bool true), ("result", .bool true)])
    else .error "not a sample value"

def sampleBridge : BridgeCfg := ⟨.localApp "mutsuki.servicehost", sampleJson⟩

/-- One relay that is answered. -/
def answeredBridge : Bridge :=
  (run (step sampleBridge) Free .start
    (.handle ⟨"t", .healthCheck, .null⟩ :: ([.reach, .connect, .send .sent, .accept, .take,
      .handlerReturn (.okValue (.bool true)), .answer .sent, .close, .receive].map
        fun e => .exchange 0 e))).getD .start

theorem bridge_law_answered : ∃ x, answeredBridge.exchanges = [x] ∧
    x.relay = .done (.ok (.okValue (.bool true))) ∧ RelayLaw sampleBridge.mode x := by
  have hrun : Reaches (step sampleBridge) Free .start answeredBridge := reaches_getD (by decide)
  obtain ⟨x, hx, hrelay, hrequest, hreturned⟩ : ∃ x, answeredBridge.exchanges = [x] ∧
      x.relay = .done (.ok (.okValue (.bool true))) ∧ x.request = ⟨"t", .healthCheck, .null⟩ ∧
      x.returned = [.okValue (.bool true)] := ⟨_, rfl, rfl, rfl, rfl⟩
  have hcarried : ∀ y ∈ answeredBridge.exchanges, FramesCarried sampleBridge.json y := by
    intro y hy
    rw [hx] at hy
    obtain rfl := List.mem_singleton.mp hy
    constructor
    · rw [hrequest]
      exact .null
    · rw [Exchange.frame, hrequest]
      intro bytes hwrite
      cases hwrite
      rfl
    · rw [hreturned]
      intro result hmem
      obtain rfl := List.mem_singleton.mp hmem
      constructor
      · rintro v ⟨⟩
        exact .bool true
      · intro bytes hwrite
        cases hwrite
        rfl
    · intro code message bytes hwrite
      cases hwrite
  exact ⟨x, hx, hrelay, (bridge_law hrun hcarried).1 x (hx ▸ List.mem_singleton_self x)⟩

end ServiceBridge
