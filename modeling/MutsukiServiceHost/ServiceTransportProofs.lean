import MutsukiServiceHost.ServiceLineProofs
import MutsukiServiceHost.ServiceSerdeProofs
import MutsukiServiceHost.ServiceSessionProofs
import MutsukiServiceHost.ServiceStreamProofs

/-! # A response on its way to the client

    The server encodes a `ControlResponse` as the payload of a frame or as a
    line, the client decodes it, and in between `rmp_serde` and `serde_json` are
    faithful formats of the serde data model.  The encoders write a result that
    is null, and `#[derive(Deserialize)]` on the other side reads it as no
    result: `ControlResponse::empty_ok()` does not survive.

    * `response_survives_iff` — what the client obtains is the response exactly
      when its result is not null, and it is the same with both codecs.
    * `onFrame_received`, `onLine_received` — what a session hands to the call
      that waits. -/

namespace ServiceTransport

open SerdeContent ServiceControl ServiceFrame ServiceSession

/-! ## The codecs over their formats -/

/-- `rmp_serde`, whose responses go through `format` under a nesting limit. -/
def packResponses (requests : MsgPack) (format : Nat → Format) : MsgPack where
  packRequest := requests.packRequest
  unpackRequest := requests.unpackRequest
  packResponse depth response := (format depth).write response.serialize
  unpackResponse depth bytes := (format depth).decode ControlResponse.deserialize bytes

/-- `serde_json`, whose responses go through `format`. -/
def printResponses (requests : Json) (format : Format) : Json where
  writeRequest := requests.writeRequest
  readRequest := requests.readRequest
  writeResponse response := format.write response.serialize
  readResponse bytes := format.decode ControlResponse.deserialize bytes

/-- The payload of an encoded frame, behind its length prefix and its header. -/
def framePayload (bytes : List UInt8) : List UInt8 :=
  bytes.drop (binaryLengthPrefixLen + binaryHeaderLen)

/-- The MessagePack decode of `read_binary_loop`. -/
def decodeResponse (msgpack : MsgPack) (limits : ControlIpcLimits) (payload : List UInt8) :
    Except IpcError ControlResponse :=
  match msgpack.unpackResponse limits.maxMsgpackNestingDepth payload with
  | .error detail => .error (.protocol detail)
  | .ok response => .ok response

/-- `read_binary_loop` after the read decodes a response and delivers it. -/
theorem onFrame_eq (cfg : SessionCfg) (s : Session) (header : FrameHeader)
    (payload : List UInt8) (hflags : header.flags.contains .response = true) :
    onFrame cfg s header payload
      = match decodeResponse cfg.msgpack cfg.limits payload with
        | .error e => { s with reader := .stopped (.error e) }
        | .ok response => s.deliver header.requestId response := by
  rw [onFrame, hflags, decodeResponse]
  rw [if_neg (by simp)]
  cases cfg.msgpack.unpackResponse cfg.limits.maxMsgpackNestingDepth payload with
  | error detail => rfl
  | ok response => rfl

theorem framePayload_frameBytes (opcode : UInt16) (flags : FrameFlags) (requestId : Nat)
    (payload : List UInt8) :
    framePayload (frameBytes opcode flags requestId payload) = payload :=
  rfl

/-- A response decoded from any payload holds a value that can exist. -/
theorem decodeResponse_proper {requests : MsgPack} {format : Nat → Format}
    {limits : ControlIpcLimits} {payload : List UInt8} {response : ControlResponse}
    (h : decodeResponse (packResponses requests format) limits payload = .ok response) :
    response.Proper := by
  rw [decodeResponse] at h
  split at h
  · exact nomatch h
  · rename_i decoded hdecode
    obtain ⟨c, hc⟩ := Format.decode_ok hdecode
    rw [← Except.ok.inj h]
    exact ControlResponse.deserialize_proper hc

/-! ## What the client obtains -/

section Received

variable {packed : Nat → Format} {printed : Format} {limits : ControlIpcLimits}
  {response : ControlResponse}

variable (packed printed limits) in
/-- What the formats are trusted with: they bring this response back. -/
structure Carried (response : ControlResponse) : Prop where
  packed : (packed limits.maxMsgpackNestingDepth).Faithful response.serialize
  printed : printed.Faithful response.serialize

/-- The payload of a frame is decoded as the response received. -/
theorem decodeResponse_received {requests : MsgPack} {requestId : Nat} {method : ControlMethod}
    {bytes : List UInt8} (hproper : response.Proper) (h : Carried packed printed limits response)
    (henc : encodeBinaryResponse (packResponses requests packed) requestId method response limits
      = .ok bytes) :
    decodeResponse (packResponses requests packed) limits (framePayload bytes)
      = .ok response.received := by
  obtain ⟨payload, hpack, hframe⟩ := encodeBinaryResponse_ok henc
  have hdecode : (packed limits.maxMsgpackNestingDepth).decode ControlResponse.deserialize payload
      = .ok response.received :=
    Format.decode_written h.packed hpack (ControlResponse.deserialize_serialize hproper)
  rw [encodeFrameInto_eq hframe, framePayload_frameBytes, decodeResponse, packResponses]
  dsimp only
  rw [hdecode]

/-- So is a line without its newline. -/
theorem decodeJsonl_received {requests : Json} {line : List UInt8} (hproper : response.Proper)
    (h : Carried packed printed limits response)
    (henc : encodeJsonl ((printResponses requests printed).writeResponse response) limits
      = .ok line) :
    decodeJsonl (printResponses requests printed).readResponse line.dropLast limits
      = .ok response.received := by
  obtain ⟨text, hwrite, rfl, hlen⟩ := encodeJsonl_ok henc
  have hdecode : printed.decode ControlResponse.deserialize text = .ok response.received :=
    Format.decode_written h.printed hwrite (ControlResponse.deserialize_serialize hproper)
  rw [List.dropLast_concat, decodeJsonl, if_neg (by omega), printResponses]
  dsimp only
  rw [hdecode]

/-- What is received is the response itself, unless its result is null. -/
theorem received_iff {obtained : Except IpcError ControlResponse}
    (h : obtained = .ok response.received) :
    obtained = .ok response ↔ response.result ≠ some .null := by
  rw [h, Except.ok.injEq]
  exact ControlResponse.received_eq_iff

/-- **WHICH RESPONSES SURVIVE**: with either codec, a response that could be
    encoded is what the client obtains exactly when its result is not null; and
    both codecs deliver the same response. -/
theorem response_survives_iff {msgpack : MsgPack} {json : Json} (hproper : response.Proper)
    (hcarried : Carried packed printed limits response) :
    (∀ requestId method bytes,
        encodeBinaryResponse (packResponses msgpack packed) requestId method response limits
          = .ok bytes →
        (decodeResponse (packResponses msgpack packed) limits (framePayload bytes) = .ok response ↔
          response.result ≠ some .null)) ∧
      (∀ line, encodeJsonl ((printResponses json printed).writeResponse response) limits
          = .ok line →
        (decodeJsonl (printResponses json printed).readResponse line.dropLast limits
            = .ok response ↔ response.result ≠ some .null)) ∧
      ∀ requestId method bytes line,
        encodeBinaryResponse (packResponses msgpack packed) requestId method response limits
          = .ok bytes →
        encodeJsonl ((printResponses json printed).writeResponse response) limits = .ok line →
        decodeResponse (packResponses msgpack packed) limits (framePayload bytes)
          = decodeJsonl (printResponses json printed).readResponse line.dropLast limits := by
  refine ⟨?_, ?_, ?_⟩
  · intro requestId method bytes henc
    exact received_iff (decodeResponse_received hproper hcarried henc)
  · intro line henc
    exact received_iff (decodeJsonl_received hproper hcarried henc)
  · intro requestId method bytes line hbinary hjsonl
    rw [decodeResponse_received hproper hcarried hbinary,
      decodeJsonl_received hproper hcarried hjsonl]

end Received

/-! ## Sample formats

    Both write the responses `{ok: true, result: R}` with `R` null or true. -/

/-- A response in MessagePack, up to the byte of its result. -/
def samplePacked (result : UInt8) : List UInt8 :=
  0x82 :: packStr "ok" ++ 0xC3 :: packStr "result" ++ [result]

/-- The bytes of an ASCII text. -/
def sampleText (text : String) : List UInt8 := text.toList.map fun c => UInt8.ofNat c.toNat

/-- MessagePack, without its nesting limit. -/
def sampleMessagePack (_ : Nat) : Format where
  write
    | .map [("ok", .bool true), ("result", .unit)] => .ok (samplePacked 0xC0)
    | .map [("ok", .bool true), ("result", .bool true)] => .ok (samplePacked 0xC3)
    | _ => .error "not a sample response"
  read bytes :=
    if bytes = samplePacked 0xC0 then .ok (.map [("ok", .bool true), ("result", .unit)])
    else if bytes = samplePacked 0xC3 then .ok (.map [("ok", .bool true), ("result", .bool true)])
    else .error "not a sample response"

/-- JSON. -/
def sampleJsonText : Format where
  write
    | .map [("ok", .bool true), ("result", .unit)] =>
        .ok (sampleText "\x7b\"ok\":true,\"result\":null\x7d")
    | .map [("ok", .bool true), ("result", .bool true)] =>
        .ok (sampleText "\x7b\"ok\":true,\"result\":true\x7d")
    | _ => .error "not a sample response"
  read bytes :=
    if bytes = sampleText "\x7b\"ok\":true,\"result\":null\x7d" then
      .ok (.map [("ok", .bool true), ("result", .unit)])
    else if bytes = sampleText "\x7b\"ok\":true,\"result\":true\x7d" then
      .ok (.map [("ok", .bool true), ("result", .bool true)])
    else .error "not a sample response"

/-- The codecs of a sample connection. -/
def samplePack : MsgPack := packResponses sampleCodec sampleMessagePack

/-- Its JSONL side. -/
def samplePrint : Json :=
  let unused : Json :=
    ⟨fun _ => .error "", fun _ => .error "", fun _ => .error "", fun _ => .error ""⟩
  printResponses unused sampleJsonText

/-- The bytes of a frame with a sample response to `task_cancel`. -/
def sampleFrame (response : ControlResponse) : List UInt8 :=
  (encodeBinaryResponse samplePack 7 .taskCancel response sampleLimits).toOption.getD []

/-- The line of a sample response. -/
def sampleLine (response : ControlResponse) : List UInt8 :=
  (encodeJsonl (samplePrint.writeResponse response) sampleLimits).toOption.getD []

theorem sample_carried {response : ControlResponse}
    (h : response ∈ [.emptyOk, .okValue (.bool true)]) :
    Carried sampleMessagePack sampleJsonText sampleLimits response := by
  obtain rfl | h := List.mem_cons.mp h
  · constructor
    · intro bytes hwrite
      cases hwrite
      rfl
    · intro bytes hwrite
      cases hwrite
      rfl
  · obtain rfl := List.mem_singleton.mp h
    constructor
    · intro bytes hwrite
      cases hwrite
      rfl
    · intro bytes hwrite
      cases hwrite
      rfl

/-- A result that is not null. -/
theorem response_survives_true :
    decodeResponse samplePack sampleLimits (framePayload (sampleFrame (.okValue (.bool true))))
        = .ok (.okValue (.bool true)) ∧
      decodeJsonl samplePrint.readResponse
        (sampleLine (.okValue (.bool true))).dropLast sampleLimits
        = .ok (.okValue (.bool true)) := by
  have hproper : (ControlResponse.okValue (.bool true)).Proper := by
    rintro v ⟨⟩
    exact .bool true
  have hcarried : Carried sampleMessagePack sampleJsonText sampleLimits (.okValue (.bool true)) :=
    sample_carried (by simp)
  have hframe : encodeBinaryResponse samplePack 7 .taskCancel (.okValue (.bool true)) sampleLimits
      = .ok (sampleFrame (.okValue (.bool true))) := rfl
  have hline : encodeJsonl (samplePrint.writeResponse (.okValue (.bool true))) sampleLimits
      = .ok (sampleLine (.okValue (.bool true))) := rfl
  obtain ⟨hbinary, hjsonl, -⟩ := response_survives_iff hproper hcarried
  exact ⟨(hbinary 7 .taskCancel _ hframe).mpr nofun, (hjsonl _ hline).mpr nofun⟩

/-- **`empty_ok()` DOES NOT SURVIVE**: it is encoded with the result null, the
    formats bring that back, and with either codec the client has no result. -/
theorem emptyOk_changed :
    Carried sampleMessagePack sampleJsonText sampleLimits .emptyOk ∧
      encodeBinaryResponse samplePack 7 .taskCancel .emptyOk sampleLimits
        = .ok (sampleFrame .emptyOk) ∧
      decodeResponse samplePack sampleLimits (framePayload (sampleFrame .emptyOk))
        = .ok ⟨true, none, none⟩ ∧
      encodeJsonl (samplePrint.writeResponse .emptyOk) sampleLimits = .ok (sampleLine .emptyOk) ∧
      decodeJsonl samplePrint.readResponse (sampleLine .emptyOk).dropLast sampleLimits
        = .ok ⟨true, none, none⟩ ∧
      (⟨true, none, none⟩ : ControlResponse) ≠ .emptyOk :=
  ⟨sample_carried (by simp), rfl, rfl, rfl, rfl, nofun⟩

/-! ## What a session delivers -/

section Delivered

variable {packed : Nat → Format} {printed : Format} {response : ControlResponse}

/-- The flags of a response. -/
theorem fromBits_responseFlags (response : ControlResponse) :
    FrameFlags.fromBits (responseFlags response).bits = .ok (responseFlags response) ∧
      (responseFlags response).contains .response = true := by
  rw [responseFlags]
  cases response.ok with
  | false => exact ⟨rfl, rfl⟩
  | true => exact ⟨rfl, rfl⟩

/-- The frame of a response is read off the stream whole, and the session hands
    the call that waits for it the response received. -/
theorem onFrame_received {cfg : SessionCfg} {requests : MsgPack} {requestId : UInt64}
    {method : ControlMethod} {bytes : List UInt8}
    (hcfg : cfg.msgpack = packResponses requests packed) (hproper : response.Proper)
    (hcarried : Carried packed printed cfg.limits response)
    (hlim : cfg.limits.maxFrameBytes < 2 ^ 32)
    (henc : encodeBinaryResponse cfg.msgpack requestId.toNat method response cfg.limits
      = .ok bytes) (rest : List UInt8) (s : Session) :
    ∃ header payload,
      readBinaryFrameInto cfg.limits (bytes ++ rest) = .ok (some (header, payload, rest)) ∧
      onFrame cfg s header payload = s.deliver requestId.toNat response.received := by
  obtain ⟨payload, -, hframe⟩ := encodeBinaryResponse_ok henc
  obtain ⟨hbits, hresponse⟩ := fromBits_responseFlags response
  obtain ⟨f, hf⟩ :
    ∃ f : WireFrame, f = ⟨method.opcode, responseFlags response, requestId, payload⟩ :=
    ⟨_, rfl⟩
  have hread : readBinaryFrameInto cfg.limits (bytes ++ rest)
      = .ok (some (f.header, f.payload, rest)) :=
    readBinaryFrameInto_encoded hlim (hf ▸ hbits) (hf ▸ hframe) rest
  have hpayload : framePayload bytes = f.payload := by
    rw [encodeFrameInto_eq hframe, framePayload_frameBytes, hf]
  have hdecode : decodeResponse cfg.msgpack cfg.limits f.payload = .ok response.received := by
    rw [hcfg] at henc ⊢
    rw [← hpayload]
    exact decodeResponse_received hproper hcarried henc
  refine ⟨f.header, f.payload, hread, ?_⟩
  rw [onFrame_eq cfg s f.header f.payload (by rw [hf]; exact hresponse), hdecode, hf]
  rfl

/-- The line of a response goes to the call with the smallest request id. -/
theorem onLine_received {cfg : SessionCfg} {requests : Json} {line : List UInt8}
    (hcfg : cfg.json = printResponses requests printed) (hproper : response.Proper)
    (hcarried : Carried packed printed cfg.limits response)
    (henc : encodeJsonl (cfg.json.writeResponse response) cfg.limits = .ok line) {s : Session}
    {requestId : Nat} (holdest : s.oldest = some requestId) :
    onLine cfg s line.dropLast = s.deliver requestId response.received := by
  have hdecode : decodeJsonl cfg.json.readResponse line.dropLast cfg.limits
      = .ok response.received := by
    rw [hcfg] at henc ⊢
    exact decodeJsonl_received hproper hcarried henc
  rw [onLine, hdecode]
  dsimp only
  rw [holdest]

end Delivered

end ServiceTransport
