import Mathlib.Algebra.Group.Nat.Defs
import MutsukiServiceHost.ServiceControlProofs

/-! # The control wire — limits, frames and the message codecs

    The length-prefixed binary frame of the control protocol
    (`encode_frame_into`), its limits, and the codecs that turn requests and
    responses into frames or JSONL lines.  `rmp_serde` and `serde_json` are
    parameters: `MsgPack` and `Json` hold the functions the code calls. -/

namespace ServiceFrame

open ServiceControl

/-- `ControlIpcLimits`. -/
structure ControlIpcLimits where
  maxFrameBytes : Nat
  maxPayloadBytes : Nat
  maxJsonlLineBytes : Nat
  maxInFlight : Nat
  idleTimeoutMs : Nat
  requestTimeoutMs : Nat
  maxMsgpackNestingDepth : Nat
  deriving DecidableEq, Repr

/-- `IpcError`; the operating system's and the decoders' own texts are
    strings. -/
inductive IpcError where
  | unsupportedTransport (transport : String)
  | io (detail : String)
  | protocol (detail : String)
  | json (detail : String)
  | frameOversized (actual limit : Nat)
  | payloadOversized (actual limit : Nat)
  | jsonlLineOversized (actual limit : Nat)
  | truncated (expected actual : Nat)
  | unknownOpcode (opcode : UInt16)
  | unknownFlags (bits : UInt16)
  | invalidMagic (magic : Nat)
  | invalidRequestId
  | duplicateResponse (requestId : Nat)
  | lateResponse (requestId : Nat)
  | pendingLimitExceeded (limit : Nat)
  | timeout
  | cancelled
  | closed
  | draining
  deriving DecidableEq, Repr

/-- `{:#0..x}`: a prefix and at least `digits` hexadecimal digits. -/
def hexText (digits n : Nat) : String :=
  let text := Nat.toDigits 16 n
  "0x" ++ String.ofList (List.replicate (digits - text.length) '0' ++ text)

/-- The `Display` text of an `IpcError`. -/
def IpcError.message : IpcError → String
  | .unsupportedTransport transport =>
      "ipc transport " ++ transport ++ " is not supported on this platform"
  | .io detail => "ipc io error: " ++ detail
  | .protocol detail => "ipc protocol error: " ++ detail
  | .json detail => "json decode error: " ++ detail
  | .frameOversized actual limit =>
      "frame oversized: actual=" ++ toString actual ++ " limit=" ++ toString limit
  | .payloadOversized actual limit =>
      "payload oversized: actual=" ++ toString actual ++ " limit=" ++ toString limit
  | .jsonlLineOversized actual limit =>
      "jsonl line oversized: actual=" ++ toString actual ++ " limit=" ++ toString limit
  | .truncated expected actual =>
      "truncated frame: expected=" ++ toString expected ++ " actual=" ++ toString actual
  | .unknownOpcode opcode => "unknown opcode: " ++ hexText 4 opcode.toNat
  | .unknownFlags bits => "unknown flags: " ++ hexText 4 bits.toNat
  | .invalidMagic magic => "invalid magic: " ++ hexText 8 magic
  | .invalidRequestId => "invalid request id"
  | .duplicateResponse requestId => "duplicate response for request " ++ toString requestId
  | .lateResponse requestId => "late response for unknown request " ++ toString requestId
  | .pendingLimitExceeded limit => "pending request limit exceeded (" ++ toString limit ++ ")"
  | .timeout => "request timed out"
  | .cancelled => "request cancelled"
  | .closed => "connection closed"
  | .draining => "server is draining"

/-- `FrameFlags`. -/
structure FrameFlags where
  bits : UInt16
  deriving DecidableEq, Repr

namespace FrameFlags

/-- `FrameFlags::REQUEST`. -/
def request : FrameFlags := ⟨0x0001⟩
/-- `FrameFlags::RESPONSE`. -/
def response : FrameFlags := ⟨0x0002⟩
/-- `FrameFlags::ERROR`. -/
def error : FrameFlags := ⟨0x0004⟩
/-- `FrameFlags::CANCEL`. -/
def cancel : FrameFlags := ⟨0x0008⟩
/-- `FrameFlags::KNOWN`. -/
def known : UInt16 := request.bits ||| response.bits ||| error.bits ||| cancel.bits

/-- `FrameFlags::contains`. -/
def contains (self other : FrameFlags) : Bool := self.bits &&& other.bits == other.bits

/-- The `|` of flags. -/
def union (self rhs : FrameFlags) : FrameFlags := ⟨self.bits ||| rhs.bits⟩

/-- `FrameFlags::from_bits`. -/
def fromBits (bits : UInt16) : Except IpcError FrameFlags :=
  if bits &&& (~~~known) != 0 then .error (.unknownFlags bits)
  else
    let flags : FrameFlags := ⟨bits⟩
    let isRequest := flags.contains request
    let isResponse := flags.contains response
    let isCancel := flags.contains cancel
    if isCancel then
      if isResponse || flags.contains error then .error (.unknownFlags bits) else .ok flags
    else if isRequest == isResponse then .error (.unknownFlags bits)
    else if flags.contains error && !isResponse then .error (.unknownFlags bits)
    else .ok flags

end FrameFlags

/-- `FrameHeader`; the request id is a `u64`, the payload length a `u32`. -/
structure FrameHeader where
  opcode : UInt16
  flags : FrameFlags
  requestId : Nat
  payloadLen : Nat
  deriving DecidableEq, Repr

/-- `BINARY_LENGTH_PREFIX_LEN`. -/
def binaryLengthPrefixLen : Nat := 4
/-- `BINARY_HEADER_LEN`. -/
def binaryHeaderLen : Nat := 24
/-- `CONTROL_WIRE_MAGIC`, `"MSHC"`. -/
def controlWireMagic : Nat := 0x4d534843
/-- `CONTROL_WIRE_MAJOR`. -/
def controlWireMajor : Nat := 1
/-- `CONTROL_WIRE_MINOR`. -/
def controlWireMinor : Nat := 0
/-- `OPCODE_CANCEL`. -/
def opcodeCancel : UInt16 := 0x7FFF

/-- `to_be_bytes` of an unsigned integer of `width` bytes; the cast to the
    width truncates. -/
def toBeBytes (width n : Nat) : List UInt8 :=
  (List.range width).map fun k => UInt8.ofNat (n / 256 ^ (width - 1 - k))

@[simp] theorem toBeBytes_length (width n : Nat) : (toBeBytes width n).length = width := by
  simp [toBeBytes]

/-- `validate_frame_length`. -/
def validateFrameLength (bodyLen : Nat) (limits : ControlIpcLimits) : Except IpcError Unit :=
  if bodyLen = 0 ∨ limits.maxFrameBytes < bodyLen then
    .error (.frameOversized bodyLen limits.maxFrameBytes)
  else if bodyLen < binaryHeaderLen then .error (.truncated binaryHeaderLen bodyLen)
  else .ok ()

/-- The bytes `encode_frame_into` puts into its output buffer. -/
def frameBytes (opcode : UInt16) (flags : FrameFlags) (requestId : Nat)
    (payload : List UInt8) : List UInt8 :=
  toBeBytes 4 (binaryHeaderLen + payload.length)
    ++ toBeBytes 4 controlWireMagic
    ++ toBeBytes 2 controlWireMajor
    ++ toBeBytes 2 controlWireMinor
    ++ toBeBytes 2 opcode.toNat
    ++ toBeBytes 2 flags.bits.toNat
    ++ toBeBytes 8 requestId
    ++ toBeBytes 4 payload.length
    ++ payload

/-- `encode_frame_into`: the output buffer is replaced on success and left
    alone on an error, so the result is the new content. -/
def encodeFrameInto (opcode : UInt16) (flags : FrameFlags) (requestId : Nat)
    (payload : List UInt8) (limits : ControlIpcLimits) : Except IpcError (List UInt8) :=
  if requestId = 0 then .error .invalidRequestId
  else if limits.maxPayloadBytes < payload.length then
    .error (.payloadOversized payload.length limits.maxPayloadBytes)
  else do
    validateFrameLength (binaryHeaderLen + payload.length) limits
    return frameBytes opcode flags requestId payload

/-- A byte string `encode_frame_into` can produce under `limits`. -/
def IsFrame (limits : ControlIpcLimits) (bytes : List UInt8) : Prop :=
  ∃ opcode flags requestId payload,
    encodeFrameInto opcode flags requestId payload limits = .ok bytes

theorem encodeFrameInto_eq {opcode : UInt16} {flags : FrameFlags} {requestId : Nat}
    {payload bytes : List UInt8} {limits : ControlIpcLimits}
    (h : encodeFrameInto opcode flags requestId payload limits = .ok bytes) :
    bytes = frameBytes opcode flags requestId payload := by
  simp only [encodeFrameInto] at h
  split at h
  · exact nomatch h
  · split at h
    · exact nomatch h
    · simp only [validateFrameLength] at h
      split at h
      · exact nomatch h
      · split at h
        · exact nomatch h
        · exact (Except.ok.inj h).symm

/-- Every frame carries its prefix and its header. -/
theorem IsFrame.length_ge {limits : ControlIpcLimits} {bytes : List UInt8}
    (h : IsFrame limits bytes) : 28 ≤ bytes.length := by
  obtain ⟨opcode, flags, requestId, payload, he⟩ := h
  rw [encodeFrameInto_eq he]
  simp only [frameBytes, List.length_append, toBeBytes_length]
  omega

/-- `ControlRequestBody`. -/
structure ControlRequestBody where
  token : String
  params : Value

/-- What the code calls of `rmp_serde`: serialisation and deserialisation of
    the two bodies under a nesting limit, with the library's error texts. -/
structure MsgPack where
  packRequest : Nat → ControlRequestBody → Except String (List UInt8)
  unpackRequest : Nat → List UInt8 → Except String ControlRequestBody
  packResponse : Nat → ControlResponse → Except String (List UInt8)
  unpackResponse : Nat → List UInt8 → Except String ControlResponse

/-- What the code calls of `serde_json` for the JSONL profile. -/
structure Json where
  writeRequest : ControlRequest → Except String (List UInt8)
  readRequest : List UInt8 → Except String ControlRequest
  writeResponse : ControlResponse → Except String (List UInt8)
  readResponse : List UInt8 → Except String ControlResponse

/-- `encode_messagepack_into`, after the serialiser has run. -/
def encodeMessagepackInto (packed : Except String (List UInt8)) (limits : ControlIpcLimits) :
    Except IpcError (List UInt8) :=
  match packed with
  | .error detail => .error (.protocol detail)
  | .ok bytes =>
      if limits.maxPayloadBytes < bytes.length then
        .error (.payloadOversized bytes.length limits.maxPayloadBytes)
      else .ok bytes

/-- `encode_binary_request_with_scratch`. -/
def encodeBinaryRequest (codec : MsgPack) (requestId : Nat) (request : ControlRequest)
    (limits : ControlIpcLimits) : Except IpcError (List UInt8) := do
  let payload ← encodeMessagepackInto
    (codec.packRequest limits.maxMsgpackNestingDepth ⟨request.token, request.params⟩) limits
  encodeFrameInto request.method.opcode .request requestId payload limits

/-- The flags `encode_binary_response_with_scratch` sets. -/
def responseFlags (response : ControlResponse) : FrameFlags :=
  if response.ok then .response else FrameFlags.union .response .error

/-- `encode_binary_response_with_scratch`. -/
def encodeBinaryResponse (codec : MsgPack) (requestId : Nat) (method : ControlMethod)
    (response : ControlResponse) (limits : ControlIpcLimits) :
    Except IpcError (List UInt8) := do
  let payload ← encodeMessagepackInto
    (codec.packResponse limits.maxMsgpackNestingDepth response) limits
  encodeFrameInto method.opcode (responseFlags response) requestId payload limits

/-- `encode_binary_cancel`. -/
def encodeBinaryCancel (requestId : Nat) (limits : ControlIpcLimits) :
    Except IpcError (List UInt8) :=
  encodeFrameInto opcodeCancel .cancel requestId [] limits

/-- `encode_jsonl`, after the serialiser has run: the newline is pushed before
    the length check. -/
def encodeJsonl (written : Except String (List UInt8)) (limits : ControlIpcLimits) :
    Except IpcError (List UInt8) :=
  match written with
  | .error detail => .error (.json detail)
  | .ok bytes =>
      let line := bytes ++ [0x0A]
      if limits.maxJsonlLineBytes < line.length then
        .error (.jsonlLineOversized line.length limits.maxJsonlLineBytes)
      else .ok line

/-- `decode_jsonl`, with the parser passed in. -/
def decodeJsonl {α : Type} (read : List UInt8 → Except String α) (line : List UInt8)
    (limits : ControlIpcLimits) : Except IpcError α :=
  if limits.maxJsonlLineBytes < line.length then
    .error (.jsonlLineOversized line.length limits.maxJsonlLineBytes)
  else match read line with
    | .error detail => .error (.json detail)
    | .ok value => .ok value

theorem encodeMessagepackInto_ok {packed : Except String (List UInt8)}
    {limits : ControlIpcLimits} {payload : List UInt8}
    (h : encodeMessagepackInto packed limits = .ok payload) : packed = .ok payload := by
  cases packed with
  | error detail => exact nomatch h
  | ok bytes =>
      simp only [encodeMessagepackInto] at h
      split at h
      · exact nomatch h
      · rw [Except.ok.inj h]

/-- The frame of a response, around what the serialiser has written. -/
theorem encodeBinaryResponse_ok {codec : MsgPack} {requestId : Nat} {method : ControlMethod}
    {response : ControlResponse} {limits : ControlIpcLimits} {bytes : List UInt8}
    (h : encodeBinaryResponse codec requestId method response limits = .ok bytes) :
    ∃ payload, codec.packResponse limits.maxMsgpackNestingDepth response = .ok payload ∧
      encodeFrameInto method.opcode (responseFlags response) requestId payload limits
        = .ok bytes := by
  simp only [encodeBinaryResponse] at h
  cases hp : encodeMessagepackInto
      (codec.packResponse limits.maxMsgpackNestingDepth response) limits with
  | error e =>
      rw [hp] at h
      exact nomatch h
  | ok payload =>
      rw [hp] at h
      exact ⟨payload, encodeMessagepackInto_ok hp, h⟩

/-- An encoded response is a frame. -/
theorem encodeBinaryResponse_isFrame {codec : MsgPack} {requestId : Nat}
    {method : ControlMethod} {response : ControlResponse} {limits : ControlIpcLimits}
    {bytes : List UInt8}
    (h : encodeBinaryResponse codec requestId method response limits = .ok bytes) :
    IsFrame limits bytes := by
  obtain ⟨payload, -, hframe⟩ := encodeBinaryResponse_ok h
  exact ⟨_, _, _, payload, hframe⟩

/-! ## A codec for sample runs

    The MessagePack encoding of the few bodies that concrete runs use: named
    struct fields, short strings, `nil` and booleans. -/

/-- A MessagePack string of fewer than 256 ASCII characters. -/
def packStr (s : String) : List UInt8 :=
  let bytes := s.toList.map fun c => UInt8.ofNat c.toNat
  if bytes.length < 32 then UInt8.ofNat (0xa0 + bytes.length) :: bytes
  else 0xd9 :: UInt8.ofNat bytes.length :: bytes

/-- A scalar value. -/
def packScalar : Value → Except String (List UInt8)
  | .null => .ok [0xc0]
  | .bool b => .ok [if b then 0xc3 else 0xc2]
  | .string s => .ok (packStr s)
  | _ => .error "not a scalar"

/-- A request body with scalar parameters. -/
def packSampleRequest (body : ControlRequestBody) : Except String (List UInt8) := do
  let params ← packScalar body.params
  return 0x82 :: packStr "token" ++ packStr body.token ++ packStr "params" ++ params

/-- A response with a scalar result; `None` fields are skipped. -/
def packSampleResponse (response : ControlResponse) : Except String (List UInt8) := do
  let ok : List UInt8 := packStr "ok" ++ [if response.ok then 0xc3 else 0xc2]
  match response.result, response.error with
  | none, none => return 0x81 :: ok
  | some value, none =>
      let value ← packScalar value
      return 0x82 :: ok ++ packStr "result" ++ value
  | none, some e =>
      return 0x82 :: ok ++ packStr "error" ++ 0x82 :: packStr "code" ++ packStr e.code
        ++ packStr "message" ++ packStr e.message
  | some _, some _ => .error "not a sample response"

/-- The sample codec: it reads back the request body and the responses of the
    sample runs, a `nil` result as `None`. -/
def sampleCodec : MsgPack where
  packRequest _ body := packSampleRequest body
  unpackRequest _ bytes :=
    if (packSampleRequest ⟨"t", .null⟩).toOption = some bytes then .ok ⟨"t", .null⟩
    else .error "invalid body"
  packResponse _ response := packSampleResponse response
  unpackResponse _ bytes :=
    if (packSampleResponse .emptyOk).toOption = some bytes then .ok ⟨true, none, none⟩
    else if (packSampleResponse (.okValue (.bool true))).toOption = some bytes then
      .ok (.okValue (.bool true))
    else .error "invalid response"

/-- The payload of the sample request. -/
def samplePayload : List UInt8 :=
  0x82 :: packStr "token" ++ packStr "t" ++ packStr "params" ++ [0xc0]

/-- Limits for sample runs. -/
def sampleLimits : ControlIpcLimits where
  maxFrameBytes := 1024
  maxPayloadBytes := 1000
  maxJsonlLineBytes := 1024
  maxInFlight := 4
  idleTimeoutMs := 1000
  requestTimeoutMs := 1000
  maxMsgpackNestingDepth := 64

example : sampleCodec.packRequest 64 ⟨"t", .null⟩ = .ok samplePayload := by rfl

end ServiceFrame
