import MutsukiServiceHost.ServiceAcceptProofs
import MutsukiServiceHost.ServiceConfigProofs

/-! # Limits beyond the wire format

    The limits are configured as 64-bit numbers, the length prefix and
    `payload_len` have 32 bits, and `serve_stream` tells the two protocols apart
    by the first byte, which in a frame is the top byte of the length prefix.
    No check relates the three.

    * `on_wire_iff` — an encoded frame carries its true lengths and is served as
      binary exactly if its body is shorter than `2^32` and the top byte of its
      length is not that of `{`.
    * `limits_safe_iff` — which sections admit only such frames. -/

namespace ServiceFrame

open ServiceLoad (Full IpcSection)

/-- `ControlIpcLimits::from_section`. -/
def ControlIpcLimits.fromSection (ipc : IpcSection Full) : ControlIpcLimits where
  maxFrameBytes := ipc.maxFrameBytes
  maxPayloadBytes := min ipc.maxPayloadBytes ipc.maxFrameBytes
  maxJsonlLineBytes := ipc.maxJsonlLineBytes
  maxInFlight := max ipc.maxInFlight 1
  idleTimeoutMs := ipc.idleTimeoutMs
  requestTimeoutMs := ipc.requestTimeoutMs
  maxMsgpackNestingDepth := 64

/-! ## The first byte -/

/-- `FirstByteReader`; `inner` is what the stream still holds. -/
structure FirstByteReader where
  first : Option UInt8
  inner : List UInt8

/-- What `poll_read` hands out: the byte held back, then the stream. -/
def FirstByteReader.bytes (r : FirstByteReader) : List UInt8 := r.first.toList ++ r.inner

/-- What `serve_stream` does with a stream. -/
inductive Serving where
  | closed
  | jsonl (reader : FirstByteReader)
  | binary (reader : FirstByteReader)

/-- `serve_stream`, up to the call of `serve_jsonl` or `serve_binary`. -/
def serveStream : List UInt8 → Serving
  | [] => .closed
  | peek :: inner =>
      -- `{`
      if peek = 0x7B then .jsonl ⟨some peek, inner⟩ else .binary ⟨some peek, inner⟩

/-! ## One frame -/

/-- The frame says how long it is, and is served as a frame whatever follows. -/
structure OnWire (payload bytes : List UInt8) : Prop where
  lengthPrefix : fromBeBytes (slice bytes 0 4) = (bytes.drop binaryLengthPrefixLen).length
  payloadLen : fromBeBytes (slice bytes 24 28) = payload.length
  served : ∀ rest, ∃ reader, serveStream (bytes ++ rest) = .binary reader ∧
    reader.bytes = bytes ++ rest

/-- The body's length fits its 32 bits and does not start with the byte `{`. -/
def FitsWire (bodyLen : Nat) : Prop := bodyLen < 2 ^ 32 ∧ bodyLen / 2 ^ 24 ≠ 0x7B

instance (bodyLen : Nat) : Decidable (FitsWire bodyLen) :=
  inferInstanceAs (Decidable (_ ∧ _))

theorem slice_frameBytes_bodyLen (opcode : UInt16) (flags : FrameFlags) (requestId : Nat)
    (payload : List UInt8) :
    slice (frameBytes opcode flags requestId payload) 0 4
      = toBeBytes 4 (binaryHeaderLen + payload.length) := rfl

theorem slice_frameBytes_payloadLen (opcode : UInt16) (flags : FrameFlags) (requestId : Nat)
    (payload : List UInt8) :
    slice (frameBytes opcode flags requestId payload) 24 28 = toBeBytes 4 payload.length := rfl

theorem length_frameBytes (opcode : UInt16) (flags : FrameFlags) (requestId : Nat)
    (payload : List UInt8) :
    ((frameBytes opcode flags requestId payload).drop binaryLengthPrefixLen).length
      = binaryHeaderLen + payload.length := by
  simp only [frameBytes, List.length_drop, List.length_append, toBeBytes_length,
    binaryLengthPrefixLen, binaryHeaderLen]
  omega

/-- The first byte on the wire is the top byte of the body's length. -/
theorem serveStream_frameBytes (opcode : UInt16) (flags : FrameFlags) (requestId : Nat)
    (payload rest : List UInt8) :
    let bytes := frameBytes opcode flags requestId payload ++ rest
    ∃ reader : FirstByteReader, reader.bytes = bytes ∧ serveStream bytes =
      if UInt8.ofNat ((binaryHeaderLen + payload.length) / 256 ^ 3) = 0x7B then .jsonl reader
      else .binary reader :=
  ⟨⟨some _, _⟩, rfl, rfl⟩

/-- A number of 32 bits has its top byte as a byte. -/
theorem topByte_eq_iff {n : Nat} (h : n < 2 ^ 32) :
    UInt8.ofNat (n / 256 ^ 3) = 0x7B ↔ n / 2 ^ 24 = 0x7B := by
  have hbyte : n / 256 ^ 3 < 256 := Nat.div_lt_of_lt_mul h
  rw [← UInt8.toNat_inj, UInt8.toNat_ofNat', Nat.mod_eq_of_lt hbyte]
  exact Iff.rfl

theorem onWire_frameBytes_iff {opcode : UInt16} {flags : FrameFlags} {requestId : Nat}
    {payload : List UInt8} :
    OnWire payload (frameBytes opcode flags requestId payload)
      ↔ FitsWire (binaryHeaderLen + payload.length) := by
  constructor
  · intro h
    have hfront := h.lengthPrefix
    rw [slice_frameBytes_bodyLen, length_frameBytes, fromBeBytes_toBeBytes] at hfront
    have hlt : binaryHeaderLen + payload.length < 2 ^ 32 := by
      rw [← hfront]
      exact Nat.mod_lt _ (by decide)
    refine ⟨hlt, fun htop => ?_⟩
    obtain ⟨reader, hserved, -⟩ := h.served []
    obtain ⟨other, -, hjsonl⟩ := serveStream_frameBytes opcode flags requestId payload []
    rw [if_pos ((topByte_eq_iff hlt).mpr htop), hserved] at hjsonl
    exact nomatch hjsonl
  · rintro ⟨hlt, htop⟩
    have hpayload : payload.length < 2 ^ 32 := Nat.lt_of_le_of_lt (Nat.le_add_left _ _) hlt
    refine ⟨?_, ?_, fun rest => ?_⟩
    · rw [slice_frameBytes_bodyLen, length_frameBytes, fromBeBytes_toBeBytes]
      exact Nat.mod_eq_of_lt hlt
    · rw [slice_frameBytes_payloadLen, fromBeBytes_toBeBytes]
      exact Nat.mod_eq_of_lt hpayload
    · obtain ⟨reader, hbytes, hserved⟩ := serveStream_frameBytes opcode flags requestId payload rest
      rw [if_neg fun hbyte => htop ((topByte_eq_iff hlt).mp hbyte)] at hserved
      exact ⟨reader, hserved, hbytes⟩

/-- **WHICH FRAMES THE WIRE CARRIES**: those whose length fits the prefix and
    does not look like JSON. -/
theorem on_wire_iff {ipc : IpcSection Full} {opcode : UInt16} {flags : FrameFlags}
    {requestId : Nat} {payload bytes : List UInt8}
    (h : encodeFrameInto opcode flags requestId payload (.fromSection ipc) = .ok bytes) :
    OnWire payload bytes ↔ FitsWire (binaryHeaderLen + payload.length) := by
  rw [encodeFrameInto_eq h]
  exact onWire_frameBytes_iff

/-- A small frame under the default section. -/
theorem on_wire_small : OnWire [1, 2, 3] (frameBytes 1 .request 7 [1, 2, 3]) := by
  have hencode : encodeFrameInto 1 .request 7 [1, 2, 3]
      (.fromSection (ServiceLoad.defaultSections none).ipc)
        = .ok (frameBytes 1 .request 7 [1, 2, 3]) := rfl
  exact (on_wire_iff hencode).mpr (by decide)

/-! ## All frames of a section -/

/-- What `encode_frame_into` accepts under the limits of a section. -/
theorem encodeFrameInto_fromSection_iff {ipc : IpcSection Full} {opcode : UInt16}
    {flags : FrameFlags} {requestId : Nat} {payload bytes : List UInt8} :
    encodeFrameInto opcode flags requestId payload (.fromSection ipc) = .ok bytes ↔
      requestId ≠ 0 ∧ payload.length ≤ ipc.maxPayloadBytes ∧
        binaryHeaderLen + payload.length ≤ ipc.maxFrameBytes ∧
        bytes = frameBytes opcode flags requestId payload := by
  constructor
  · intro h
    obtain ⟨hid, hpayload, hvalid⟩ := encodeFrameInto_ok h
    exact ⟨hid, hpayload.trans (Nat.min_le_left _ _), (validateFrameLength_iff.mp hvalid).2,
      encodeFrameInto_eq h⟩
  · rintro ⟨hid, hpayload, hframe, rfl⟩
    have hsmall : payload.length ≤ (ControlIpcLimits.fromSection ipc).maxPayloadBytes :=
      Nat.le_min.mpr ⟨hpayload, (Nat.le_add_left _ _).trans hframe⟩
    have hvalid : validateFrameLength (binaryHeaderLen + payload.length)
        (ControlIpcLimits.fromSection ipc) = .ok () :=
      validateFrameLength_iff.mpr ⟨Nat.le_add_right _ _, hframe⟩
    rw [encodeFrameInto, if_neg hid, if_neg (Nat.not_lt.mpr hsmall), hvalid]
    rfl

/-- A payload whose frame starts with the byte `{`. -/
def jsonSizedPayload : List UInt8 := List.replicate (0x7B000000 - binaryHeaderLen) 0

theorem bodyLen_jsonSized : binaryHeaderLen + jsonSizedPayload.length = 0x7B000000 := by
  rw [jsonSizedPayload, List.length_replicate]
  rfl

theorem encode_jsonSized {ipc : IpcSection Full} (hframe : 0x7B000000 ≤ ipc.maxFrameBytes)
    (hpayload : 0x7B000000 ≤ binaryHeaderLen + ipc.maxPayloadBytes) :
    encodeFrameInto 0 .request 1 jsonSizedPayload (.fromSection ipc)
      = .ok (frameBytes 0 .request 1 jsonSizedPayload) :=
  encodeFrameInto_fromSection_iff.mpr ⟨one_ne_zero,
    Nat.le_of_add_le_add_left (bodyLen_jsonSized.le.trans hpayload),
    bodyLen_jsonSized.le.trans hframe, rfl⟩

/-- A section is safe exactly if one of its two limits keeps every body below
    the lengths whose top byte is that of `{`. -/
theorem limits_safe_iff (ipc : IpcSection Full) :
    (∀ opcode flags requestId payload bytes,
        encodeFrameInto opcode flags requestId payload (.fromSection ipc) = .ok bytes →
          OnWire payload bytes) ↔
      ipc.maxFrameBytes < 0x7B000000 ∨ binaryHeaderLen + ipc.maxPayloadBytes < 0x7B000000 := by
  constructor
  · intro h
    by_contra hlimits
    obtain ⟨hframe, hpayload⟩ := not_or.mp hlimits
    have hencode := encode_jsonSized (Nat.le_of_not_lt hframe) (Nat.le_of_not_lt hpayload)
    have hfits := onWire_frameBytes_iff.mp (h 0 .request 1 _ _ hencode)
    rw [bodyLen_jsonSized] at hfits
    exact absurd hfits (by decide)
  · intro hlimits opcode flags requestId payload bytes hencode
    obtain ⟨-, hpayload, hframe, -⟩ := encodeFrameInto_fromSection_iff.mp hencode
    have hlt : binaryHeaderLen + payload.length < 0x7B000000 := by
      obtain hlimit | hlimit := hlimits
      · exact Nat.lt_of_le_of_lt hframe hlimit
      · exact Nat.lt_of_le_of_lt (Nat.add_le_add_left hpayload _) hlimit
    rw [encodeFrameInto_eq hencode]
    refine onWire_frameBytes_iff.mpr ⟨hlt.trans (by decide), fun htop => ?_⟩
    omega

/-- With limits of two gigabytes a frame is encoded that is served as JSON. -/
theorem json_sized_frame_served_as_jsonl :
    let ipc := { (ServiceLoad.defaultSections none).ipc with
      maxFrameBytes := 0x80000000, maxPayloadBytes := 0x80000000 }
    ∃ bytes, encodeFrameInto 0 .request 1 jsonSizedPayload (.fromSection ipc) = .ok bytes ∧
      (∃ reader, serveStream bytes = .jsonl reader) ∧ ¬ OnWire jsonSizedPayload bytes := by
  intro ipc
  obtain ⟨reader, -, hserved⟩ := serveStream_frameBytes 0 .request 1 jsonSizedPayload []
  rw [List.append_nil, bodyLen_jsonSized] at hserved
  refine ⟨_, encode_jsonSized (by decide) (by decide), ⟨reader, hserved⟩, ?_⟩
  rw [onWire_frameBytes_iff, bodyLen_jsonSized]
  decide

end ServiceFrame
