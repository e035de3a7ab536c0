import MutsukiServiceHost.ServiceDecodeProofs

/-! # A stream of frames, read with buffers that are reused

    `read_binary_frame_into` as the code runs it: a header buffer of 28 bytes
    and a payload buffer that both live on from one call to the next, filled
    through `read_exact` on slices of them.  `ServiceDecodeProofs` has the same
    reader without buffers, as a function of the bytes left in the stream.

    * `readBinaryFrameBuffered_refines` — what the buffers held before a call
      has no influence on it.
    * `stream_round_trip` — repeated calls on the concatenation of encoded
      frames give back the frames, one per call, and then `None`.

    The last section is the other way a payload leaves the stream: thrown away
    in chunks by `discard_bytes`. -/

namespace ServiceFrame

open ServiceControl

/-! ## Buffers -/

/-- Copy `bytes` into a buffer from position `start` on. -/
def copyInto (buf : List UInt8) (start : Nat) (bytes : List UInt8) : List UInt8 :=
  buf.mapIdx fun k b => if k < start then b else (bytes[k - start]?).getD b

@[simp] theorem length_copyInto (buf : List UInt8) (start : Nat) (bytes : List UInt8) :
    (copyInto buf start bytes).length = buf.length :=
  List.length_mapIdx

/-- The slice that was copied into. -/
theorem slice_copyInto {buf bytes : List UInt8} {start stop : Nat}
    (hlen : start + bytes.length = stop) (hstop : stop ≤ buf.length) :
    slice (copyInto buf start bytes) start stop = bytes := by
  apply List.ext_getElem?
  intro k
  rw [slice, List.getElem?_take]
  split
  · rename_i hk
    rw [List.getElem?_drop, copyInto, List.getElem?_mapIdx,
      List.getElem?_eq_getElem (show start + k < buf.length by omega), Option.map_some,
      if_neg (by omega), Nat.add_sub_cancel_left,
      List.getElem?_eq_getElem (show k < bytes.length by omega)]
    rfl
  · rename_i hk
    exact (List.getElem?_eq_none (by omega)).symm

/-- A buffer that is copied over as a whole. -/
theorem copyInto_whole {buf bytes : List UInt8} (h : bytes.length = buf.length) :
    copyInto buf 0 bytes = bytes := by
  have hslice : slice (copyInto buf 0 bytes) 0 buf.length = bytes :=
    slice_copyInto (by omega) (Nat.le_refl _)
  rw [slice, List.drop_zero, Nat.sub_zero,
    List.take_of_length_le (Nat.le_of_eq (length_copyInto _ _ _))] at hslice
  exact hslice

theorem readExact_some {n : Nat} {stream got rest : List UInt8}
    (h : readExact n stream = some (got, rest)) : got.length = n ∧ stream = got ++ rest := by
  simp only [readExact] at h
  split at h
  · exact nomatch h
  · rename_i hlen
    cases h
    refine ⟨?_, (List.take_append_drop n stream).symm⟩
    rw [List.length_take]
    omega

/-- Enough bytes are read as they stand. -/
theorem readExact_append (got rest : List UInt8) :
    readExact got.length (got ++ rest) = some (got, rest) := by
  simp [readExact]

/-- The length prefix stands in `header_buf` as it was read, -/
theorem slice_copied_prefix {buf stream got rest : List UInt8}
    (hsized : buf.length = binaryLengthPrefixLen + binaryHeaderLen)
    (hread : readExact binaryLengthPrefixLen stream = some (got, rest)) :
    slice (copyInto buf 0 got) 0 binaryLengthPrefixLen = got :=
  slice_copyInto (by rw [(readExact_some hread).1]; rfl) (by rw [hsized]; decide)

/-- and the header behind it. -/
theorem slice_copied_header {buf stream got rest : List UInt8}
    (hsized : buf.length = binaryLengthPrefixLen + binaryHeaderLen)
    (hread : readExact binaryHeaderLen stream = some (got, rest)) :
    slice (copyInto buf binaryLengthPrefixLen got) binaryLengthPrefixLen
      (binaryLengthPrefixLen + binaryHeaderLen) = got :=
  slice_copyInto (by rw [(readExact_some hread).1]) (by rw [hsized])

/-- The buffers a reader keeps between two calls: `header_buf`, an array, and
    `payload_buf`. -/
structure ReadBuffers where
  header : List UInt8
  payload : List UInt8
  sized : header.length = binaryLengthPrefixLen + binaryHeaderLen

/-- Bytes read into `header_buf[start..]`. -/
def ReadBuffers.copyHeader (bufs : ReadBuffers) (start : Nat) (bytes : List UInt8) :
    ReadBuffers where
  header := copyInto bufs.header start bytes
  payload := bufs.payload
  sized := (length_copyInto _ _ _).trans bufs.sized

/-- `Vec::resize`. -/
def resize (buf : List UInt8) (n : Nat) (b : UInt8) : List UInt8 :=
  buf.take n ++ List.replicate (n - buf.length) b

/-- What a call of `read_binary_frame_into` leaves behind. -/
structure ReadOutcome where
  result : Except IpcError (Option FrameHeader)
  buffers : ReadBuffers
  rest : List UInt8

/-- `read_binary_frame_into` with its two buffers.  A `read_exact` that meets
    the end of the stream has copied what was there. -/
def readBinaryFrameBuffered (limits : ControlIpcLimits) (bufs : ReadBuffers)
    (stream : List UInt8) : ReadOutcome :=
  match readExact binaryLengthPrefixLen stream with
  | none => ⟨.ok none, bufs.copyHeader 0 stream, []⟩
  | some (got, stream) =>
      let bufs := bufs.copyHeader 0 got
      let declared := fromBeBytes (slice bufs.header 0 binaryLengthPrefixLen)
      match validateFrameLength declared limits with
      | .error e => ⟨.error e, bufs, stream⟩
      | .ok () =>
          match readExact binaryHeaderLen stream with
          | none => ⟨.error earlyEof, bufs.copyHeader binaryLengthPrefixLen stream, []⟩
          | some (got, stream) =>
              let bufs := bufs.copyHeader binaryLengthPrefixLen got
              match decodeFrameHeader (slice bufs.header binaryLengthPrefixLen
                  (binaryLengthPrefixLen + binaryHeaderLen)) limits with
              | .error e => ⟨.error e, bufs, stream⟩
              | .ok header =>
                  if declared ≠ binaryHeaderLen + header.payloadLen then
                    ⟨.error (.truncated declared (binaryHeaderLen + header.payloadLen)), bufs,
                      stream⟩
                  else
                    -- `payload_buf.clear()` and `payload_buf.resize(payload_len, 0)`
                    let payload := resize [] header.payloadLen 0
                    if 0 < header.payloadLen then
                      match readExact header.payloadLen stream with
                      | none =>
                          ⟨.error earlyEof, { bufs with payload := copyInto payload 0 stream }, []⟩
                      | some (got, stream) =>
                          ⟨.ok (some header), { bufs with payload := copyInto payload 0 got },
                            stream⟩
                    else ⟨.ok (some header), { bufs with payload := payload }, stream⟩

/-- What a call gives, without the buffers: the header with the payload and
    the rest of the stream, the clean end, or an error. -/
def ReadOutcome.frame (o : ReadOutcome) :
    Except IpcError (Option (FrameHeader × List UInt8 × List UInt8)) :=
  match o.result with
  | .error e => .error e
  | .ok none => .ok none
  | .ok (some header) => .ok (some (header, o.buffers.payload, o.rest))

/-- **THE BUFFERS DO NOT SHOW**: whatever they held before, a call does what
    the reader without buffers does. -/
theorem readBinaryFrameBuffered_refines (limits : ControlIpcLimits) (bufs : ReadBuffers)
    (stream : List UInt8) :
    (readBinaryFrameBuffered limits bufs stream).frame = readBinaryFrameInto limits stream := by
  simp only [readBinaryFrameBuffered, readBinaryFrameInto, readFramePrefix]
  cases h₁ : readExact binaryLengthPrefixLen stream with
  | none => rfl
  | some p₁ =>
      obtain ⟨got₁, rest₁⟩ := p₁
      have hdecl : slice (bufs.copyHeader 0 got₁).header 0 binaryLengthPrefixLen = got₁ :=
        slice_copied_prefix bufs.sized h₁
      simp only [hdecl]
      cases validateFrameLength (fromBeBytes got₁) limits with
      | error e => rfl
      | ok =>
          cases h₂ : readExact binaryHeaderLen rest₁ with
          | none => rfl
          | some p₂ =>
              obtain ⟨got₂, rest₂⟩ := p₂
              have hhead : slice
                  ((bufs.copyHeader 0 got₁).copyHeader binaryLengthPrefixLen got₂).header
                  binaryLengthPrefixLen (binaryLengthPrefixLen + binaryHeaderLen) = got₂ :=
                slice_copied_header (bufs.copyHeader 0 got₁).sized h₂
              simp only [hhead]
              cases decodeFrameHeader got₂ limits with
              | error e => rfl
              | ok header =>
                  simp only [readPayloadOrDiscard]
                  split
                  · rfl
                  · split
                    · cases h₃ : readExact header.payloadLen rest₂ with
                      | none => rfl
                      | some p₃ =>
                          obtain ⟨got₃, rest₃⟩ := p₃
                          simp only [ReadOutcome.frame]
                          rw [copyInto_whole]
                          rw [(readExact_some h₃).1]
                          simp [resize]
                    · rename_i hzero
                      have hz : header.payloadLen = 0 := by omega
                      simp [ReadOutcome.frame, readExact, resize, hz]

/-! ## Reading back what was encoded -/

/-- A frame as its sender names it. -/
structure WireFrame where
  opcode : UInt16
  flags : FrameFlags
  requestId : UInt64
  payload : List UInt8

/-- Its encoding. -/
def WireFrame.encode (f : WireFrame) (limits : ControlIpcLimits) : Except IpcError (List UInt8) :=
  encodeFrameInto f.opcode f.flags f.requestId.toNat f.payload limits

/-- The header a reader should get. -/
def WireFrame.header (f : WireFrame) : FrameHeader :=
  ⟨f.opcode, f.flags, f.requestId.toNat, f.payload.length⟩

/-- What `encode_frame_into` has checked. -/
theorem encodeFrameInto_ok {opcode : UInt16} {flags : FrameFlags} {requestId : Nat}
    {payload bytes : List UInt8} {limits : ControlIpcLimits}
    (h : encodeFrameInto opcode flags requestId payload limits = .ok bytes) :
    requestId ≠ 0 ∧ payload.length ≤ limits.maxPayloadBytes ∧
      validateFrameLength (binaryHeaderLen + payload.length) limits = .ok () := by
  simp only [encodeFrameInto] at h
  split at h
  · cases h
  · rename_i hid
    split at h
    · cases h
    · rename_i hlen
      cases hv : validateFrameLength (binaryHeaderLen + payload.length) limits with
      | error e =>
          rw [hv] at h
          cases h
      | ok => exact ⟨hid, Nat.not_lt.mp hlen, rfl⟩

theorem validateFrameLength_ok {n : Nat} {limits : ControlIpcLimits}
    (h : validateFrameLength n limits = .ok ()) : n ≤ limits.maxFrameBytes := by
  simp only [validateFrameLength] at h
  split at h
  · cases h
  · rename_i hn
    omega

/-- `head` holds the header fields of `f` at their offsets. -/
structure HeadOf (f : WireFrame) (head : List UInt8) : Prop where
  length : head.length = binaryHeaderLen
  magic : slice head 0 4 = toBeBytes 4 controlWireMagic
  major : slice head 4 6 = toBeBytes 2 controlWireMajor
  opcode : slice head 8 10 = toBeBytes 2 f.opcode.toNat
  flags : slice head 10 12 = toBeBytes 2 f.flags.bits.toNat
  requestId : slice head 12 20 = toBeBytes 8 f.requestId.toNat
  payloadLen : slice head 20 24 = toBeBytes 4 f.payload.length

/-- The length prefix, the header and the payload of a frame. -/
theorem frameBytes_parts (f : WireFrame) :
    ∃ head, frameBytes f.opcode f.flags f.requestId.toNat f.payload
        = toBeBytes 4 (binaryHeaderLen + f.payload.length) ++ (head ++ f.payload) ∧
      HeadOf f head := by
  refine ⟨toBeBytes 4 controlWireMagic ++ toBeBytes 2 controlWireMajor
    ++ toBeBytes 2 controlWireMinor ++ toBeBytes 2 f.opcode.toNat
    ++ toBeBytes 2 f.flags.bits.toNat ++ toBeBytes 8 f.requestId.toNat
    ++ toBeBytes 4 f.payload.length, ?_, rfl, rfl, rfl, rfl, rfl, rfl, rfl⟩
  simp only [frameBytes, List.append_assoc]

/-- The header of an encoded frame decodes to what was encoded. -/
theorem HeadOf.decode {f : WireFrame} {limits : ControlIpcLimits} {head : List UInt8}
    (h : HeadOf f head) (hflags : FrameFlags.fromBits f.flags.bits = .ok f.flags)
    (hid : f.requestId.toNat ≠ 0) (hmax : f.payload.length ≤ limits.maxPayloadBytes)
    (hlen : f.payload.length < 2 ^ 32) : decodeFrameHeader head limits = .ok f.header := by
  have hop' : UInt16.ofNat (fromBeBytes (toBeBytes 2 f.opcode.toNat)) = f.opcode := by
    rw [fromBeBytes_toBeBytes, Nat.mod_eq_of_lt (by simpa using f.opcode.toNat_lt)]
    simp
  have hfl' : UInt16.ofNat (fromBeBytes (toBeBytes 2 f.flags.bits.toNat)) = f.flags.bits := by
    rw [fromBeBytes_toBeBytes, Nat.mod_eq_of_lt (by simpa using f.flags.bits.toNat_lt)]
    simp
  have hrid' : fromBeBytes (toBeBytes 8 f.requestId.toNat) = f.requestId.toNat := by
    rw [fromBeBytes_toBeBytes, Nat.mod_eq_of_lt (by simpa using f.requestId.toNat_lt)]
  have hpl' : fromBeBytes (toBeBytes 4 f.payload.length) = f.payload.length := by
    rw [fromBeBytes_toBeBytes, Nat.mod_eq_of_lt (by simpa using hlen)]
  have hmagic' : fromBeBytes (toBeBytes 4 controlWireMagic) = controlWireMagic := by decide
  have hmajor' : fromBeBytes (toBeBytes 2 controlWireMajor) = controlWireMajor := by decide
  simp only [decodeFrameHeader, h.length, h.magic, h.major, h.opcode, h.flags, h.requestId,
    h.payloadLen, hop', hfl', hrid', hpl', hmagic', hmajor', hflags]
  rw [if_neg (Nat.lt_irrefl _), if_neg (by simp), if_neg (by simp), if_neg hid,
    if_neg (Nat.not_lt.mpr hmax)]
  rfl

/-- **ONE FRAME BACK**: a call on an encoded frame, whatever follows it, reads
    that frame and stops right behind it. -/
theorem readBinaryFrameInto_encoded {f : WireFrame} {limits : ControlIpcLimits}
    {bytes : List UInt8} (hlim : limits.maxFrameBytes < 2 ^ 32)
    (hflags : FrameFlags.fromBits f.flags.bits = .ok f.flags) (he : f.encode limits = .ok bytes)
    (rest : List UInt8) :
    readBinaryFrameInto limits (bytes ++ rest) = .ok (some (f.header, f.payload, rest)) := by
  obtain ⟨hid, hmax, hvalid⟩ := encodeFrameInto_ok he
  have hbody := validateFrameLength_ok hvalid
  rw [encodeFrameInto_eq he]
  obtain ⟨head, hparts, hhead⟩ := frameBytes_parts f
  have hlen : f.payload.length < 2 ^ 32 := by omega
  have hdeclared : fromBeBytes (toBeBytes 4 (binaryHeaderLen + f.payload.length))
      = binaryHeaderLen + f.payload.length := by
    rw [fromBeBytes_toBeBytes, Nat.mod_eq_of_lt]
    have : (256 : Nat) ^ 4 = 2 ^ 32 := by decide
    omega
  have hdec := hhead.decode hflags hid hmax hlen
  -- the three reads of the call
  have hread₁ : readExact binaryLengthPrefixLen
      (toBeBytes 4 (binaryHeaderLen + f.payload.length) ++ (head ++ (f.payload ++ rest)))
      = some (toBeBytes 4 (binaryHeaderLen + f.payload.length), head ++ (f.payload ++ rest)) :=
    readExact_append (toBeBytes 4 (binaryHeaderLen + f.payload.length)) _
  have hread₂ : readExact binaryHeaderLen (head ++ (f.payload ++ rest))
      = some (head, f.payload ++ rest) := hhead.length ▸ readExact_append head _
  have hread₃ : readExact f.header.payloadLen (f.payload ++ rest) = some (f.payload, rest) :=
    readExact_append f.payload rest
  rw [hparts]
  simp only [List.append_assoc, readBinaryFrameInto, readFramePrefix, hread₁, hdeclared, hvalid,
    hread₂, hdec, readPayloadOrDiscard, hread₃]
  rw [if_neg]
  exact not_not.mpr rfl

/-- The outcomes of `n` calls one after the other, on the same buffers. -/
def readCalls (limits : ControlIpcLimits) : Nat → ReadBuffers → List UInt8 → List ReadOutcome
  | 0, _, _ => []
  | n + 1, bufs, stream =>
      let o := readBinaryFrameBuffered limits bufs stream
      o :: readCalls limits n o.buffers o.rest

theorem ReadOutcome.frame_some {o : ReadOutcome} {header : FrameHeader}
    {payload rest : List UInt8} (h : o.frame = .ok (some (header, payload, rest))) :
    o.result = .ok (some header) ∧ o.buffers.payload = payload ∧ o.rest = rest := by
  simp only [ReadOutcome.frame] at h
  split at h
  · exact nomatch h
  · exact nomatch h
  · rename_i header' hr
    cases h
    exact ⟨hr, rfl, rfl⟩

/-- A call on `stream` has taken exactly the bytes of `f` and returned its
    header and payload. -/
def Recovers (limits : ControlIpcLimits) (f : WireFrame) (stream : List UInt8) (o : ReadOutcome) :
    Prop :=
  ∃ bytes, f.encode limits = .ok bytes ∧ stream = bytes ++ o.rest ∧
    o.result = .ok (some f.header) ∧ o.buffers.payload = f.payload

/-- **THE STREAM ROUND TRIP**: calls that reuse their buffers give back the
    frames of a stream in order, each with its own bytes, and then `None`. -/
theorem stream_round_trip {limits : ControlIpcLimits} {frames : List WireFrame}
    {encoded : List (List UInt8)} (hlim : limits.maxFrameBytes < 2 ^ 32)
    (hflags : ∀ f ∈ frames, FrameFlags.fromBits f.flags.bits = .ok f.flags)
    (henc : List.Forall₂ (fun f bytes => f.encode limits = .ok bytes) frames encoded)
    (bufs : ReadBuffers) :
    (∀ (i : Nat) (f : WireFrame), frames[i]? = some f →
      ∃ o, (readCalls limits (frames.length + 1) bufs encoded.flatten)[i]? = some o ∧
        Recovers limits f (encoded.drop i).flatten o ∧ o.rest = (encoded.drop (i + 1)).flatten) ∧
      ∃ o, (readCalls limits (frames.length + 1) bufs encoded.flatten)[frames.length]? = some o ∧
        o.result = .ok none ∧ o.rest = [] := by
  induction henc generalizing bufs with
  | nil => exact ⟨fun i f h => (nomatch h), _, rfl, rfl, rfl⟩
  | @cons f bytes frames encoded he henc ih =>
      obtain ⟨o₁, ho₁⟩ : ∃ o, readBinaryFrameBuffered limits bufs (bytes ++ encoded.flatten) = o :=
        ⟨_, rfl⟩
      have hcall : o₁.frame = .ok (some (f.header, f.payload, encoded.flatten)) := by
        rw [← ho₁, readBinaryFrameBuffered_refines]
        exact readBinaryFrameInto_encoded hlim (hflags f List.mem_cons_self) he _
      obtain ⟨hres, hpay, hrest⟩ := ReadOutcome.frame_some hcall
      -- the next call finds the next frame, and the buffers as this one left them
      have hcalls : readCalls limits ((f :: frames).length + 1) bufs (bytes :: encoded).flatten
          = o₁ :: readCalls limits (frames.length + 1) o₁.buffers encoded.flatten := by
        rw [List.flatten_cons, List.length_cons, readCalls, ho₁, hrest]
      obtain ⟨hframes, o, ho, hnone⟩ :=
        ih (fun g hg => hflags g (List.mem_cons_of_mem f hg)) o₁.buffers
      rw [hcalls]
      refine ⟨?_, o, ho, hnone⟩
      intro i g hg
      cases i with
      | zero =>
          cases hg
          exact ⟨o₁, rfl, ⟨bytes, he, by rw [hrest]; rfl, hres, hpay⟩, hrest⟩
      | succ i => exact hframes i g hg

/-- Two frames of different sizes, the longer one first. -/
def sampleFrames : List WireFrame :=
  [⟨0x13, .request, 7, [1, 2, 3]⟩, ⟨opcodeCancel, .cancel, 8, []⟩]

/-- Their encodings. -/
def sampleEncoded : List (List UInt8) :=
  sampleFrames.map fun f => frameBytes f.opcode f.flags f.requestId.toNat f.payload

/-- Buffers with other bytes in them. -/
def usedBuffers : ReadBuffers := ⟨List.replicate 28 0xFF, [9, 9, 9, 9, 9], rfl⟩

theorem stream_round_trip_sample :
    ∃ o, (readCalls sampleLimits 3 usedBuffers sampleEncoded.flatten)[1]? = some o ∧
      Recovers sampleLimits ⟨opcodeCancel, .cancel, 8, []⟩ (sampleEncoded.drop 1).flatten o ∧
      o.rest = [] := by
  have hflags : ∀ f ∈ sampleFrames, FrameFlags.fromBits f.flags.bits = .ok f.flags :=
    List.forall_mem_cons.mpr ⟨rfl, List.forall_mem_cons.mpr ⟨rfl, nofun⟩⟩
  have henc : List.Forall₂ (fun f bytes => f.encode sampleLimits = .ok bytes)
      sampleFrames sampleEncoded := .cons rfl (.cons rfl .nil)
  exact (stream_round_trip (by decide) hflags henc usedBuffers).1 1 _ rfl

/-- A header that was read was there. -/
theorem readFramePrefix_length {limits : ControlIpcLimits} {stream rest : List UInt8}
    {declared : Nat} {header : FrameHeader}
    (h : readFramePrefix limits stream = .ok (some (declared, header, rest))) :
    binaryLengthPrefixLen + binaryHeaderLen ≤ stream.length := by
  simp only [readFramePrefix] at h
  split at h
  · exact nomatch h
  · rename_i got₁ rest₁ hread₁
    split at h
    · exact nomatch h
    · split at h
      · exact nomatch h
      · rename_i got₂ rest₂ hread₂
        obtain ⟨hlen₁, hstream₁⟩ := readExact_some hread₁
        obtain ⟨hlen₂, hstream₂⟩ := readExact_some hread₂
        rw [hstream₁, hstream₂, List.length_append, List.length_append]
        omega

/-! ## Payloads that are thrown away -/

/-- The loop of `discard_bytes` on a scratch buffer of 8 KiB; `none` is the end
    of the stream.  Every round takes at least one byte, so `fuel` rounds are
    enough for `fuel` bytes. -/
def discardLoop : Nat → Nat → List UInt8 → Option (List UInt8)
  | _, 0, stream => some stream
  | 0, _ + 1, _ => none
  | fuel + 1, len + 1, stream =>
      let chunk := min (len + 1) (8 * 1024)
      match readExact chunk stream with
      | none => none
      | some (_, rest) => discardLoop fuel (len + 1 - chunk) rest

/-- `discard_bytes`. -/
def discardBytes (len : Nat) (stream : List UInt8) : Except IpcError (List UInt8) :=
  match discardLoop len len stream with
  | none => .error earlyEof
  | some rest => .ok rest

/-- `read_payload_or_discard` with its `allocate` flag. -/
def takePayload (declared : Nat) (header : FrameHeader) (allocate : Bool) (stream : List UInt8) :
    Except IpcError (Option (List UInt8) × List UInt8) :=
  if declared ≠ binaryHeaderLen + header.payloadLen then
    .error (.truncated declared (binaryHeaderLen + header.payloadLen))
  else if allocate = false then
    match discardBytes header.payloadLen stream with
    | .error e => .error e
    | .ok rest => .ok (none, rest)
  else if 0 < header.payloadLen then
    match readExact header.payloadLen stream with
    | none => .error earlyEof
    | some (payload, rest) => .ok (some payload, rest)
  else .ok (some [], stream)

/-- Reading in two parts is reading at once. -/
theorem readExact_add (m n : Nat) (stream : List UInt8) :
    (readExact (m + n) stream).map Prod.snd
      = (readExact m stream).bind fun p => (readExact n p.2).map Prod.snd := by
  simp only [readExact]
  by_cases hm : stream.length < m
  · rw [if_pos hm, if_pos (by omega)]
    rfl
  · rw [if_neg hm, Option.bind_some]
    simp only [List.length_drop]
    by_cases hn : stream.length - m < n
    · rw [if_pos hn, if_pos (by omega)]
    · rw [if_neg hn, if_neg (by omega)]
      simp [List.drop_drop]

/-- The chunks add up to the length. -/
theorem discardLoop_eq {fuel len : Nat} (h : len ≤ fuel) (stream : List UInt8) :
    discardLoop fuel len stream = (readExact len stream).map Prod.snd := by
  induction fuel generalizing len stream with
  | zero =>
      cases Nat.le_zero.mp h
      simp [discardLoop, readExact]
  | succ fuel ih =>
      cases len with
      | zero => simp [discardLoop, readExact]
      | succ len =>
          have hsplit :
            len + 1 = min (len + 1) (8 * 1024) + (len + 1 - min (len + 1) (8 * 1024)) := by
            omega
          rw [discardLoop]
          conv_rhs => rw [hsplit, readExact_add]
          cases readExact (min (len + 1) (8 * 1024)) stream with
          | none => rfl
          | some p => exact ih (by omega) p.2

/-- **A PAYLOAD LEAVES THE STREAM WHOLE**, kept or thrown away. -/
theorem takePayload_eq (declared : Nat) (header : FrameHeader) (allocate : Bool)
    (stream : List UInt8) :
    takePayload declared header allocate stream
      = (readPayloadOrDiscard declared header stream).map fun p =>
          (if allocate then some p.1 else none, p.2) := by
  simp only [takePayload, readPayloadOrDiscard, discardBytes, discardLoop_eq (Nat.le_refl _)]
  split
  · rfl
  · cases allocate with
    | false =>
        rw [if_pos rfl]
        cases readExact header.payloadLen stream <;> rfl
    | true =>
        rw [if_neg (by simp)]
        split
        · cases readExact header.payloadLen stream <;> rfl
        · rename_i hzero
          have hz : header.payloadLen = 0 := by omega
          simp [readExact, hz, Except.map]

/-- What leaves the stream are the next `payload_len` bytes. -/
theorem takePayload_ok {declared : Nat} {header : FrameHeader} {allocate : Bool}
    {stream rest : List UInt8} {kept : Option (List UInt8)}
    (h : takePayload declared header allocate stream = .ok (kept, rest)) :
    declared = binaryHeaderLen + header.payloadLen ∧ ∃ payload,
      payload.length = header.payloadLen ∧ stream = payload ++ rest ∧
      kept = if allocate then some payload else none := by
  rw [takePayload_eq, readPayloadOrDiscard] at h
  by_cases hdecl : declared = binaryHeaderLen + header.payloadLen
  · rw [if_neg (not_not.mpr hdecl)] at h
    cases hread : readExact header.payloadLen stream with
    | none =>
        rw [hread] at h
        exact nomatch h
    | some p =>
        obtain ⟨payload, rest'⟩ := p
        rw [hread] at h
        cases h
        obtain ⟨hlen, hstream⟩ := readExact_some hread
        exact ⟨hdecl, payload, hlen, hstream, rfl⟩
  · rw [if_pos hdecl] at h
    exact nomatch h

end ServiceFrame
