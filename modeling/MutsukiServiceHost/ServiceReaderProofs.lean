import MutsukiServiceHost.ServiceStreamProofs

/-! # Two readers of one wire

    The client reads a frame with `read_binary_frame_into`, the server in two
    parts: `read_frame_prefix`, and `read_payload_or_discard` once it knows
    whether it takes the request.  The two are separate copies of the code, and
    a connection stays aligned only if they agree on every stream.

    * `readers_agree` — the same frames, errors and unread bytes, with a payload
      that is kept or thrown away.
    * `connections_agree` — so they do frame after frame, whichever payloads the
      server throws away. -/

namespace ServiceFrame

/-- The `header_buf` of a reader. -/
structure HeaderBuf where
  bytes : List UInt8
  sized : bytes.length = binaryLengthPrefixLen + binaryHeaderLen

/-- Bytes read into `header_buf[start..]`. -/
def HeaderBuf.copy (buf : HeaderBuf) (start : Nat) (got : List UInt8) : HeaderBuf where
  bytes := copyInto buf.bytes start got
  sized := (length_copyInto _ _ _).trans buf.sized

/-- What a call of `read_frame_prefix` leaves behind. -/
structure PrefixOutcome where
  result : Except IpcError (Option (Nat × FrameHeader))
  buffer : HeaderBuf
  rest : List UInt8

/-- `read_frame_prefix` with its buffer. -/
def readFramePrefixBuffered (limits : ControlIpcLimits) (buf : HeaderBuf)
    (stream : List UInt8) : PrefixOutcome :=
  match readExact binaryLengthPrefixLen stream with
  | none => ⟨.ok none, buf.copy 0 stream, []⟩
  | some (got, stream) =>
      let buf := buf.copy 0 got
      let declared := fromBeBytes (slice buf.bytes 0 binaryLengthPrefixLen)
      match validateFrameLength declared limits with
      | .error e => ⟨.error e, buf, stream⟩
      | .ok () =>
          match readExact binaryHeaderLen stream with
          | none => ⟨.error earlyEof, buf.copy binaryLengthPrefixLen stream, []⟩
          | some (got, stream) =>
              let buf := buf.copy binaryLengthPrefixLen got
              match decodeFrameHeader (slice buf.bytes binaryLengthPrefixLen
                  (binaryLengthPrefixLen + binaryHeaderLen)) limits with
              | .error e => ⟨.error e, buf, stream⟩
              | .ok header => ⟨.ok (some (declared, header)), buf, stream⟩

/-- What a reader's success gives: the header and the payload of a frame, or
    neither at the clean end, and the bytes left unread. -/
abbrev FrameRead (α : Type) := Option (FrameHeader × α) × List UInt8

/-- The outcome of a call of `read_binary_frame_into`. -/
def ReadOutcome.outcome (o : ReadOutcome) : Except IpcError (FrameRead (List UInt8)) :=
  match o.result with
  | .error e => .error e
  | .ok none => .ok (none, o.rest)
  | .ok (some header) => .ok (some (header, o.buffers.payload), o.rest)

/-- `read_frame_prefix` and then `read_payload_or_discard`, with the buffer the
    calls leave. -/
def readInTwo (limits : ControlIpcLimits) (buf : HeaderBuf) (allocate : Bool)
    (stream : List UInt8) : Except IpcError (FrameRead (Option (List UInt8))) × HeaderBuf :=
  let o := readFramePrefixBuffered limits buf stream
  match o.result with
  | .error e => (.error e, o.buffer)
  | .ok none => (.ok (none, o.rest), o.buffer)
  | .ok (some (declared, header)) =>
      match takePayload declared header allocate o.rest with
      | .error e => (.error e, o.buffer)
      | .ok (payload, rest) => (.ok (some (header, payload), rest), o.buffer)

/-! ## One frame -/

/-- The result of `read_frame_prefix` with the rest of the stream. -/
def PrefixOutcome.found (o : PrefixOutcome) :
    Except IpcError (Option (Nat × FrameHeader × List UInt8)) :=
  match o.result with
  | .error e => .error e
  | .ok none => .ok none
  | .ok (some (declared, header)) => .ok (some (declared, header, o.rest))

/-- What the buffer held before has no influence on the prefix. -/
theorem readFramePrefixBuffered_refines (limits : ControlIpcLimits) (buf : HeaderBuf)
    (stream : List UInt8) :
    (readFramePrefixBuffered limits buf stream).found = readFramePrefix limits stream := by
  simp only [readFramePrefixBuffered, readFramePrefix]
  cases h₁ : readExact binaryLengthPrefixLen stream with
  | none => rfl
  | some p₁ =>
      obtain ⟨got₁, rest₁⟩ := p₁
      have hdecl : slice (buf.copy 0 got₁).bytes 0 binaryLengthPrefixLen = got₁ :=
        slice_copied_prefix buf.sized h₁
      simp only [hdecl]
      cases validateFrameLength (fromBeBytes got₁) limits with
      | error e => rfl
      | ok =>
          cases h₂ : readExact binaryHeaderLen rest₁ with
          | none => rfl
          | some p₂ =>
              obtain ⟨got₂, rest₂⟩ := p₂
              have hhead : slice ((buf.copy 0 got₁).copy binaryLengthPrefixLen got₂).bytes
                  binaryLengthPrefixLen (binaryLengthPrefixLen + binaryHeaderLen) = got₂ :=
                slice_copied_header (buf.copy 0 got₁).sized h₂
              simp only [hhead]
              cases decodeFrameHeader got₂ limits with
              | error e => rfl
              | ok header => rfl

/-- The clean end has used the stream up. -/
theorem readFramePrefixBuffered_none {limits : ControlIpcLimits} {buf : HeaderBuf}
    {stream : List UInt8} (h : (readFramePrefixBuffered limits buf stream).result = .ok none) :
    (readFramePrefixBuffered limits buf stream).rest = [] := by
  simp only [readFramePrefixBuffered] at h ⊢
  split at h
  · rfl
  · split at h
    · exact nomatch h
    · split at h
      · exact nomatch h
      · split at h
        · exact nomatch h
        · exact nomatch h

theorem readBinaryFrameBuffered_none {limits : ControlIpcLimits} {bufs : ReadBuffers}
    {stream : List UInt8} (h : (readBinaryFrameBuffered limits bufs stream).result = .ok none) :
    (readBinaryFrameBuffered limits bufs stream).rest = [] := by
  simp only [readBinaryFrameBuffered] at h ⊢
  split at h
  · rfl
  · split at h
    · cases h
    · split at h
      · cases h
      · split at h
        · cases h
        · split at h
          · cases h
          · split at h
            · split at h
              · cases h
              · cases h
            · cases h

theorem readBinaryFrameBuffered_outcome (limits : ControlIpcLimits) (bufs : ReadBuffers)
    (stream : List UInt8) :
    (readBinaryFrameBuffered limits bufs stream).outcome
      = (readBinaryFrameInto limits stream).map fun
        | none => (none, [])
        | some (header, payload, rest) => (some (header, payload), rest) := by
  rw [← readBinaryFrameBuffered_refines limits bufs stream]
  have hend : (readBinaryFrameBuffered limits bufs stream).result = .ok none →
      (readBinaryFrameBuffered limits bufs stream).rest = [] := readBinaryFrameBuffered_none
  obtain ⟨o, ho⟩ : ∃ o, readBinaryFrameBuffered limits bufs stream = o := ⟨_, rfl⟩
  rw [ho] at hend ⊢
  rw [ReadOutcome.outcome, ReadOutcome.frame]
  rcases hres : o.result with e | _ | header
  · rfl
  · rw [hend hres]
    rfl
  · rfl

theorem readInTwo_eq (limits : ControlIpcLimits) (buf : HeaderBuf) (allocate : Bool)
    (stream : List UInt8) :
    (readInTwo limits buf allocate stream).1
      = (readBinaryFrameInto limits stream).map fun
        | none => (none, [])
        | some (header, payload, rest) =>
            (some (header, if allocate then some payload else none), rest) := by
  rw [readBinaryFrameInto, ← readFramePrefixBuffered_refines limits buf stream]
  have hend : (readFramePrefixBuffered limits buf stream).result = .ok none →
      (readFramePrefixBuffered limits buf stream).rest = [] := readFramePrefixBuffered_none
  rw [readInTwo]
  obtain ⟨o, ho⟩ : ∃ o, readFramePrefixBuffered limits buf stream = o := ⟨_, rfl⟩
  rw [ho] at hend ⊢
  rw [PrefixOutcome.found]
  rcases hres : o.result with e | _ | ⟨declared, header⟩
  · rfl
  · rw [hend hres]
    rfl
  · dsimp only
    rw [takePayload_eq]
    cases readPayloadOrDiscard declared header o.rest with
    | error e => rfl
    | ok p => rfl

/-- A read whose payload was kept or thrown away. -/
def FrameRead.keep (allocate : Bool) (read : FrameRead (List UInt8)) :
    FrameRead (Option (List UInt8)) :=
  (read.1.map fun frame => (frame.1, if allocate then some frame.2 else none), read.2)

/-- One flag, the same frame. -/
theorem readInTwo_eq_keep (limits : ControlIpcLimits) (bufs : ReadBuffers) (buf : HeaderBuf)
    (allocate : Bool) (stream : List UInt8) :
    (readInTwo limits buf allocate stream).1
      = (readBinaryFrameBuffered limits bufs stream).outcome.map (FrameRead.keep allocate) := by
  rw [readInTwo_eq, readBinaryFrameBuffered_outcome]
  match readBinaryFrameInto limits stream with
  | .error e => rfl
  | .ok none => rfl
  | .ok (some (header, payload, rest)) => rfl

/-- **THE READERS AGREE** on every stream, whatever their buffers held: with a
    payload that is allocated, the same header and payload, the same clean end or
    the same error, and the same bytes left unread; with one that is thrown away,
    in however many chunks, all the same but for the payload. -/
theorem readers_agree (limits : ControlIpcLimits) (bufs : ReadBuffers) (buf : HeaderBuf)
    (stream : List UInt8) :
    (readInTwo limits buf true stream).1
        = (readBinaryFrameBuffered limits bufs stream).outcome.map (FrameRead.keep true) ∧
      (readInTwo limits buf false stream).1
        = (readBinaryFrameBuffered limits bufs stream).outcome.map (FrameRead.keep false) :=
  ⟨readInTwo_eq_keep limits bufs buf true stream, readInTwo_eq_keep limits bufs buf false stream⟩

/-! ## A connection -/

/-- The headers of the frames the server reads one after the other, with what
    it decides about their payloads, and the bytes left unread. -/
def framesInTwo (limits : ControlIpcLimits) :
    HeaderBuf → List Bool → List UInt8 → Except IpcError (List FrameHeader × List UInt8)
  | _, [], stream => .ok ([], stream)
  | buf, allocate :: flags, stream =>
      match readInTwo limits buf allocate stream with
      | (.error e, _) => .error e
      | (.ok (none, rest), _) => .ok ([], rest)
      | (.ok (some (header, _), rest), buf) =>
          (framesInTwo limits buf flags rest).map fun p => (header :: p.1, p.2)

/-- The same with `n` calls of `read_binary_frame_into`. -/
def framesWhole (limits : ControlIpcLimits) :
    ReadBuffers → Nat → List UInt8 → Except IpcError (List FrameHeader × List UInt8)
  | _, 0, stream => .ok ([], stream)
  | bufs, n + 1, stream =>
      match (readBinaryFrameBuffered limits bufs stream).outcome with
      | .error e => .error e
      | .ok (none, rest) => .ok ([], rest)
      | .ok (some (header, _), rest) =>
          (framesWhole limits (readBinaryFrameBuffered limits bufs stream).buffers n rest).map
            fun p => (header :: p.1, p.2)

/-- **A CONNECTION STAYS ALIGNED**, whichever payloads the server throws away. -/
theorem connections_agree (limits : ControlIpcLimits) (bufs : ReadBuffers) (buf : HeaderBuf)
    (flags : List Bool) (stream : List UInt8) :
    framesInTwo limits buf flags stream = framesWhole limits bufs flags.length stream := by
  induction flags generalizing bufs buf stream with
  | nil => rfl
  | cons allocate flags ih =>
      have hread := readInTwo_eq_keep limits bufs buf allocate stream
      obtain ⟨outcome, buf', hout⟩ : ∃ outcome buf',
          readInTwo limits buf allocate stream = (outcome, buf') := ⟨_, _, rfl⟩
      rw [hout] at hread
      rw [framesInTwo, List.length_cons, framesWhole, hout]
      match (readBinaryFrameBuffered limits bufs stream).outcome, hread with
      | .error e, hread =>
          rw [show outcome = .error e from hread]
      | .ok (none, rest), hread =>
          rw [show outcome = .ok (none, rest) from hread]
      | .ok (some (header, payload), rest), hread =>
          rw [show outcome = .ok (FrameRead.keep allocate (some (header, payload), rest)) from hread]
          dsimp only [FrameRead.keep, Option.map_some]
          rw [ih]

end ServiceFrame
