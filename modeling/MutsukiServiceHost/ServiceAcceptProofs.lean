import MutsukiServiceHost.ServiceStreamProofs

/-! # Which streams end cleanly

    A reader calls `read_binary_frame_into` until it returns `None` or fails.
    What a whole frame is can be said on its bytes alone (`WellFormedFrame`), so
    the streams that end cleanly form a language.

    * `readBinaryFrameInto_frame_iff` — one call takes exactly one well-formed
      frame off the stream.
    * `endsClean_iff` — the reader ends cleanly on whole frames followed by less
      than a length prefix: `read_exact` reports an end of the stream after one
      to three bytes like one after none, and the code returns `None` for both.
    * `clean_end_iff` — so the clean end means whole frames exactly on the
      streams that do not break off inside a length prefix. -/

namespace ServiceFrame

open ServiceControl

/-! ## Well-formed frames -/

/-- Bytes that are one whole frame under `limits`. -/
structure WellFormedFrame (limits : ControlIpcLimits) (frame : List UInt8) : Prop where
  magic : fromBeBytes (slice frame 4 8) = controlWireMagic
  major : fromBeBytes (slice frame 8 10) = controlWireMajor
  flags : ∃ flags, FrameFlags.fromBits (UInt16.ofNat (fromBeBytes (slice frame 14 16))) = .ok flags
  requestId : fromBeBytes (slice frame 16 24) ≠ 0
  declared : fromBeBytes (slice frame 0 4) = binaryHeaderLen + fromBeBytes (slice frame 24 28)
  frameLimit : fromBeBytes (slice frame 0 4) ≤ limits.maxFrameBytes
  payloadLimit : fromBeBytes (slice frame 24 28) ≤ limits.maxPayloadBytes
  present : frame.length = binaryLengthPrefixLen + fromBeBytes (slice frame 0 4)

/-- Zero or more well-formed frames one after the other. -/
def WholeFrames (limits : ControlIpcLimits) (stream : List UInt8) : Prop :=
  ∃ frames : List (List UInt8),
    (∀ frame ∈ frames, WellFormedFrame limits frame) ∧ stream = frames.flatten

theorem WellFormedFrame.length_ge {limits : ControlIpcLimits} {frame : List UInt8}
    (h : WellFormedFrame limits frame) :
    binaryLengthPrefixLen + binaryHeaderLen ≤ frame.length := by
  rw [h.present, h.declared]
  omega

/-- Header fields are offset by the length prefix. -/
theorem slice_header (stream : List UInt8) {start stop : Nat} (hstop : stop ≤ binaryHeaderLen) :
    slice (slice stream 4 28) start stop = slice stream (start + 4) (stop + 4) := by
  simp only [slice, List.drop_take, List.drop_drop, List.take_take]
  have hle : stop ≤ 24 := hstop
  congr 1
  · omega
  · rw [Nat.add_comm]

/-- Fields of a frame are fields of any stream that begins with it. -/
theorem slice_append {frame : List UInt8} {start stop : Nat} (h : stop ≤ frame.length)
    (rest : List UInt8) : slice (frame ++ rest) start stop = slice frame start stop := by
  simp only [slice, List.drop_append, List.take_append]
  have hnone : stop - start - (frame.drop start).length = 0 := by
    rw [List.length_drop]
    omega
  rw [hnone, List.take_zero, List.append_nil]

/-- What `decode_frame_header` accepts. -/
structure HeaderFields (limits : ControlIpcLimits) (body : List UInt8) (header : FrameHeader) :
    Prop where
  magic : fromBeBytes (slice body 0 4) = controlWireMagic
  major : fromBeBytes (slice body 4 6) = controlWireMajor
  opcode : header.opcode = UInt16.ofNat (fromBeBytes (slice body 8 10))
  flags : FrameFlags.fromBits (UInt16.ofNat (fromBeBytes (slice body 10 12))) = .ok header.flags
  requestId : header.requestId = fromBeBytes (slice body 12 20)
  requestId_ne : header.requestId ≠ 0
  payloadLen : header.payloadLen = fromBeBytes (slice body 20 24)
  payloadLimit : header.payloadLen ≤ limits.maxPayloadBytes

theorem decodeFrameHeader_iff {limits : ControlIpcLimits} {body : List UInt8}
    {header : FrameHeader} (hlen : body.length = binaryHeaderLen) :
    decodeFrameHeader body limits = .ok header ↔ HeaderFields limits body header := by
  constructor
  · intro h
    obtain ⟨hop, -, hid, hpl⟩ := decodeFrameHeader_ok h
    simp only [decodeFrameHeader] at h
    rw [if_neg (by omega)] at h
    split at h
    · cases h
    · rename_i hmagic
      split at h
      · cases h
      · rename_i hmajor
        split at h
        · cases h
        · rename_i flags hflags
          split at h
          · cases h
          · rename_i hid₀
            split at h
            · cases h
            · rename_i hmax
              cases h
              exact ⟨not_not.mp hmagic, not_not.mp hmajor, hop, hflags, hid, hid₀, hpl,
                Nat.not_lt.mp hmax⟩
  · intro h
    obtain ⟨opcode, flags, requestId, payloadLen⟩ := header
    obtain ⟨hmagic, hmajor, hop, hflags, hid, hid₀, hpl, hmax⟩ := h
    simp only [decodeFrameHeader] at *
    rw [if_neg (by omega), if_neg (not_not.mpr hmagic), if_neg (not_not.mpr hmajor), hflags]
    simp only
    rw [if_neg (hid ▸ hid₀), if_neg (Nat.not_lt.mpr (hpl ▸ hmax)), hop, hid, hpl]

theorem validateFrameLength_iff {n : Nat} {limits : ControlIpcLimits} :
    validateFrameLength n limits = .ok () ↔ binaryHeaderLen ≤ n ∧ n ≤ limits.maxFrameBytes := by
  have hpos : 0 < binaryHeaderLen := by decide
  simp only [validateFrameLength]
  split
  · rename_i h
    constructor
    · intro h'
      cases h'
    · omega
  · split
    · constructor
      · intro h'
        cases h'
      · omega
    · constructor
      · intro _
        omega
      · intro _
        rfl

/-! ## One call -/

/-- A frame as a call reads it: the length prefix, the header, the payload. -/
structure FrameParts (limits : ControlIpcLimits) (header : FrameHeader)
    (pre head payload : List UInt8) : Prop where
  pre_length : pre.length = binaryLengthPrefixLen
  valid : validateFrameLength (fromBeBytes pre) limits = .ok ()
  head_length : head.length = binaryHeaderLen
  decoded : decodeFrameHeader head limits = .ok header
  declared : fromBeBytes pre = binaryHeaderLen + header.payloadLen
  payload_length : payload.length = header.payloadLen

theorem readBinaryFrameInto_parts {limits : ControlIpcLimits} {stream payload rest : List UInt8}
    {header : FrameHeader}
    (h : readBinaryFrameInto limits stream = .ok (some (header, payload, rest))) :
    ∃ pre head, FrameParts limits header pre head payload ∧
      stream = pre ++ head ++ payload ++ rest := by
  simp only [readBinaryFrameInto, readFramePrefix, readPayloadOrDiscard] at h
  cases hread₁ : readExact binaryLengthPrefixLen stream with
  | none => simp only [hread₁] at h; cases h
  | some p₁ =>
      obtain ⟨pre, rest₁⟩ := p₁
      simp only [hread₁] at h
      obtain ⟨hlen₁, hstream₁⟩ := readExact_some hread₁
      cases hvalid : validateFrameLength (fromBeBytes pre) limits with
      | error e => simp only [hvalid] at h; cases h
      | ok =>
          simp only [hvalid] at h
          cases hread₂ : readExact binaryHeaderLen rest₁ with
          | none => simp only [hread₂] at h; cases h
          | some p₂ =>
              obtain ⟨head, rest₂⟩ := p₂
              simp only [hread₂] at h
              obtain ⟨hlen₂, hstream₂⟩ := readExact_some hread₂
              cases hdec : decodeFrameHeader head limits with
              | error e => simp only [hdec] at h; cases h
              | ok header' =>
                  simp only [hdec] at h
                  by_cases hdecl : fromBeBytes pre = binaryHeaderLen + header'.payloadLen
                  · rw [if_neg (not_not.mpr hdecl)] at h
                    cases hread₃ : readExact header'.payloadLen rest₂ with
                    | none => simp only [hread₃] at h; cases h
                    | some p₃ =>
                        obtain ⟨payload', rest₃⟩ := p₃
                        simp only [hread₃] at h
                        cases h
                        obtain ⟨hlen₃, hstream₃⟩ := readExact_some hread₃
                        refine ⟨pre, head, ⟨hlen₁, hvalid, hlen₂, hdec, hdecl, hlen₃⟩, ?_⟩
                        rw [hstream₁, hstream₂, hstream₃]
                        simp only [List.append_assoc]
                  · rw [if_pos hdecl] at h
                    cases h

theorem FrameParts.read {limits : ControlIpcLimits} {header : FrameHeader}
    {pre head payload : List UInt8} (h : FrameParts limits header pre head payload)
    (rest : List UInt8) :
    readBinaryFrameInto limits (pre ++ head ++ payload ++ rest)
      = .ok (some (header, payload, rest)) := by
  have hread₁ : readExact binaryLengthPrefixLen (pre ++ (head ++ (payload ++ rest)))
      = some (pre, head ++ (payload ++ rest)) := h.pre_length ▸ readExact_append pre _
  have hread₂ : readExact binaryHeaderLen (head ++ (payload ++ rest))
      = some (head, payload ++ rest) := h.head_length ▸ readExact_append head _
  have hread₃ : readExact header.payloadLen (payload ++ rest) = some (payload, rest) :=
    h.payload_length ▸ readExact_append payload rest
  simp only [List.append_assoc, readBinaryFrameInto, readFramePrefix, hread₁, h.valid, hread₂,
    h.decoded, readPayloadOrDiscard, hread₃]
  rw [if_neg (not_not.mpr h.declared)]

/-- The parts of a frame, joined. -/
theorem FrameParts.wellFormed {limits : ControlIpcLimits} {header : FrameHeader}
    {pre head payload : List UInt8} (h : FrameParts limits header pre head payload) :
    WellFormedFrame limits (pre ++ head ++ payload) := by
  have hpre : slice (pre ++ head ++ payload) 0 4 = pre := by
    rw [List.append_assoc, slice_append (by rw [h.pre_length]; decide)]
    exact List.take_of_length_le (Nat.le_of_eq h.pre_length)
  have hhead : slice (pre ++ head ++ payload) 4 28 = head := by
    rw [slice_append (by rw [List.length_append, h.pre_length, h.head_length]; decide), slice,
      show 4 = pre.length from h.pre_length.symm, List.drop_left]
    exact List.take_of_length_le (by rw [h.head_length, h.pre_length]; decide)
  have hfield : ∀ start stop : Nat, stop ≤ binaryHeaderLen →
      slice (pre ++ head ++ payload) (start + 4) (stop + 4) = slice head start stop := by
    intro start stop hstop
    rw [← slice_header _ hstop, hhead]
  have hvalid := validateFrameLength_iff.mp h.valid
  have hfields := (decodeFrameHeader_iff h.head_length).mp h.decoded
  have hlen : fromBeBytes (slice head 20 24) = header.payloadLen := hfields.payloadLen.symm
  exact
    { magic := (congrArg fromBeBytes (hfield 0 4 (by decide))).trans hfields.magic
      major := (congrArg fromBeBytes (hfield 4 6 (by decide))).trans hfields.major
      flags := ⟨header.flags, by rw [hfield 10 12 (by decide), hfields.flags]⟩
      requestId := by
        rw [hfield 12 20 (by decide), ← hfields.requestId]
        exact hfields.requestId_ne
      declared := by
        rw [hpre, hfield 20 24 (by decide), hlen, h.declared]
      frameLimit := by rw [hpre]; exact hvalid.2
      payloadLimit := by
        rw [hfield 20 24 (by decide), hlen]
        exact hfields.payloadLimit
      present := by
        rw [hpre, h.declared, List.length_append, List.length_append, h.pre_length, h.head_length,
          h.payload_length, Nat.add_assoc] }

/-- The header a well-formed frame stands for. -/
def headerOf (frame : List UInt8) : FrameHeader where
  opcode := UInt16.ofNat (fromBeBytes (slice frame 12 14))
  flags := ⟨UInt16.ofNat (fromBeBytes (slice frame 14 16))⟩
  requestId := fromBeBytes (slice frame 16 24)
  payloadLen := fromBeBytes (slice frame 24 28)

theorem WellFormedFrame.parts {limits : ControlIpcLimits} {frame : List UInt8}
    (h : WellFormedFrame limits frame) :
    FrameParts limits (headerOf frame) (slice frame 0 4) (slice frame 4 28) (frame.drop 28) ∧
      frame = slice frame 0 4 ++ slice frame 4 28 ++ frame.drop 28 := by
  have hlen := h.length_ge
  have hge : 28 ≤ frame.length := hlen
  have hpresent := h.present
  rw [h.declared] at hpresent
  have hhead : (slice frame 4 28).length = binaryHeaderLen := by
    rw [slice, List.length_take, List.length_drop]
    show min 24 (frame.length - 4) = 24
    omega
  obtain ⟨flags, hflags⟩ := h.flags
  have hfields : HeaderFields limits (slice frame 4 28) (headerOf frame) :=
    { magic := (congrArg fromBeBytes (slice_header frame (by decide))).trans h.magic
      major := (congrArg fromBeBytes (slice_header frame (by decide))).trans h.major
      opcode := by rw [slice_header frame (by decide)]; rfl
      flags := by rw [slice_header frame (by decide), hflags, fromBits_eq hflags]; rfl
      requestId := by rw [slice_header frame (by decide)]; rfl
      requestId_ne := h.requestId
      payloadLen := by rw [slice_header frame (by decide)]; rfl
      payloadLimit := h.payloadLimit }
  refine ⟨⟨?_, ?_, hhead, (decodeFrameHeader_iff hhead).mpr hfields, h.declared, ?_⟩, ?_⟩
  · rw [slice, List.length_take, List.length_drop]
    show min 4 (frame.length - 0) = 4
    omega
  · exact validateFrameLength_iff.mpr ⟨by rw [h.declared]; omega, h.frameLimit⟩
  · rw [List.length_drop, hpresent]
    show 4 + (24 + (headerOf frame).payloadLen) - 28 = (headerOf frame).payloadLen
    omega
  · have htake : slice frame 4 28 ++ frame.drop 28 = frame.drop 4 := by
      have hdrop : frame.drop 28 = (frame.drop 4).drop 24 := by rw [List.drop_drop]
      rw [hdrop]
      exact List.take_append_drop 24 (frame.drop 4)
    rw [List.append_assoc, htake]
    exact (List.take_append_drop 4 frame).symm

/-- **A CALL TAKES ONE WHOLE FRAME** off the stream, and takes every whole frame
    it meets. -/
theorem readBinaryFrameInto_frame_iff {limits : ControlIpcLimits} {stream rest : List UInt8} :
    (∃ header payload, readBinaryFrameInto limits stream = .ok (some (header, payload, rest))) ↔
      ∃ frame, WellFormedFrame limits frame ∧ stream = frame ++ rest := by
  constructor
  · rintro ⟨header, payload, h⟩
    obtain ⟨pre, head, hparts, hstream⟩ := readBinaryFrameInto_parts h
    exact ⟨_, hparts.wellFormed, hstream⟩
  · rintro ⟨frame, hwf, rfl⟩
    obtain ⟨hparts, hframe⟩ := hwf.parts
    refine ⟨headerOf frame, frame.drop 28, ?_⟩
    have hread := hparts.read rest
    rw [← hframe] at hread
    exact hread

/-- The clean end is less than a length prefix. -/
theorem readBinaryFrameInto_none_iff {limits : ControlIpcLimits} {stream : List UInt8} :
    readBinaryFrameInto limits stream = .ok none ↔ stream.length < binaryLengthPrefixLen := by
  constructor
  · intro h
    simp only [readBinaryFrameInto, readFramePrefix] at h
    cases hread : readExact binaryLengthPrefixLen stream with
    | none =>
        simp only [readExact] at hread
        split at hread
        · assumption
        · cases hread
    | some p =>
        -- behind the prefix every way out is a frame or an error
        simp only [hread, readPayloadOrDiscard] at h
        split at h
        · cases h
        · rename_i hpre
          split at hpre
          · cases hpre
          · split at hpre
            · cases hpre
            · split at hpre <;> cases hpre
        · split at h
          · cases h
          · cases h
  · intro h
    have hread : readExact binaryLengthPrefixLen stream = none := if_pos h
    simp only [readBinaryFrameInto, readFramePrefix, hread]

theorem ReadOutcome.frame_error {o : ReadOutcome} {e : IpcError} (h : o.frame = .error e) :
    o.result = .error e := by
  simp only [ReadOutcome.frame] at h
  split at h
  · rename_i e' hr
    cases h
    exact hr
  · cases h
  · cases h

theorem ReadOutcome.frame_none {o : ReadOutcome} (h : o.frame = .ok none) :
    o.result = .ok none := by
  simp only [ReadOutcome.frame] at h
  split at h
  · cases h
  · assumption
  · cases h

/-! ## Reading to the end -/

/-- Calls on the same buffers until one returns `None` or fails: how the reading
    ends, if `fuel` calls are enough. -/
def readAll (limits : ControlIpcLimits) :
    Nat → ReadBuffers → List UInt8 → Option (Except IpcError Unit)
  | 0, _, _ => none
  | fuel + 1, bufs, stream =>
      let o := readBinaryFrameBuffered limits bufs stream
      match o.result with
      | .error e => some (.error e)
      | .ok none => some (.ok ())
      | .ok (some _) => readAll limits fuel o.buffers o.rest

/-- The reading ends with `None`. -/
def EndsClean (limits : ControlIpcLimits) (bufs : ReadBuffers) (stream : List UInt8) : Prop :=
  ∃ fuel, readAll limits fuel bufs stream = some (.ok ())

/-- The reading ends with an error. -/
def EndsInError (limits : ControlIpcLimits) (bufs : ReadBuffers) (stream : List UInt8) : Prop :=
  ∃ fuel e, readAll limits fuel bufs stream = some (.error e)

theorem readAll_error {limits : ControlIpcLimits} {stream : List UInt8} {e : IpcError}
    (h : readBinaryFrameInto limits stream = .error e) (fuel : Nat) (bufs : ReadBuffers) :
    readAll limits (fuel + 1) bufs stream = some (.error e) := by
  have hcall := (readBinaryFrameBuffered_refines limits bufs stream).trans h
  rw [readAll, ReadOutcome.frame_error hcall]

theorem readAll_short {stream : List UInt8} (h : stream.length < binaryLengthPrefixLen)
    (limits : ControlIpcLimits) (fuel : Nat) (bufs : ReadBuffers) :
    readAll limits (fuel + 1) bufs stream = some (.ok ()) := by
  have hcall := (readBinaryFrameBuffered_refines limits bufs stream).trans
    (readBinaryFrameInto_none_iff.mpr h)
  rw [readAll, ReadOutcome.frame_none hcall]

theorem readAll_frame {limits : ControlIpcLimits} {frame : List UInt8}
    (hwf : WellFormedFrame limits frame) (bufs : ReadBuffers) (rest : List UInt8) :
    ∃ bufs', ∀ fuel, readAll limits (fuel + 1) bufs (frame ++ rest)
      = readAll limits fuel bufs' rest := by
  obtain ⟨header, payload, hread⟩ := readBinaryFrameInto_frame_iff.mpr ⟨frame, hwf, rfl⟩
  obtain ⟨hres, -, hrest⟩ := ReadOutcome.frame_some
    ((readBinaryFrameBuffered_refines limits bufs (frame ++ rest)).trans hread)
  refine ⟨(readBinaryFrameBuffered limits bufs (frame ++ rest)).buffers, ?_⟩
  intro fuel
  rw [readAll, hres, hrest]

/-- The ways a round of the reading goes. -/
theorem readBinaryFrameInto_cases (limits : ControlIpcLimits) (stream : List UInt8) :
    (∃ e, readBinaryFrameInto limits stream = .error e) ∨
    stream.length < binaryLengthPrefixLen ∨
    ∃ frame rest, WellFormedFrame limits frame ∧ stream = frame ++ rest := by
  cases hread : readBinaryFrameInto limits stream with
  | error e => exact .inl ⟨e, rfl⟩
  | ok read =>
      cases read with
      | none => exact .inr (.inl (readBinaryFrameInto_none_iff.mp hread))
      | some p =>
          obtain ⟨header, payload, rest⟩ := p
          obtain ⟨frame, hwf, hstream⟩ :=
            readBinaryFrameInto_frame_iff.mp ⟨header, payload, hread⟩
          exact .inr (.inr ⟨frame, rest, hwf, hstream⟩)

/-- A round takes bytes off the stream, so the reading comes to an end. -/
theorem readAll_ends (limits : ControlIpcLimits) {fuel : Nat} {stream : List UInt8}
    (h : stream.length < fuel) (bufs : ReadBuffers) :
    ∃ result, readAll limits fuel bufs stream = some result := by
  induction fuel generalizing stream bufs with
  | zero => omega
  | succ fuel ih =>
      obtain ⟨e, he⟩ | hshort | ⟨frame, rest, hwf, rfl⟩ :=
        readBinaryFrameInto_cases limits stream
      · exact ⟨_, readAll_error he fuel bufs⟩
      · exact ⟨_, readAll_short hshort limits fuel bufs⟩
      · obtain ⟨bufs', hround⟩ := readAll_frame hwf bufs rest
        rw [hround fuel]
        have hge := hwf.length_ge
        have hpos : 0 < binaryLengthPrefixLen := by decide
        rw [List.length_append] at h
        exact ih (by omega) bufs'

theorem WholeFrames.cons {limits : ControlIpcLimits} {frame stream : List UInt8}
    (hwf : WellFormedFrame limits frame) (h : WholeFrames limits stream) :
    WholeFrames limits (frame ++ stream) := by
  obtain ⟨frames, hall, rfl⟩ := h
  exact ⟨frame :: frames, List.forall_mem_cons.mpr ⟨hwf, hall⟩, rfl⟩

/-- **THE LANGUAGE OF THE READER**: the reading ends cleanly exactly on whole
    frames with less than a length prefix behind them. -/
theorem endsClean_iff {limits : ControlIpcLimits} {bufs : ReadBuffers} {stream : List UInt8} :
    EndsClean limits bufs stream ↔ ∃ whole tail, WholeFrames limits whole ∧
      stream = whole ++ tail ∧ tail.length < binaryLengthPrefixLen := by
  constructor
  · rintro ⟨fuel, h⟩
    induction fuel generalizing bufs stream with
    | zero => exact nomatch h
    | succ fuel ih =>
        obtain ⟨e, he⟩ | hshort | ⟨frame, rest, hwf, rfl⟩ :=
          readBinaryFrameInto_cases limits stream
        · rw [readAll_error he] at h
          exact nomatch h
        · exact ⟨[], stream, ⟨[], nofun, rfl⟩, rfl, hshort⟩
        · obtain ⟨bufs', hround⟩ := readAll_frame hwf bufs rest
          rw [hround fuel] at h
          obtain ⟨whole, tail, hwhole, rfl, hshort⟩ := ih h
          exact ⟨frame ++ whole, tail, hwhole.cons hwf, (List.append_assoc ..).symm, hshort⟩
  · rintro ⟨whole, tail, ⟨frames, hall, rfl⟩, rfl, hshort⟩
    induction frames generalizing bufs with
    | nil => exact ⟨1, readAll_short hshort limits 0 bufs⟩
    | cons frame frames ih =>
        obtain ⟨hwf, hall⟩ := List.forall_mem_cons.mp hall
        obtain ⟨bufs', hround⟩ := readAll_frame hwf bufs (frames.flatten ++ tail)
        obtain ⟨fuel, hfuel⟩ : EndsClean limits bufs' (frames.flatten ++ tail) := ih hall
        refine ⟨fuel + 1, ?_⟩
        rw [List.flatten_cons, List.append_assoc, hround fuel]
        exact hfuel

/-- No whole frame is the beginning of another: what follows it is determined. -/
theorem WellFormedFrame.rest_unique {limits : ControlIpcLimits}
    {frame frame' rest rest' : List UInt8}
    (h : WellFormedFrame limits frame) (h' : WellFormedFrame limits frame')
    (heq : frame ++ rest = frame' ++ rest') : rest = rest' := by
  have hread : ∃ header payload,
      readBinaryFrameInto limits (frame ++ rest) = .ok (some (header, payload, rest)) :=
    readBinaryFrameInto_frame_iff.mpr ⟨frame, h, rfl⟩
  have hread' : ∃ header payload,
      readBinaryFrameInto limits (frame ++ rest) = .ok (some (header, payload, rest')) :=
    readBinaryFrameInto_frame_iff.mpr ⟨frame', h', heq⟩
  obtain ⟨header, payload, hread⟩ := hread
  obtain ⟨header', payload', hread'⟩ := hread'
  rw [hread] at hread'
  cases hread'
  rfl

theorem WellFormedFrame.not_short {limits : ControlIpcLimits} {frame : List UInt8}
    (h : WellFormedFrame limits frame) (rest : List UInt8) :
    ¬ (frame ++ rest).length < binaryLengthPrefixLen := by
  have hge := h.length_ge
  rw [List.length_append]
  omega

/-- What is left behind the whole frames of a stream is determined by it. -/
theorem wholeFrames_tail_unique {limits : ControlIpcLimits} {whole whole' tail tail' : List UInt8}
    (h : WholeFrames limits whole) (h' : WholeFrames limits whole')
    (hshort : tail.length < binaryLengthPrefixLen)
    (hshort' : tail'.length < binaryLengthPrefixLen) (heq : whole ++ tail = whole' ++ tail') :
    tail = tail' := by
  obtain ⟨frames, hall, rfl⟩ := h
  obtain ⟨frames', hall', rfl⟩ := h'
  induction frames generalizing frames' with
  | nil =>
      cases frames' with
      | nil => exact heq
      | cons frame' frames' =>
          rw [List.flatten_nil, List.nil_append, List.flatten_cons, List.append_assoc] at heq
          rw [heq] at hshort
          exact absurd hshort ((List.forall_mem_cons.mp hall').1.not_short _)
  | cons frame frames ih =>
      obtain ⟨hwf, hall⟩ := List.forall_mem_cons.mp hall
      rw [List.flatten_cons, List.append_assoc] at heq
      cases frames' with
      | nil =>
          rw [List.flatten_nil, List.nil_append] at heq
          rw [← heq] at hshort'
          exact absurd hshort' (hwf.not_short _)
      | cons frame' frames' =>
          obtain ⟨hwf', hall'⟩ := List.forall_mem_cons.mp hall'
          rw [List.flatten_cons, List.append_assoc] at heq
          exact ih hall frames' hall' (hwf.rest_unique hwf' heq)

/-- The stream breaks off inside a length prefix, one to three bytes behind its
    last whole frame. -/
def TornPrefix (limits : ControlIpcLimits) (stream : List UInt8) : Prop :=
  ∃ whole tail, WholeFrames limits whole ∧ stream = whole ++ tail ∧
    0 < tail.length ∧ tail.length < binaryLengthPrefixLen

theorem WholeFrames.not_torn {limits : ControlIpcLimits} {stream : List UInt8}
    (h : WholeFrames limits stream) : ¬ TornPrefix limits stream := by
  rintro ⟨whole, tail, hwhole, heq, hpos, hshort⟩
  rw [← List.append_nil stream] at heq
  have htail : [] = tail := wholeFrames_tail_unique h hwhole (by decide) hshort heq
  rw [← htail] at hpos
  exact absurd hpos (Nat.lt_irrefl 0)

/-- **A CLEAN END MEANS WHOLE FRAMES**, and every other end is an error, exactly
    when the stream does not break off inside a length prefix. -/
theorem clean_end_iff (limits : ControlIpcLimits) (bufs : ReadBuffers) (stream : List UInt8) :
    ((EndsClean limits bufs stream ↔ WholeFrames limits stream) ∧
      (¬ WholeFrames limits stream → EndsInError limits bufs stream)) ↔
      ¬ TornPrefix limits stream := by
  constructor
  · rintro ⟨hclean, -⟩ ⟨whole, tail, hwhole, hstream, hpos, hshort⟩
    have hends : EndsClean limits bufs stream :=
      endsClean_iff.mpr ⟨whole, tail, hwhole, hstream, hshort⟩
    exact (hclean.mp hends).not_torn ⟨whole, tail, hwhole, hstream, hpos, hshort⟩
  · intro htorn
    have hwhole : EndsClean limits bufs stream → WholeFrames limits stream := by
      intro h
      obtain ⟨whole, tail, hwhole, hstream, hshort⟩ := endsClean_iff.mp h
      cases tail with
      | nil => rwa [hstream, List.append_nil]
      | cons b tail =>
          exact absurd ⟨whole, b :: tail, hwhole, hstream, Nat.succ_pos _, hshort⟩ htorn
    refine ⟨⟨hwhole, ?_⟩, ?_⟩
    · intro h
      exact endsClean_iff.mpr ⟨stream, [], h, (List.append_nil stream).symm, by decide⟩
    · intro hnot
      obtain ⟨result, hresult⟩ := readAll_ends limits (Nat.lt_succ_self stream.length) bufs
      cases result with
      | error e => exact ⟨_, e, hresult⟩
      | ok => exact absurd (hwhole ⟨_, hresult⟩) hnot

/-- A whole frame and the first two bytes of the next one. -/
def tornStream : List UInt8 := frameBytes 0x13 .request 7 [1, 2, 3] ++ [0, 0]

/-- The reading of a stream that breaks off in a length prefix ends cleanly. -/
theorem torn_prefix_reads_clean :
    EndsClean sampleLimits usedBuffers tornStream ∧ ¬ WholeFrames sampleLimits tornStream := by
  have hframe : WellFormedFrame sampleLimits (frameBytes 0x13 .request 7 [1, 2, 3]) :=
    ⟨by decide, by decide, ⟨.request, rfl⟩, by decide, by decide, by decide, by decide, by decide⟩
  refine ⟨⟨2, rfl⟩, fun h => h.not_torn ⟨_, [0, 0], ?_, rfl, by decide, by decide⟩⟩
  exact ⟨[frameBytes 0x13 .request 7 [1, 2, 3]], List.forall_mem_singleton.mpr hframe, by simp⟩

end ServiceFrame
