import Mathlib.Tactic.Ring
import MutsukiServiceHost.ServiceFrameProofs

/-! # Reading frames

    The readers of the binary control wire: `decode_frame_header`,
    `read_frame_prefix`, `read_payload_or_discard` and
    `read_binary_frame_into`, over the bytes that are left in the stream.  A
    header read from an encoded frame is the header that was encoded. -/

namespace ServiceFrame

open ServiceControl

/-- `from_be_bytes`. -/
def fromBeBytes (bytes : List UInt8) : Nat := bytes.foldl (fun n b => n * 256 + b.toNat) 0

theorem fromBeBytes_concat (bytes : List UInt8) (b : UInt8) :
    fromBeBytes (bytes ++ [b]) = fromBeBytes bytes * 256 + b.toNat := by
  simp [fromBeBytes]

theorem toBeBytes_succ (width n : Nat) :
    toBeBytes (width + 1) n = toBeBytes width (n / 256) ++ [UInt8.ofNat n] := by
  simp only [toBeBytes]
  rw [List.range_succ, List.map_append]
  congr 1
  · apply List.map_congr_left
    intro k hk
    have hk' : k < width := List.mem_range.mp hk
    have hexp : width + 1 - 1 - k = (width - 1 - k) + 1 := by omega
    rw [hexp, Nat.div_div_eq_div_mul, Nat.pow_succ, Nat.mul_comm]
  · simp

/-- Reading back an integer gives its value at that width. -/
theorem fromBeBytes_toBeBytes (width n : Nat) :
    fromBeBytes (toBeBytes width n) = n % 256 ^ width := by
  induction width generalizing n with
  | zero => simp [toBeBytes, fromBeBytes, Nat.mod_one]
  | succ width ih =>
      rw [toBeBytes_succ, fromBeBytes_concat, ih, Nat.pow_succ, Nat.mul_comm (256 ^ width) 256,
        Nat.mod_mul]
      have hb : (UInt8.ofNat n).toNat = n % 256 := by simp
      rw [hb]
      ring

/-- Bytes `start .. stop` of a slice. -/
def slice (bytes : List UInt8) (start stop : Nat) : List UInt8 :=
  (bytes.drop start).take (stop - start)

/-- `decode_frame_header`. -/
def decodeFrameHeader (body : List UInt8) (limits : ControlIpcLimits) :
    Except IpcError FrameHeader :=
  if body.length < binaryHeaderLen then .error (.truncated binaryHeaderLen body.length)
  else
    let magic := fromBeBytes (slice body 0 4)
    if magic ≠ controlWireMagic then .error (.invalidMagic magic)
    else
      let major := fromBeBytes (slice body 4 6)
      if major ≠ controlWireMajor then
        .error (.protocol ("unsupported control wire major " ++ toString major))
      else
        let opcode := UInt16.ofNat (fromBeBytes (slice body 8 10))
        match FrameFlags.fromBits (UInt16.ofNat (fromBeBytes (slice body 10 12))) with
        | .error e => .error e
        | .ok flags =>
            let requestId := fromBeBytes (slice body 12 20)
            if requestId = 0 then .error .invalidRequestId
            else
              let payloadLen := fromBeBytes (slice body 20 24)
              if limits.maxPayloadBytes < payloadLen then
                .error (.payloadOversized payloadLen limits.maxPayloadBytes)
              else .ok ⟨opcode, flags, requestId, payloadLen⟩

/-- `read_exact` on the bytes left in a stream that ends after them. -/
def readExact (n : Nat) (stream : List UInt8) : Option (List UInt8 × List UInt8) :=
  if stream.length < n then none else some (stream.take n, stream.drop n)

/-- The error of a `read_exact` that meets the end of the stream. -/
def earlyEof : IpcError := .io "early eof"

/-- `read_frame_prefix`; `none` is the clean end of the stream. -/
def readFramePrefix (limits : ControlIpcLimits) (stream : List UInt8) :
    Except IpcError (Option (Nat × FrameHeader × List UInt8)) :=
  match readExact binaryLengthPrefixLen stream with
  | none => .ok none
  | some (lengthBytes, stream) =>
      let declared := fromBeBytes lengthBytes
      match validateFrameLength declared limits with
      | .error e => .error e
      | .ok () =>
          match readExact binaryHeaderLen stream with
          | none => .error earlyEof
          | some (head, stream) =>
              match decodeFrameHeader head limits with
              | .error e => .error e
              | .ok header => .ok (some (declared, header, stream))

/-- `read_payload_or_discard`: the payload bytes, kept or thrown away. -/
def readPayloadOrDiscard (declared : Nat) (header : FrameHeader) (stream : List UInt8) :
    Except IpcError (List UInt8 × List UInt8) :=
  if declared ≠ binaryHeaderLen + header.payloadLen then
    .error (.truncated declared (binaryHeaderLen + header.payloadLen))
  else match readExact header.payloadLen stream with
    | none => .error earlyEof
    | some (payload, stream) => .ok (payload, stream)

/-- `read_binary_frame_into`. -/
def readBinaryFrameInto (limits : ControlIpcLimits) (stream : List UInt8) :
    Except IpcError (Option (FrameHeader × List UInt8 × List UInt8)) :=
  match readFramePrefix limits stream with
  | .error e => .error e
  | .ok none => .ok none
  | .ok (some (declared, header, stream)) =>
      match readPayloadOrDiscard declared header stream with
      | .error e => .error e
      | .ok (payload, stream) => .ok (some (header, payload, stream))

/-! ## A header read from a frame -/

theorem fromBits_eq {bits : UInt16} {flags : FrameFlags}
    (h : FrameFlags.fromBits bits = .ok flags) : flags = ⟨bits⟩ := by
  unfold FrameFlags.fromBits at h
  split at h
  · exact nomatch h
  · dsimp only at h
    split at h
    · split at h
      · exact nomatch h
      · exact (Except.ok.inj h).symm
    · split at h
      · exact nomatch h
      · split at h
        · exact nomatch h
        · exact (Except.ok.inj h).symm

/-- What `decode_frame_header` accepts are the fields of the body. -/
theorem decodeFrameHeader_ok {body : List UInt8} {limits : ControlIpcLimits}
    {header : FrameHeader} (h : decodeFrameHeader body limits = .ok header) :
    header.opcode = UInt16.ofNat (fromBeBytes (slice body 8 10)) ∧
      header.flags = ⟨UInt16.ofNat (fromBeBytes (slice body 10 12))⟩ ∧
      header.requestId = fromBeBytes (slice body 12 20) ∧
      header.payloadLen = fromBeBytes (slice body 20 24) := by
  unfold decodeFrameHeader at h
  split at h
  · exact nomatch h
  · dsimp only at h
    split at h
    · exact nomatch h
    · split at h
      · exact nomatch h
      · split at h
        · exact nomatch h
        · rename_i flags hflags
          split at h
          · exact nomatch h
          · split at h
            · exact nomatch h
            · cases h
              exact ⟨rfl, fromBits_eq hflags, rfl, rfl⟩

/-- The header bytes of a frame. -/
theorem frameBytes_fields (opcode : UInt16) (flags : FrameFlags) (requestId : Nat)
    (payload : List UInt8) :
    let body := (((frameBytes opcode flags requestId payload).drop 4).take 24)
    slice body 8 10 = toBeBytes 2 opcode.toNat ∧
      slice body 10 12 = toBeBytes 2 flags.bits.toNat ∧
      slice body 12 20 = toBeBytes 8 requestId ∧
      slice body 20 24 = toBeBytes 4 payload.length :=
  ⟨rfl, rfl, rfl, rfl⟩

theorem readFramePrefix_ok {limits : ControlIpcLimits} {stream rest : List UInt8}
    {declared : Nat} {header : FrameHeader}
    (h : readFramePrefix limits stream = .ok (some (declared, header, rest))) :
    decodeFrameHeader ((stream.drop 4).take 24) limits = .ok header ∧
      declared = fromBeBytes (stream.take 4) ∧ rest = stream.drop 28 := by
  unfold readFramePrefix readExact at h
  split at h
  · exact nomatch h
  · rename_i lengthBytes stream' hpre
    split at hpre
    · exact nomatch hpre
    · cases hpre
      dsimp only at h
      split at h
      · exact nomatch h
      · split at h
        · exact nomatch h
        · rename_i head rest' hhead
          split at hhead
          · exact nomatch hhead
          · cases hhead
            split at h
            · exact nomatch h
            · rename_i header' hdec
              cases h
              exact ⟨hdec, rfl, by rw [List.drop_drop]; rfl⟩

/-- **A HEADER READ FROM AN ENCODED FRAME** has the opcode, the flags and the
    request id that were encoded. -/
theorem readFramePrefix_encoded {opcode : UInt16} {flags : FrameFlags} {requestId : Nat}
    {payload bytes : List UInt8} {limits limits' : ControlIpcLimits}
    (he : encodeFrameInto opcode flags requestId payload limits = .ok bytes)
    {declared : Nat} {header : FrameHeader} {rest : List UInt8}
    (h : readFramePrefix limits' bytes = .ok (some (declared, header, rest))) :
    header.opcode = opcode ∧ header.flags = flags ∧ header.requestId = requestId % 2 ^ 64 ∧
      rest = payload := by
  obtain ⟨hdec, -, hrest⟩ := readFramePrefix_ok h
  obtain ⟨hop, hfl, hid, -⟩ := decodeFrameHeader_ok hdec
  rw [encodeFrameInto_eq he] at hop hfl hid hrest
  obtain ⟨f₁, f₂, f₃, -⟩ := frameBytes_fields opcode flags requestId payload
  rw [f₁, fromBeBytes_toBeBytes] at hop
  rw [f₂, fromBeBytes_toBeBytes] at hfl
  rw [f₃, fromBeBytes_toBeBytes] at hid
  refine ⟨?_, ?_, hid, hrest⟩
  · rw [hop]
    have := opcode.toNat_lt
    rw [Nat.mod_eq_of_lt (by simpa using this)]
    simp
  · rw [hfl]
    have := flags.bits.toNat_lt
    rw [Nat.mod_eq_of_lt (by simpa using this)]
    simp

theorem readBinaryFrameInto_ok {limits : ControlIpcLimits} {stream payload rest : List UInt8}
    {header : FrameHeader}
    (h : readBinaryFrameInto limits stream = .ok (some (header, payload, rest))) :
    ∃ declared rest', readFramePrefix limits stream = .ok (some (declared, header, rest')) := by
  simp only [readBinaryFrameInto] at h
  split at h
  · exact nomatch h
  · exact nomatch h
  · rename_i declared header' rest' hpre
    split at h
    · exact nomatch h
    · cases h
      exact ⟨declared, rest', hpre⟩

/-! ## Reading lines -/

/-- `Utf8Error`: where the valid part ends, and how many bytes are invalid
    there; `none` when the input ends inside a character. -/
structure Utf8Error where
  validUpTo : Nat
  errorLen : Option Nat
  deriving DecidableEq, Repr

/-- The `Display` text of a `Utf8Error`. -/
def Utf8Error.message (e : Utf8Error) : String :=
  match e.errorLen with
  | some n =>
      "invalid utf-8 sequence of " ++ toString n ++ " bytes from index " ++ toString e.validUpTo
  | none => "incomplete utf-8 byte sequence from index " ++ toString e.validUpTo

/-- A continuation byte. -/
def isContinuation (b : UInt8) : Bool := 0x80 ≤ b && b ≤ 0xBF

/-- The second bytes that may follow the first byte of a longer character. -/
def secondByteOk (first second : UInt8) : Bool :=
  if first = 0xE0 then 0xA0 ≤ second && second ≤ 0xBF
  else if first = 0xED then 0x80 ≤ second && second ≤ 0x9F
  else if first = 0xF0 then 0x90 ≤ second && second ≤ 0xBF
  else if first = 0xF4 then 0x80 ≤ second && second ≤ 0x8F
  else isContinuation second

/-- The number of bytes that follow `first` in its character, whose next bytes
    are `l`, or the `error_len` of the error there. -/
def trailingBytes (first : UInt8) (l : List UInt8) : Except (Option Nat) Nat :=
  if first < 0x80 then .ok 0
  else if 0xC2 ≤ first ∧ first ≤ 0xDF then
    match l with
    | [] => .error none
    | b :: _ => if isContinuation b then .ok 1 else .error (some 1)
  else if 0xE0 ≤ first ∧ first ≤ 0xEF then
    match l with
    | [] => .error none
    | [b] => if secondByteOk first b then .error none else .error (some 1)
    | b :: c :: _ =>
        if !secondByteOk first b then .error (some 1)
        else if isContinuation c then .ok 2 else .error (some 2)
  else if 0xF0 ≤ first ∧ first ≤ 0xF4 then
    match l with
    | [] => .error none
    | [b] => if secondByteOk first b then .error none else .error (some 1)
    | [b, c] =>
        if !secondByteOk first b then .error (some 1)
        else if isContinuation c then .error none else .error (some 2)
    | b :: c :: d :: _ =>
        if !secondByteOk first b then .error (some 1)
        else if !isContinuation c then .error (some 2)
        else if isContinuation d then .ok 3 else .error (some 3)
  else .error (some 1)

/-- The first error of `String::from_utf8` on the bytes from position `i` on, of
    which the first `skip` belong to a character that was accepted. -/
def utf8Error (i skip : Nat) : List UInt8 → Option Utf8Error
  | [] => none
  | b :: l =>
      match skip with
      | skip + 1 => utf8Error (i + 1) skip l
      | 0 =>
          match trailingBytes b l with
          | .ok n => utf8Error (i + 1) n l
          | .error errorLen => some ⟨i, errorLen⟩

/-- The rest of a line is thrown away. -/
def discardLine : List UInt8 → List UInt8
  | [] => []
  | b :: l => if b = 0x0A then l else discardLine l

/-- The byte loop of `read_jsonl_line` with `line_buf`, and what it leaves
    unread. -/
def readLineBytes (limits : ControlIpcLimits) (lineBuf : List UInt8) :
    List UInt8 → Except IpcError (Option (List UInt8)) × List UInt8
  | [] =>
      if lineBuf.isEmpty then (.ok none, [])
      else (.error (.protocol "truncated jsonl line without trailing newline"), [])
  | b :: l =>
      if b = 0x0A then (.ok (some lineBuf), l)
      else if limits.maxJsonlLineBytes < lineBuf.length + 1 then
        (.error (.jsonlLineOversized (limits.maxJsonlLineBytes + 1) limits.maxJsonlLineBytes),
          discardLine l)
      else readLineBytes limits (lineBuf ++ [b]) l

/-- One trailing carriage return is dropped. -/
def stripCarriageReturn (line : List UInt8) : List UInt8 :=
  if line.getLast? = some 0x0D then line.dropLast else line

/-- `read_jsonl_line`, and what it leaves unread; `none` is the clean end of
    the stream. -/
def readJsonlLine (limits : ControlIpcLimits) (stream : List UInt8) :
    Except IpcError (Option (List UInt8)) × List UInt8 :=
  match readLineBytes limits [] stream with
  | (.ok (some line), rest) =>
      let line := stripCarriageReturn line
      match utf8Error 0 0 line with
      | some e => (.error (.protocol e.message), rest)
      | none => (.ok (some line), rest)
  | (outcome, rest) => (outcome, rest)

example : (readJsonlLine ⟨0, 0, 8, 0, 0, 0, 0⟩ [0x7b, 0x7d, 0x0D, 0x0A, 0x31]).2 = [0x31] := by
  decide

end ServiceFrame
