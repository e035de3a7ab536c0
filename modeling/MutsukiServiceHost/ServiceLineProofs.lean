import MutsukiServiceHost.ServiceTextProofs

/-! # Reading JSONL lines

    `read_jsonl_line` reads a stream byte by byte with two loops: one collects
    a line in `line_buf`, the other throws the rest of a line away that is too
    long.  `readJsonlLine` has both as one recursion; here they run step by
    step, so that `line_buf` can be watched.

    * `lineRun_done` — the run ends with what `readJsonlLine` gives.
    * `lineBuf_bounded` — at no time has `line_buf` more bytes than the limit.
    * `readJsonlLine_line` — a line, whatever its length, takes its newline
      with it and nothing of what follows.
    * `jsonl_reading` — the three outcomes of a line, the end of a stream, and
      the round trip of values that are written back to back. -/

namespace ServiceFrame

/-- Where `read_jsonl_line` stands: in the loop that collects a line, in the one
    that drains a long line, or behind its return. -/
inductive LineState where
  | reading (lineBuf unread : List UInt8)
  | draining (lineBuf unread : List UInt8)
  | done (lineBuf : List UInt8) (outcome : Except IpcError (Option (List UInt8)))
      (unread : List UInt8)

/-- `line_buf`. -/
def LineState.lineBuf : LineState → List UInt8
  | .reading lineBuf _ => lineBuf
  | .draining lineBuf _ => lineBuf
  | .done lineBuf _ _ => lineBuf

/-- What follows the loops: the carriage return is popped and the bytes become
    a `String`. -/
def finishLine (lineBuf unread : List UInt8) : LineState :=
  let line := stripCarriageReturn lineBuf
  match utf8Error 0 0 line with
  | some e => .done line (.error (.protocol e.message)) unread
  | none => .done line (.ok (some line)) unread

/-- The error of a line above the limit. -/
def oversizedLine (limits : ControlIpcLimits) : IpcError :=
  .jsonlLineOversized (limits.maxJsonlLineBytes + 1) limits.maxJsonlLineBytes

/-- One `read_exact` of a byte, in either loop, and what the loop does with the
    byte or with the end of the stream. -/
def lineStep (limits : ControlIpcLimits) : LineState → LineState
  | .reading lineBuf [] =>
      if lineBuf.isEmpty then .done lineBuf (.ok none) []
      else .done lineBuf (.error (.protocol "truncated jsonl line without trailing newline")) []
  | .reading lineBuf (b :: l) =>
      if b = 0x0A then finishLine lineBuf l
      else if limits.maxJsonlLineBytes < lineBuf.length + 1 then .draining lineBuf l
      else .reading (lineBuf ++ [b]) l
  | .draining lineBuf [] => .done lineBuf (.error (oversizedLine limits)) []
  | .draining lineBuf (b :: l) =>
      if b = 0x0A then .done lineBuf (.error (oversizedLine limits)) l else .draining lineBuf l
  | .done lineBuf outcome unread => .done lineBuf outcome unread

/-- `line_buf` after `n` steps of a call on `stream`; the call clears it first. -/
def lineRun (limits : ControlIpcLimits) (stream : List UInt8) (n : Nat) : LineState :=
  (lineStep limits)^[n] (.reading [] stream)

/-! ## Steps and runs -/

theorem length_stripCarriageReturn (line : List UInt8) :
    (stripCarriageReturn line).length ≤ line.length := by
  rw [stripCarriageReturn]
  split
  · rw [List.length_dropLast]
    omega
  · exact Nat.le_refl _

@[simp] theorem lineBuf_finishLine (lineBuf unread : List UInt8) :
    (finishLine lineBuf unread).lineBuf = stripCarriageReturn lineBuf := by
  rw [finishLine]
  split <;> rfl

/-- A step pushes a byte only below the limit. -/
theorem lineStep_bounded {limits : ControlIpcLimits} {s : LineState}
    (h : s.lineBuf.length ≤ limits.maxJsonlLineBytes) :
    (lineStep limits s).lineBuf.length ≤ limits.maxJsonlLineBytes := by
  cases s with
  | reading lineBuf unread =>
      have hbuf : lineBuf.length ≤ limits.maxJsonlLineBytes := h
      cases unread with
      | nil =>
          rw [lineStep]
          split <;> exact hbuf
      | cons b l =>
          rw [lineStep]
          split
          · rw [lineBuf_finishLine]
            exact Nat.le_trans (length_stripCarriageReturn lineBuf) hbuf
          · split
            · exact hbuf
            · show (lineBuf ++ [b]).length ≤ limits.maxJsonlLineBytes
              rw [List.length_append, List.length_singleton]
              omega
  | draining lineBuf unread =>
      cases unread with
      | nil => exact h
      | cons b l =>
          rw [lineStep]
          split <;> exact h
  | done lineBuf outcome unread => exact h

/-- **THE BUFFER STAYS WITHIN THE LIMIT** during the whole call. -/
theorem lineBuf_bounded (limits : ControlIpcLimits) (stream : List UInt8) (n : Nat) :
    (lineRun limits stream n).lineBuf.length ≤ limits.maxJsonlLineBytes := by
  induction n with
  | zero => exact Nat.zero_le _
  | succ n ih =>
      rw [lineRun, Function.iterate_succ_apply']
      exact lineStep_bounded ih

theorem lineStep_iterate_done (limits : ControlIpcLimits) (lineBuf : List UInt8)
    (outcome : Except IpcError (Option (List UInt8))) (unread : List UInt8) (n : Nat) :
    (lineStep limits)^[n] (.done lineBuf outcome unread) = .done lineBuf outcome unread :=
  Function.iterate_fixed rfl n

/-- The draining loop stops behind the next newline or at the end. -/
theorem iterate_draining (limits : ControlIpcLimits) (lineBuf l : List UInt8) :
    (lineStep limits)^[l.length + 1] (.draining lineBuf l)
      = .done lineBuf (.error (oversizedLine limits)) (discardLine l) := by
  induction l with
  | nil => rfl
  | cons b l ih =>
      rw [Function.iterate_succ_apply, List.length_cons, lineStep, discardLine]
      by_cases hb : b = 0x0A
      · rw [if_pos hb, if_pos hb, lineStep_iterate_done]
      · rw [if_neg hb, if_neg hb, ih]

/-- A state behind the loops, which have left `o`. -/
def LineState.Closes (s : LineState) (o : Except IpcError (Option (List UInt8)) × List UInt8) :
    Prop :=
  match o with
  | (.ok (some line), rest) => s = finishLine line rest
  | (outcome, rest) => ∃ lineBuf, s = .done lineBuf outcome rest

theorem finishLine_done (line rest : List UInt8) : ∃ lineBuf outcome,
    finishLine line rest = .done lineBuf outcome rest := by
  rw [finishLine]
  split
  · exact ⟨_, _, rfl⟩
  · exact ⟨_, _, rfl⟩

/-- Both loops together do what `readLineBytes` does. -/
theorem iterate_reading (limits : ControlIpcLimits) (lineBuf l : List UInt8) :
    ((lineStep limits)^[l.length + 1] (.reading lineBuf l)).Closes
      (readLineBytes limits lineBuf l) := by
  induction l generalizing lineBuf with
  | nil =>
      rw [readLineBytes, List.length_nil, Function.iterate_succ_apply, lineStep]
      split
      · exact ⟨_, rfl⟩
      · exact ⟨_, rfl⟩
  | cons b l ih =>
      rw [Function.iterate_succ_apply, List.length_cons, lineStep, readLineBytes]
      by_cases hb : b = 0x0A
      · rw [if_pos hb, if_pos hb]
        obtain ⟨final, outcome, hdone⟩ := finishLine_done lineBuf l
        show _ = finishLine lineBuf l
        rw [hdone, lineStep_iterate_done]
      · rw [if_neg hb, if_neg hb]
        by_cases hlen : limits.maxJsonlLineBytes < lineBuf.length + 1
        · rw [if_pos hlen, if_pos hlen, iterate_draining]
          exact ⟨_, rfl⟩
        · rw [if_neg hlen, if_neg hlen]
          exact ih (lineBuf ++ [b])

/-- **THE RUN ENDS** with the outcome of `readJsonlLine`, after one step for each
    byte of the stream and one more at most. -/
theorem lineRun_done (limits : ControlIpcLimits) (stream : List UInt8) :
    ∃ lineBuf, lineRun limits stream (stream.length + 1)
      = .done lineBuf (readJsonlLine limits stream).1 (readJsonlLine limits stream).2 := by
  have hclose := iterate_reading limits [] stream
  rw [lineRun, readJsonlLine]
  obtain ⟨s, hs⟩ : ∃ s, (lineStep limits)^[stream.length + 1] (.reading [] stream) = s := ⟨_, rfl⟩
  rw [hs] at hclose ⊢
  split
  · rename_i line rest hread
    rw [hread] at hclose
    have hfinish : s = finishLine line rest := hclose
    rw [hfinish, finishLine]
    dsimp only
    cases utf8Error 0 0 (stripCarriageReturn line) with
    | none => exact ⟨_, rfl⟩
    | some e => exact ⟨_, rfl⟩
  · rename_i outcome rest hnot hread
    rw [hread] at hclose
    match outcome, hnot, hclose with
    | .error e, _, hclose => exact hclose
    | .ok none, _, hclose => exact hclose
    | .ok (some line), hnot, _ => exact absurd rfl (hnot line)

/-! ## One line -/

theorem discardLine_line {line : List UInt8} (h : 0x0A ∉ line) (rest : List UInt8) :
    discardLine (line ++ 0x0A :: rest) = rest := by
  induction line with
  | nil => rw [List.nil_append, discardLine, if_pos rfl]
  | cons b line ih =>
      obtain ⟨hb, hline⟩ := not_or.mp (List.mem_cons.not.mp h)
      rw [List.cons_append, discardLine, if_neg (Ne.symm hb), ih hline]

/-- The loops on a line: the length counts without the newline. -/
theorem readLineBytes_line {limits : ControlIpcLimits} {line : List UInt8} (h : 0x0A ∉ line)
    {lineBuf : List UInt8} (hbuf : lineBuf.length ≤ limits.maxJsonlLineBytes)
    (rest : List UInt8) :
    readLineBytes limits lineBuf (line ++ 0x0A :: rest)
      = if limits.maxJsonlLineBytes < lineBuf.length + line.length then
          (.error (oversizedLine limits), rest)
        else (.ok (some (lineBuf ++ line)), rest) := by
  induction line generalizing lineBuf with
  | nil =>
      rw [List.nil_append, readLineBytes, if_pos rfl, List.append_nil, List.length_nil,
        if_neg (by omega)]
  | cons b line ih =>
      obtain ⟨hb, hline⟩ := not_or.mp (List.mem_cons.not.mp h)
      rw [List.cons_append, readLineBytes, if_neg (Ne.symm hb), List.length_cons]
      by_cases hlen : limits.maxJsonlLineBytes < lineBuf.length + 1
      · rw [if_pos hlen, if_pos (by omega), discardLine_line hline]
        rfl
      · rw [if_neg hlen, ih hline (by rw [List.length_append, List.length_singleton]; omega),
          List.length_append, List.length_singleton, List.append_assoc, List.singleton_append,
          Nat.add_assoc, Nat.add_comm 1]

theorem discardLine_end {l : List UInt8} (h : 0x0A ∉ l) : discardLine l = [] := by
  induction l with
  | nil => rfl
  | cons b l ih =>
      obtain ⟨hb, hl⟩ := not_or.mp (List.mem_cons.not.mp h)
      rw [discardLine, if_neg (Ne.symm hb), ih hl]

/-- The loops on bytes without a newline, of which some have been read. -/
theorem readLineBytes_end (limits : ControlIpcLimits) {l : List UInt8} (h : 0x0A ∉ l)
    {lineBuf : List UInt8} (hne : lineBuf ++ l ≠ []) :
    ∃ e, readLineBytes limits lineBuf l = (.error e, []) := by
  induction l generalizing lineBuf with
  | nil =>
      rw [List.append_nil] at hne
      rw [readLineBytes, if_neg (by simpa using hne)]
      exact ⟨_, rfl⟩
  | cons b l ih =>
      obtain ⟨hb, hl⟩ := not_or.mp (List.mem_cons.not.mp h)
      rw [readLineBytes, if_neg (Ne.symm hb)]
      by_cases hlen : limits.maxJsonlLineBytes < lineBuf.length + 1
      · rw [if_pos hlen, discardLine_end hl]
        exact ⟨_, rfl⟩
      · rw [if_neg hlen]
        exact ih hl (by simp)

/-- A line and the newline behind it, in front of anything. -/
theorem readJsonlLine_line (limits : ControlIpcLimits) {line : List UInt8} (h : 0x0A ∉ line)
    (rest : List UInt8) :
    readJsonlLine limits (line ++ 0x0A :: rest)
      = (if limits.maxJsonlLineBytes < line.length then .error (oversizedLine limits)
          else match utf8Error 0 0 (stripCarriageReturn line) with
            | some e => .error (.protocol e.message)
            | none => .ok (some (stripCarriageReturn line)), rest) := by
  rw [readJsonlLine, readLineBytes_line h (Nat.zero_le _), List.length_nil, Nat.zero_add,
    List.nil_append]
  by_cases hlen : limits.maxJsonlLineBytes < line.length
  · rw [if_pos hlen, if_pos hlen]
  · rw [if_neg hlen, if_neg hlen]
    dsimp only
    cases utf8Error 0 0 (stripCarriageReturn line) with
    | none => rfl
    | some e => rfl

/-- A stream without a newline is over, or it is an error. -/
theorem readJsonlLine_end (limits : ControlIpcLimits) {stream : List UInt8} (h : 0x0A ∉ stream)
    (hne : stream ≠ []) : ∃ e, readJsonlLine limits stream = (.error e, []) := by
  have hempty : [] ++ stream ≠ [] := by rwa [List.nil_append]
  obtain ⟨e, he⟩ := readLineBytes_end limits h hempty
  rw [readJsonlLine, he]
  exact ⟨e, rfl⟩

/-- What a call makes of `line`, its newline and `rest`. -/
structure ReadsLine (limits : ControlIpcLimits) (line rest : List UInt8) : Prop where
  unread : (readJsonlLine limits (line ++ 0x0A :: rest)).2 = rest
  oversized : limits.maxJsonlLineBytes < line.length →
    (readJsonlLine limits (line ++ 0x0A :: rest)).1
      = .error (.jsonlLineOversized (limits.maxJsonlLineBytes + 1) limits.maxJsonlLineBytes)
  invalid : line.length ≤ limits.maxJsonlLineBytes → ¬ IsUtf8 (stripCarriageReturn line) →
    ∃ detail, (readJsonlLine limits (line ++ 0x0A :: rest)).1 = .error (.protocol detail)
  valid : line.length ≤ limits.maxJsonlLineBytes → IsUtf8 (stripCarriageReturn line) →
    (readJsonlLine limits (line ++ 0x0A :: rest)).1 = .ok (some (stripCarriageReturn line))

theorem readsLine (limits : ControlIpcLimits) {line : List UInt8} (h : 0x0A ∉ line)
    (rest : List UInt8) : ReadsLine limits line rest := by
  have hread := readJsonlLine_line limits h rest
  refine ⟨by rw [hread], ?_, ?_, ?_⟩
  · intro hlen
    rw [hread, if_pos hlen]
    rfl
  · intro hlen hinvalid
    cases hutf : utf8Error 0 0 (stripCarriageReturn line) with
    | none => exact absurd (utf8Error_eq_none_iff.mp hutf) hinvalid
    | some e =>
        rw [hread, if_neg (Nat.not_lt.mpr hlen), hutf]
        exact ⟨e.message, rfl⟩
  · intro hlen hvalid
    rw [hread, if_neg (Nat.not_lt.mpr hlen), utf8Error_eq_none_iff.mpr hvalid]

/-! ## Values written back to back -/

/-- How the values of a type become text and come back. -/
structure TextCodec (α : Type) where
  write : α → Except String (List UInt8)
  read : List UInt8 → Except String α

/-- What the JSONL profile relies on of `serde_json`: it prints UTF-8 text on
    one line, control characters escaped, and reads back what it has printed. -/
structure TextCodec.Lawful {α : Type} (codec : TextCodec α) : Prop where
  utf8 : ∀ {a text}, codec.write a = .ok text → IsUtf8 text
  escaped : ∀ {a text}, codec.write a = .ok text → ∀ b ∈ text, 0x20 ≤ b
  read_write : ∀ {a text}, codec.write a = .ok text → codec.read text = .ok a

section RoundTrip

variable {α : Type} {codec : TextCodec α} {limits : ControlIpcLimits}

/-- A line is read and decoded; `none` is the clean end of the stream. -/
def readValue (codec : TextCodec α) (limits : ControlIpcLimits) (stream : List UInt8) :
    Except IpcError (Option α) × List UInt8 :=
  match readJsonlLine limits stream with
  | (.error e, rest) => (.error e, rest)
  | (.ok none, rest) => (.ok none, rest)
  | (.ok (some line), rest) =>
      match decodeJsonl codec.read line limits with
      | .error e => (.error e, rest)
      | .ok value => (.ok (some value), rest)

/-- The outcomes of `n` such rounds, one after the other. -/
def readValues (codec : TextCodec α) (limits : ControlIpcLimits) :
    Nat → List UInt8 → List (Except IpcError (Option α))
  | 0, _ => []
  | n + 1, stream =>
      (readValue codec limits stream).1 :: readValues codec limits n (readValue codec limits stream).2

/-- What `encode_jsonl` has checked; the newline counts here. -/
theorem encodeJsonl_ok {written : Except String (List UInt8)} {line : List UInt8}
    (h : encodeJsonl written limits = .ok line) :
    ∃ text, written = .ok text ∧ line = text ++ [0x0A] ∧
      text.length < limits.maxJsonlLineBytes := by
  cases written with
  | error detail => exact nomatch h
  | ok text =>
      simp only [encodeJsonl] at h
      split at h
      · exact nomatch h
      · rename_i hlen
        cases h
        rw [List.length_append, List.length_singleton] at hlen
        exact ⟨text, rfl, rfl, by omega⟩

/-- Text without control characters is a line and ends in no carriage return. -/
theorem TextCodec.Lawful.line (hcodec : codec.Lawful) {a : α} {text : List UInt8}
    (h : codec.write a = .ok text) : 0x0A ∉ text ∧ stripCarriageReturn text = text := by
  have hcontrol := hcodec.escaped h
  refine ⟨fun hmem => absurd (hcontrol 0x0A hmem) (by decide), ?_⟩
  rw [stripCarriageReturn, if_neg]
  intro hlast
  exact absurd (hcontrol 0x0D (List.mem_of_getLast? hlast)) (by decide)

/-- **ONE VALUE BACK**, whatever follows it. -/
theorem readValue_encoded (hcodec : codec.Lawful) {a : α} {line : List UInt8}
    (h : encodeJsonl (codec.write a) limits = .ok line) (rest : List UInt8) :
    readValue codec limits (line ++ rest) = (.ok (some a), rest) := by
  obtain ⟨text, hwrite, rfl, hlen⟩ := encodeJsonl_ok h
  obtain ⟨hline, hstrip⟩ := hcodec.line hwrite
  have hread : readJsonlLine limits (text ++ [0x0A] ++ rest) = (.ok (some text), rest) := by
    rw [List.append_assoc, List.singleton_append, readJsonlLine_line limits hline,
      if_neg (by omega), hstrip, utf8Error_eq_none_iff.mpr (hcodec.utf8 hwrite)]
  have hdecode : decodeJsonl codec.read text limits = .ok a := by
    rw [decodeJsonl, if_neg (by omega), hcodec.read_write hwrite]
  rw [readValue, hread]
  dsimp only
  rw [hdecode]

theorem readValues_encoded (hcodec : codec.Lawful) {values : List α} {lines : List (List UInt8)}
    (h : List.Forall₂ (fun a line => encodeJsonl (codec.write a) limits = .ok line) values lines) :
    readValues codec limits (values.length + 1) lines.flatten
      = values.map (fun a => .ok (some a)) ++ [.ok none] := by
  induction h with
  | nil => rfl
  | @cons a line values lines ha _ ih =>
      rw [List.length_cons, List.flatten_cons, readValues, readValue_encoded hcodec ha, ih,
        List.map_cons, List.cons_append]

/-- **JSONL READING**: a line is read, refused or drained with its newline and
    no more; `line_buf` stays within the limit; a stream without a newline is
    over or an error; and what is written back to back is read back in order. -/
theorem jsonl_reading (hcodec : codec.Lawful) (limits : ControlIpcLimits) :
    (∀ line rest, 0x0A ∉ line → ReadsLine limits line rest) ∧
      (∀ stream, (∀ n, (lineRun limits stream n).lineBuf.length ≤ limits.maxJsonlLineBytes) ∧
        ∃ lineBuf, lineRun limits stream (stream.length + 1)
          = .done lineBuf (readJsonlLine limits stream).1 (readJsonlLine limits stream).2) ∧
      (∀ stream, 0x0A ∉ stream →
        ((readJsonlLine limits stream).1 = .ok none ↔ stream = []) ∧
          (stream ≠ [] → ∃ e, (readJsonlLine limits stream).1 = .error e)) ∧
      ∀ (values : List α) (lines : List (List UInt8)),
        List.Forall₂ (fun a line => encodeJsonl (codec.write a) limits = .ok line) values lines →
          readValues codec limits (values.length + 1) lines.flatten
            = values.map (fun a => .ok (some a)) ++ [.ok none] := by
  refine ⟨fun line rest h => readsLine limits h rest,
    fun stream => ⟨lineBuf_bounded limits stream, lineRun_done limits stream⟩, ?_,
    fun values lines h => readValues_encoded hcodec h⟩
  intro stream hstream
  refine ⟨⟨?_, ?_⟩, ?_⟩
  · intro hnone
    by_contra hne
    obtain ⟨e, he⟩ := readJsonlLine_end limits hstream hne
    rw [he] at hnone
    exact nomatch hnone
  · rintro rfl
    rfl
  · intro hne
    obtain ⟨e, he⟩ := readJsonlLine_end limits hstream hne
    exact ⟨e, by rw [he]⟩

end RoundTrip

/-- `true` and `false` as JSON. -/
def boolCodec : TextCodec Bool where
  write b := .ok (if b then [0x74, 0x72, 0x75, 0x65] else [0x66, 0x61, 0x6C, 0x73, 0x65])
  read text :=
    if text = [0x74, 0x72, 0x75, 0x65] then .ok true
    else if text = [0x66, 0x61, 0x6C, 0x73, 0x65] then .ok false
    else .error "expected a boolean"

theorem boolCodec_lawful : boolCodec.Lawful where
  utf8 := by
    rintro (_ | _) text h
    · cases h
      exact utf8Error_eq_none_iff.mp (by decide)
    · cases h
      exact utf8Error_eq_none_iff.mp (by decide)
  escaped := by
    rintro (_ | _) text h
    · cases h
      decide +kernel
    · cases h
      decide +kernel
  read_write := by
    rintro (_ | _) text h
    · cases h
      rfl
    · cases h
      rfl

/-- The longer of the two lines has exactly the length of the limit. -/
theorem jsonl_reading_bools :
    readValues boolCodec { sampleLimits with maxJsonlLineBytes := 6 } 3
        [0x74, 0x72, 0x75, 0x65, 0x0A, 0x66, 0x61, 0x6C, 0x73, 0x65, 0x0A]
      = [.ok (some true), .ok (some false), .ok none] :=
  (jsonl_reading boolCodec_lawful { sampleLimits with maxJsonlLineBytes := 6 }).2.2.2
    [true, false] [[0x74, 0x72, 0x75, 0x65, 0x0A], [0x66, 0x61, 0x6C, 0x73, 0x65, 0x0A]]
    (.cons rfl (.cons rfl .nil))

end ServiceFrame
