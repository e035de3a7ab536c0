import MutsukiServiceHost.LineSplitProofs
import MutsukiServiceHost.ServiceJsonlProofs
import MutsukiServiceHost.ServiceLineProofs
import MutsukiServiceHost.ServiceRequestProofs

/-! # Request lines on a server

    `serve_jsonl` on the bytes of a whole connection: it reads a line, calls its
    handler or answers the line itself, writes one line back, and goes on.  A line
    that `read_jsonl_line` refuses ends the connection.

    * `request_line_law` — in every run the lines are read in order, exactly those
      that say a request reach the handler, the others are answered with
      `bad_request`, and reply `i` belongs to line `i`. -/

namespace ServiceJsonl

open ServiceControl ServiceFrame LineSplit SerdeContent Transition

/-! ## The server on its stream -/

/-- `serve_jsonl`, what it has not read of the connection's bytes, and how many
    lines it has read. -/
structure JsonlServer where
  conn : JsonlConn
  unread : List UInt8
  read : Nat

/-- A server in front of the bytes that its peer will have sent. -/
def JsonlServer.start (input : List UInt8) : JsonlServer := ⟨.start, input, 0⟩

/-- The steps of a server. -/
inductive ServeEvent where
  /-- `read_jsonl_line` returns -/
  | read
  /-- it returns an error of the connection -/
  | lost (detail : String)
  /-- any other step -/
  | conn (e : JsonlEvent)

/-- The events of `read_jsonl_line`, which has read something. -/
def JsonlEvent.reads : JsonlEvent → Bool
  | .line _ _ | .readFailed _ => true
  | _ => false

/-- One step; `stopReading` is the drain or the idle timeout. -/
def serveStep (cfg : JsonlServerCfg) (s : JsonlServer) : ServeEvent → Option JsonlServer
  | .read =>
      match readJsonlLine cfg.limits s.unread with
      | (.ok (some line), rest) =>
          (jsonlStep cfg s.conn (.line s.read line)).map fun conn => ⟨conn, rest, s.read + 1⟩
      | (.ok none, rest) =>
          (jsonlStep cfg s.conn .stopReading).map fun conn => ⟨conn, rest, s.read⟩
      | (.error e, rest) =>
          (jsonlStep cfg s.conn (.readFailed e)).map fun conn => ⟨conn, rest, s.read⟩
  | .lost detail =>
      (jsonlStep cfg s.conn (.readFailed (.io detail))).map fun conn => { s with conn := conn }
  | .conn e =>
      if e.reads then none
      else (jsonlStep cfg s.conn e).map fun conn => { s with conn := conn }

/-- What a step does. -/
inductive ServeMove (cfg : JsonlServerCfg) (s : JsonlServer) : JsonlServer → Prop where
  | line (text rest : List UInt8) : s.conn.phase = .waiting →
      readJsonlLine cfg.limits s.unread = (.ok (some text), rest) →
      ServeMove cfg s ⟨s.conn.onLine cfg s.read text, rest, s.read + 1⟩
  | ended (result : Except IpcError Unit) (rest : List UInt8) : s.conn.phase = .waiting →
      ServeMove cfg s ⟨{ s.conn with phase := .done result }, rest, s.read⟩
  | drain : ServeMove cfg s { s with conn := { s.conn with drain := true } }
  | handled (k : Nat) (request : ControlRequest) (response : ControlResponse) :
      s.conn.phase = .handling k request →
      ServeMove cfg s { s with conn :=
        { s.conn with
          phase := .responding k response
          returned := s.conn.returned ++ [(k, response)] } }
  | panicked (k : Nat) (request : ControlRequest) : s.conn.phase = .handling k request →
      ServeMove cfg s { s with conn := { s.conn with phase := .panicked } }
  | encodeFailed (k : Nat) (response : ControlResponse) (e : IpcError) :
      s.conn.phase = .responding k response →
      ServeMove cfg s { s with conn := { s.conn with phase := .done (.error e) } }
  | encoded (k : Nat) (response : ControlResponse) (line : List UInt8) :
      s.conn.phase = .responding k response →
      encodeJsonl (cfg.json.writeResponse response) cfg.limits = .ok line →
      ServeMove cfg s { s with conn := { s.conn with phase := .writing k response line } }
  | written (k : Nat) (response : ControlResponse) (line : List UInt8) :
      s.conn.phase = .writing k response line →
      ServeMove cfg s { s with conn :=
        { s.conn with phase := .waiting, replies := s.conn.replies ++ [⟨k, response, line⟩] } }
  | writeFailed (k : Nat) (response : ControlResponse) (line : List UInt8) (sent : Bool)
      (e : IpcError) : s.conn.phase = .writing k response line →
      ServeMove cfg s { s with conn :=
        { s.conn with
          phase := .done (.error e)
          replies := if sent then s.conn.replies ++ [⟨k, response, line⟩] else s.conn.replies } }

theorem serveStep_move {cfg : JsonlServerCfg} {s s' : JsonlServer} {e : ServeEvent}
    (h : serveStep cfg s e = some s') : ServeMove cfg s s' := by
  have hended : ∀ {je : JsonlEvent} {result : Except IpcError Unit} {conn : JsonlConn}
      (rest : List UInt8), (je = .stopReading ∧ result = .ok () ∨
        ∃ error, je = .readFailed error ∧ result = .error error) →
      jsonlStep cfg s.conn je = some conn → ServeMove cfg s ⟨conn, rest, s.read⟩ := by
    intro je result conn rest hje hstep
    rcases hje with ⟨rfl, rfl⟩ | ⟨error, rfl, rfl⟩
    · simp only [jsonlStep] at hstep
      split at hstep
      · rename_i hp
        cases hstep
        exact .ended _ rest hp
      · cases hstep
    · simp only [jsonlStep] at hstep
      split at hstep
      · rename_i hp
        cases hstep
        exact .ended _ rest hp
      · cases hstep
  cases e with
  | read =>
      simp only [serveStep] at h
      split at h
      · rename_i text rest hread
        obtain ⟨conn, hstep, rfl⟩ := Option.map_eq_some_iff.mp h
        simp only [jsonlStep] at hstep
        split at hstep
        · rename_i hp
          cases hstep
          exact .line text rest hp hread
        · cases hstep
      · obtain ⟨conn, hstep, rfl⟩ := Option.map_eq_some_iff.mp h
        exact hended _ (.inl ⟨rfl, rfl⟩) hstep
      · obtain ⟨conn, hstep, rfl⟩ := Option.map_eq_some_iff.mp h
        exact hended _ (.inr ⟨_, rfl, rfl⟩) hstep
  | lost detail =>
      obtain ⟨conn, hstep, rfl⟩ := Option.map_eq_some_iff.mp h
      exact hended _ (.inr ⟨_, rfl, rfl⟩) hstep
  | conn je =>
      simp only [serveStep] at h
      split at h
      · cases h
      · rename_i hreads
        obtain ⟨conn, hstep, rfl⟩ := Option.map_eq_some_iff.mp h
        cases je with
        | line | readFailed => exact absurd rfl hreads
        | beginDrain =>
            cases hstep
            exact .drain
        | stopReading => exact hended _ (.inl ⟨rfl, rfl⟩) hstep
        | handlerReturn response =>
            simp only [jsonlStep] at hstep
            split at hstep
            · rename_i k request hp
              cases hstep
              exact .handled k request response hp
            · cases hstep
        | handlerPanic =>
            simp only [jsonlStep] at hstep
            split at hstep
            · rename_i k request hp
              cases hstep
              exact .panicked k request hp
            · cases hstep
        | encode =>
            simp only [jsonlStep] at hstep
            split at hstep
            · rename_i k response hp
              split at hstep
              · cases hstep
                exact .encodeFailed k response _ hp
              · rename_i line henc
                cases hstep
                exact .encoded k response line hp henc
            · cases hstep
        | write =>
            simp only [jsonlStep] at hstep
            split at hstep
            · rename_i k response line hp
              cases hstep
              exact .written k response line hp
            · cases hstep
        | writeFail sent detail =>
            simp only [jsonlStep] at hstep
            split at hstep
            · rename_i k response line hp
              cases hstep
              exact .writeFailed k response line sent _ hp
            · cases hstep

/-! ## The lines of a stream -/

section Lines

variable {limits : ControlIpcLimits} {input stream text rest : List UInt8} {k : Nat}

/-- Line `k` of the input is within the limit and UTF-8, and `text` is what it
    holds without its line end. -/
def ReadsAs (limits : ControlIpcLimits) (input : List UInt8) (k : Nat) (text : List UInt8) :
    Prop :=
  ∃ line, (splitAfter 0x0A input)[k]? = some (line ++ [0x0A]) ∧
    line.length ≤ limits.maxJsonlLineBytes ∧ IsUtf8 (stripCarriageReturn line) ∧
    text = stripCarriageReturn line

theorem ReadsAs.unique {text' : List UInt8} (h : ReadsAs limits input k text)
    (h' : ReadsAs limits input k text') : text = text' := by
  obtain ⟨line, hline, -, -, rfl⟩ := h
  obtain ⟨line', hline', -, -, rfl⟩ := h'
  rw [hline] at hline'
  rw [List.append_cancel_right (Option.some.inj hline')]

theorem ReadsAs.length_le (h : ReadsAs limits input k text) :
    text.length ≤ limits.maxJsonlLineBytes := by
  obtain ⟨line, -, hlen, -, rfl⟩ := h
  exact Nat.le_trans (length_stripCarriageReturn line) hlen

/-- A stream is empty, a last line without an end, or a line and the rest. -/
theorem stream_cases (stream : List UInt8) : stream = [] ∨ (0x0A ∉ stream ∧ stream ≠ []) ∨
    ∃ line rest, stream = line ++ 0x0A :: rest ∧ 0x0A ∉ line := by
  by_cases hmem : (0x0A : UInt8) ∈ stream
  · obtain ⟨line, rest, heq, hnot⟩ := List.eq_append_cons_of_mem hmem
    exact .inr (.inr ⟨line, rest, heq, hnot⟩)
  · by_cases hnil : stream = []
    · exact .inl hnil
    · exact .inr (.inl ⟨hmem, hnil⟩)

/-- `read_jsonl_line` in front of line `k` returns that line and stands behind it, -/
theorem readsAs_of_read (haligned : splitAfter 0x0A stream = (splitAfter 0x0A input).drop k)
    (h : readJsonlLine limits stream = (.ok (some text), rest)) :
    ReadsAs limits input k text ∧ splitAfter 0x0A rest = (splitAfter 0x0A input).drop (k + 1) := by
  rcases stream_cases stream with rfl | ⟨hnot, hne⟩ | ⟨line, rest', rfl, hnot⟩
  · cases h
  · obtain ⟨e, he⟩ := readJsonlLine_end limits hnot hne
    rw [he] at h
    cases h
  · have hreads := readsLine limits hnot rest'
    have hunread := hreads.unread
    rw [h] at hunread
    obtain rfl : rest = rest' := hunread
    rw [splitAfter_line hnot] at haligned
    have hk : (splitAfter 0x0A input)[k]? = some (line ++ [0x0A]) := by
      rw [← List.head?_drop, ← haligned]
      rfl
    have hrest : splitAfter 0x0A rest = (splitAfter 0x0A input).drop (k + 1) := by
      rw [← List.tail_drop, ← haligned]
      rfl
    refine ⟨⟨line, hk, ?_, ?_, ?_⟩, hrest⟩
    · by_contra hlen
      have hover := hreads.oversized (Nat.not_le.mp hlen)
      rw [h] at hover
      cases hover
    · by_contra hinvalid
      by_cases hlen : line.length ≤ limits.maxJsonlLineBytes
      · obtain ⟨detail, hdetail⟩ := hreads.invalid hlen hinvalid
        rw [h] at hdetail
        cases hdetail
      · have hover := hreads.oversized (Nat.not_le.mp hlen)
        rw [h] at hover
        cases hover
    · rw [readJsonlLine_line limits hnot] at h
      have hfirst := congrArg Prod.fst h
      split at hfirst
      · cases hfirst
      · split at hfirst
        · cases hfirst
        · cases hfirst
          rfl

/-- and otherwise there is no such line. -/
theorem read_of_readsAs (haligned : splitAfter 0x0A stream = (splitAfter 0x0A input).drop k)
    (h : ReadsAs limits input k text) : (readJsonlLine limits stream).1 = .ok (some text) := by
  obtain ⟨line', hk, hlen, hvalid, rfl⟩ := h
  rw [← List.head?_drop, ← haligned] at hk
  rcases stream_cases stream with rfl | ⟨hnot, hne⟩ | ⟨line, rest, rfl, hnot⟩
  · cases hk
  · rw [splitAfter_of_not_mem hnot hne] at hk
    rw [Option.some.inj hk] at hnot
    exact absurd (List.mem_append_right _ (List.mem_singleton_self _)) hnot
  · rw [splitAfter_line hnot] at hk
    obtain rfl := List.append_cancel_right (Option.some.inj hk)
    exact (readsLine limits hnot rest).valid hlen hvalid

end Lines

/-! ## What is answered -/

section Law

/-- A server whose `serde_json` reads requests through `format`. -/
def lineCfg (format : Format) (limits : ControlIpcLimits) (json : Json) : JsonlServerCfg :=
  ⟨limits, { json with readRequest := format.read? ControlRequest.deserialize }⟩

variable {format : Format} {limits : ControlIpcLimits} {json : Json} {input : List UInt8}
  {s s' : JsonlServer} {k : Nat}

/-- Line `k` says `r`. -/
def Says (format : Format) (limits : ControlIpcLimits) (input : List UInt8) (k : Nat)
    (r : ControlRequest) : Prop :=
  ∃ text c, ReadsAs limits input k text ∧ format.read text = .ok c ∧ r.WrittenAs c

/-- The answer to line `k`: its handler's result, or `bad_request` if the line says
    no request. -/
def Answers (format : Format) (limits : ControlIpcLimits) (input : List UInt8)
    (returned : List (Nat × ControlResponse)) (k : Nat) (response : ControlResponse) : Prop :=
  ((∃ r, Says format limits input k r) ∧ (k, response) ∈ returned) ∨
    ((∀ r, ¬ Says format limits input k r) ∧
      ∃ detail, response = ServiceServer.badRequestResponse detail)

theorem Answers.mono {returned : List (Nat × ControlResponse)} {response : ControlResponse}
    (h : Answers format limits input returned k response) (more : List (Nat × ControlResponse)) :
    Answers format limits input (returned ++ more) k response := by
  rcases h with ⟨hsaid, hmem⟩ | hnone
  · exact .inl ⟨hsaid, List.mem_append_left _ hmem⟩
  · exact .inr hnone

/-- `decode_jsonl_request` accepts what the text says. -/
theorem decodeJsonl_request_iff {text : List UInt8} {r : ControlRequest}
    (hlen : text.length ≤ limits.maxJsonlLineBytes) :
    decodeJsonl (format.read? ControlRequest.deserialize) text limits = .ok r ↔
      ∃ c, format.read text = .ok c ∧ r.WrittenAs c := by
  rw [decodeJsonl, if_neg (Nat.not_lt.mpr hlen), Format.read?]
  cases hread : format.read text with
  | error detail =>
      constructor
      · intro h
        cases h
      · rintro ⟨c, hc, -⟩
        cases hc
  | ok c =>
      cases hde : ControlRequest.deserialize c with
      | error e =>
          constructor
          · intro h
            simp only [hde] at h
            cases h
          · rintro ⟨c', hc, hwritten⟩
            cases hc
            rw [← request_accepted_iff, hde] at hwritten
            cases hwritten
      | ok r' =>
          simp only [hde]
          constructor
          · intro h
            cases h
            exact ⟨c, rfl, request_accepted_iff.mp hde⟩
          · rintro ⟨c', hc, hwritten⟩
            cases hc
            rw [← request_accepted_iff, hde] at hwritten
            cases hwritten
            rfl

/-- What the server makes of a line that it has read. -/
theorem said_iff_decode {text : List UInt8} (h : ReadsAs limits input k text) {r : ControlRequest} :
    Says format limits input k r ↔
      decodeJsonl (format.read? ControlRequest.deserialize) text limits = .ok r := by
  rw [decodeJsonl_request_iff h.length_le]
  constructor
  · rintro ⟨text', c, htext, hread, hwritten⟩
    rw [h.unique htext]
    exact ⟨c, hread, hwritten⟩
  · rintro ⟨c, hread, hwritten⟩
    exact ⟨text, c, h, hread, hwritten⟩

/-- What each phase comes with. -/
def InPhase (format : Format) (limits : ControlIpcLimits) (json : Json) (input : List UInt8)
    (s : JsonlServer) : JsonlPhase → Prop
  | .waiting => s.conn.replies.length = s.read
  | .handling k r => k + 1 = s.read ∧ s.conn.replies.length = k ∧ Says format limits input k r
  | .responding k response => k + 1 = s.read ∧ s.conn.replies.length = k ∧
      Answers format limits input s.conn.returned k response
  | .writing k response line => k + 1 = s.read ∧ s.conn.replies.length = k ∧
      Answers format limits input s.conn.returned k response ∧
      encodeJsonl (json.writeResponse response) limits = .ok line
  | .done _ | .panicked => True

/-- What every run keeps. -/
structure LineInv (format : Format) (limits : ControlIpcLimits) (json : Json)
    (input : List UInt8) (s : JsonlServer) : Prop where
  aligned : s.conn.phase.isOver = false →
    splitAfter 0x0A s.unread = (splitAfter 0x0A input).drop s.read
  readable : ∀ k, k < s.read → ∃ text, ReadsAs limits input k text
  phase : InPhase format limits json input s s.conn.phase
  replies : ∀ (i : Nat) (p : JsonlReply), s.conn.replies[i]? = some p → p.req = i ∧
    encodeJsonl (json.writeResponse p.response) limits = .ok p.line ∧
    Answers format limits input s.conn.returned i p.response
  invoked : ∀ k ∈ s.conn.invoked, k < s.read ∧ ∃ r, Says format limits input k r
  ordered : s.conn.invoked.Pairwise (· < ·)
  complete : ∀ k r, k < s.read → Says format limits input k r →
    k ∈ s.conn.invoked ∨ (s.conn.phase = .done (.error .draining) ∧ k + 1 = s.read)

theorem lineInv_start (format : Format) (limits : ControlIpcLimits) (json : Json)
    (input : List UInt8) : LineInv format limits json input (.start input) where
  aligned := fun _ => rfl
  readable := by
    intro k hk
    exact absurd hk (Nat.not_lt_zero k)
  phase := rfl
  replies := by
    intro i p hp
    cases hp
  invoked := by
    intro k hk
    cases hk
  ordered := .nil
  complete := by
    intro k r hk
    exact absurd hk (Nat.not_lt_zero k)

/-- A phase that is not over makes no exception. -/
theorem LineInv.invoked_of_said (h : LineInv format limits json input s)
    (hphase : s.conn.phase.isOver = false) {r : ControlRequest} (hk : k < s.read)
    (hsaid : Says format limits input k r) : k ∈ s.conn.invoked := by
  rcases h.complete k r hk hsaid with hmem | ⟨hdone, -⟩
  · exact hmem
  · rw [hdone] at hphase
    cases hphase

/-- A reply is written behind those of the lines before. -/
theorem LineInv.replies_concat (h : LineInv format limits json input s) {response : ControlResponse}
    {line : List UInt8} (hphase : s.conn.phase = .writing k response line) :
    ∀ (i : Nat) (p : JsonlReply), (s.conn.replies ++ [⟨k, response, line⟩])[i]? = some p →
      p.req = i ∧ encodeJsonl (json.writeResponse p.response) limits = .ok p.line ∧
      Answers format limits input s.conn.returned i p.response := by
  intro i p hp
  have hin := h.phase
  rw [hphase] at hin
  obtain ⟨-, hlength, hanswers, hencoded⟩ := hin
  rcases ListUpdate.getElem?_concat_inv hp with hold | ⟨rfl, rfl⟩
  · exact h.replies i p hold
  · rw [hlength]
    exact ⟨rfl, hencoded, hanswers⟩

/-- **A LINE** is handled, answered or refused. -/
theorem LineInv.line (h : LineInv format limits json input s) {text rest : List UInt8}
    (hphase : s.conn.phase = .waiting)
    (hread : readJsonlLine limits s.unread = (.ok (some text), rest)) :
    LineInv format limits json input
      ⟨s.conn.onLine (lineCfg format limits json) s.read text, rest, s.read + 1⟩ := by
  have hlength := h.phase
  rw [hphase] at hlength
  have haligned := h.aligned (by rw [hphase]; rfl)
  obtain ⟨htext, hrest⟩ := readsAs_of_read haligned hread
  have hreadable : ∀ k, k < s.read + 1 → ∃ text, ReadsAs limits input k text := by
    intro k hk
    rcases Nat.lt_succ_iff_lt_or_eq.mp hk with hlt | rfl
    · exact h.readable k hlt
    · exact ⟨text, htext⟩
  have hinvoked : ∀ k ∈ s.conn.invoked, k < s.read + 1 ∧ ∃ r, Says format limits input k r := by
    intro k hk
    obtain ⟨hlt, hsaid⟩ := h.invoked k hk
    exact ⟨Nat.lt_succ_of_lt hlt, hsaid⟩
  have hearlier : ∀ k r, k < s.read → Says format limits input k r → k ∈ s.conn.invoked := by
    intro k r hlt hsaid
    exact h.invoked_of_said (by rw [hphase]; rfl) hlt hsaid
  rw [JsonlConn.onLine]
  split
  · -- drain began while the line was read
    refine ⟨by rintro ⟨⟩, hreadable, trivial, h.replies, hinvoked, h.ordered, ?_⟩
    intro k r hk hsaid
    rcases Nat.lt_succ_iff_lt_or_eq.mp hk with hlt | rfl
    · exact .inl (hearlier k r hlt hsaid)
    · exact .inr ⟨rfl, rfl⟩
  · split
    · rename_i error hdecode
      have hnone : ∀ r, ¬ Says format limits input s.read r := by
        intro r hsaid
        have hdecoded := (said_iff_decode htext).mp hsaid
        have hrefused : decodeJsonl (format.read? ControlRequest.deserialize) text limits
            = .error error := hdecode
        rw [hrefused] at hdecoded
        cases hdecoded
      refine ⟨fun _ => hrest, hreadable, ⟨rfl, hlength, .inr ⟨hnone, _, rfl⟩⟩, h.replies, hinvoked,
        h.ordered, ?_⟩
      intro k r hk hsaid
      rcases Nat.lt_succ_iff_lt_or_eq.mp hk with hlt | rfl
      · exact .inl (hearlier k r hlt hsaid)
      · exact absurd hsaid (hnone r)
    · rename_i request hdecode
      have hrequest : Says format limits input s.read request :=
        (said_iff_decode htext).mpr hdecode
      refine ⟨fun _ => hrest, hreadable, ⟨rfl, hlength, hrequest⟩, h.replies, ?_, ?_, ?_⟩
      · intro k hk
        rcases List.mem_append.mp hk with hold | hnew
        · exact hinvoked k hold
        · obtain rfl := List.mem_singleton.mp hnew
          exact ⟨Nat.lt_succ_self _, request, hrequest⟩
      · refine List.pairwise_append.mpr ⟨h.ordered, List.pairwise_singleton _ _, ?_⟩
        intro a ha b hb
        obtain rfl := List.mem_singleton.mp hb
        exact (h.invoked a ha).1
      · intro k r hk hsaid
        left
        rcases Nat.lt_succ_iff_lt_or_eq.mp hk with hlt | rfl
        · exact List.mem_append_left _ (hearlier k r hlt hsaid)
        · exact List.mem_append_right _ (List.mem_singleton_self _)

theorem LineInv.preserved (h : LineInv format limits json input s)
    (m : ServeMove (lineCfg format limits json) s s') : LineInv format limits json input s' := by
  have hin := h.phase
  -- a phase that ends the connection keeps what was invoked
  have hkept : s.conn.phase.isOver = false → ∀ k r, k < s.read → Says format limits input k r →
      ∀ {p : Prop}, k ∈ s.conn.invoked ∨ p :=
    fun hphase k r hk hsaid => .inl (h.invoked_of_said hphase hk hsaid)
  cases m with
  | line text rest hphase hread => exact h.line hphase hread
  | ended result rest hphase =>
      have hover : s.conn.phase.isOver = false := by
        rw [hphase]
        rfl
      exact ⟨by rintro ⟨⟩, h.readable, trivial, h.replies, h.invoked, h.ordered,
        fun k r hk hsaid => hkept hover k r hk hsaid⟩
  | drain => exact ⟨h.aligned, h.readable, h.phase, h.replies, h.invoked, h.ordered, h.complete⟩
  | handled k request response hphase =>
      rw [hphase] at hin
      obtain ⟨hk, hlength, hsaid⟩ := hin
      have hover : s.conn.phase.isOver = false := by
        rw [hphase]
        rfl
      refine ⟨fun _ => h.aligned hover, h.readable, ⟨hk, hlength, .inl ⟨⟨request, hsaid⟩, ?_⟩⟩, ?_,
        h.invoked, h.ordered, fun k r hk hsaid => hkept hover k r hk hsaid⟩
      · exact List.mem_append_right _ (List.mem_singleton_self _)
      · intro i p hp
        obtain ⟨hreq, hencoded, hanswers⟩ := h.replies i p hp
        exact ⟨hreq, hencoded, hanswers.mono _⟩
  | panicked k request hphase =>
      have hover : s.conn.phase.isOver = false := by
        rw [hphase]
        rfl
      exact ⟨by rintro ⟨⟩, h.readable, trivial, h.replies, h.invoked, h.ordered,
        fun k r hk hsaid => hkept hover k r hk hsaid⟩
  | encodeFailed k response e hphase =>
      have hover : s.conn.phase.isOver = false := by
        rw [hphase]
        rfl
      exact ⟨by rintro ⟨⟩, h.readable, trivial, h.replies, h.invoked, h.ordered,
        fun k r hk hsaid => hkept hover k r hk hsaid⟩
  | encoded k response line hphase hencoded =>
      rw [hphase] at hin
      obtain ⟨hk, hlength, hanswers⟩ := hin
      have hover : s.conn.phase.isOver = false := by
        rw [hphase]
        rfl
      exact ⟨fun _ => h.aligned hover, h.readable, ⟨hk, hlength, hanswers, hencoded⟩, h.replies,
        h.invoked, h.ordered, fun k r hk hsaid => hkept hover k r hk hsaid⟩
  | written k response line hphase =>
      have hconcat := h.replies_concat hphase
      rw [hphase] at hin
      obtain ⟨hk, hlength, -⟩ := hin
      have hover : s.conn.phase.isOver = false := by
        rw [hphase]
        rfl
      refine ⟨fun _ => h.aligned hover, h.readable, ?_, hconcat, h.invoked, h.ordered,
        fun k r hk hsaid => hkept hover k r hk hsaid⟩
      show (s.conn.replies ++ [_]).length = s.read
      rw [List.length_append, hlength]
      exact hk
  | writeFailed k response line sent e hphase =>
      have hconcat := h.replies_concat hphase
      have hover : s.conn.phase.isOver = false := by
        rw [hphase]
        rfl
      refine ⟨by rintro ⟨⟩, h.readable, trivial, ?_, h.invoked, h.ordered,
        fun k r hk hsaid => hkept hover k r hk hsaid⟩
      intro i p hp
      cases sent with
      | true => exact hconcat i p hp
      | false => exact h.replies i p hp

theorem lineInv_of_reaches
    (h : Reaches (serveStep (lineCfg format limits json)) Free (.start input) s) :
    LineInv format limits json input s := by
  refine h.invariant (P := LineInv format limits json input) (lineInv_start ..) ?_
  intro s e s' hinv _ hs
  exact hinv.preserved (serveStep_move hs)

/-- What is asked of a server. -/
structure LineLaw (format : Format) (limits : ControlIpcLimits) (json : Json)
    (input : List UInt8) (s : JsonlServer) : Prop where
  /-- The handler is called with what the line in hand says, -/
  called : ∀ k r, s.conn.phase = .handling k r → k + 1 = s.read ∧ Says format limits input k r
  /-- for the lines that say a request only, in their order, -/
  invoked : s.conn.invoked.Pairwise (· < ·) ∧
    ∀ k ∈ s.conn.invoked, k < s.read ∧ ∃ r, Says format limits input k r
  /-- and for each of them but a last one that was read after the drain began; -/
  complete : ∀ k r, k < s.read → Says format limits input k r →
    k ∈ s.conn.invoked ∨ (s.conn.phase = .done (.error .draining) ∧ k + 1 = s.read)
  /-- reply `i` is the line of the answer to line `i`; -/
  replies : ∀ (i : Nat) (p : JsonlReply), s.conn.replies[i]? = some p → p.req = i ∧
    encodeJsonl (json.writeResponse p.response) limits = .ok p.line ∧
    Answers format limits input s.conn.returned i p.response
  /-- before the next line is read, all lines are answered; -/
  answered : s.conn.phase = .waiting → s.conn.replies.length = s.read
  /-- and the next line is read, or it is none within the limit and UTF-8 and ends
      the connection. -/
  next : ∀ s', serveStep (lineCfg format limits json) s .read = some s' →
    ((∃ text, ReadsAs limits input s.read text) ∧ s'.read = s.read + 1) ∨
      ((∀ text, ¬ ReadsAs limits input s.read text) ∧ s'.read = s.read ∧
        ∃ result, s'.conn.phase = .done result)

/-- The next line. -/
theorem LineInv.next (h : LineInv format limits json input s)
    (hstep : serveStep (lineCfg format limits json) s .read = some s') :
    ((∃ text, ReadsAs limits input s.read text) ∧ s'.read = s.read + 1) ∨
      ((∀ text, ¬ ReadsAs limits input s.read text) ∧ s'.read = s.read ∧
        ∃ result, s'.conn.phase = .done result) := by
  have haligned : s.conn.phase = .waiting →
      splitAfter 0x0A s.unread = (splitAfter 0x0A input).drop s.read := by
    intro hphase
    refine h.aligned ?_
    rw [hphase]
    rfl
  have hnone : s.conn.phase = .waiting → ∀ {outcome : Except IpcError (Option (List UInt8))},
      (readJsonlLine limits s.unread).1 = outcome → (∀ text, outcome ≠ .ok (some text)) →
      ∀ text, ¬ ReadsAs limits input s.read text := by
    intro hphase outcome hread hne text htext
    rw [read_of_readsAs (haligned hphase) htext] at hread
    exact hne text hread.symm
  simp only [serveStep] at hstep
  split at hstep
  · rename_i text rest hread
    obtain ⟨conn, hconn, rfl⟩ := Option.map_eq_some_iff.mp hstep
    simp only [jsonlStep] at hconn
    split at hconn
    · rename_i hphase
      exact .inl ⟨⟨text, (readsAs_of_read (haligned hphase) hread).1⟩, rfl⟩
    · cases hconn
  · rename_i rest hread
    obtain ⟨conn, hconn, rfl⟩ := Option.map_eq_some_iff.mp hstep
    simp only [jsonlStep] at hconn
    split at hconn
    · rename_i hphase
      cases hconn
      refine .inr ⟨hnone hphase (congrArg Prod.fst hread) ?_, rfl, _, rfl⟩
      rintro text ⟨⟩
    · cases hconn
  · rename_i e rest hread
    obtain ⟨conn, hconn, rfl⟩ := Option.map_eq_some_iff.mp hstep
    simp only [jsonlStep] at hconn
    split at hconn
    · rename_i hphase
      cases hconn
      refine .inr ⟨hnone hphase (congrArg Prod.fst hread) ?_, rfl, _, rfl⟩
      rintro text ⟨⟩
    · cases hconn

/-- **REQUEST LINES**, for every stream of bytes and in every run of `serve_jsonl`
    on it: what a line is read as, which lines reach the handler and as which
    request, and what the others are answered; with what does not matter in a
    request, and what its own writer puts down. -/
theorem request_line_law
    (h : Reaches (serveStep (lineCfg format limits json)) Free (.start input) s) :
    LineLaw format limits json input s ∧ WrittenLaw := by
  have hinv := lineInv_of_reaches h
  refine ⟨⟨?_, ⟨hinv.ordered, hinv.invoked⟩, hinv.complete, hinv.replies, ?_, ?_⟩, writtenAs_law⟩
  · intro k r hphase
    have hin := hinv.phase
    rw [hphase] at hin
    exact ⟨hin.1, hin.2.2⟩
  · intro hphase
    have hin := hinv.phase
    rw [hphase] at hin
    exact hin
  · intro s' hstep
    exact hinv.next hstep

end Law

/-! ## A sample stream -/

/-- A request with its fields in another order, one that is unknown, and none for
    `params`. -/
def requestText : List UInt8 :=
  asciiBytes "\x7b\"trace\":1,\"method\":\"health_check\",\"token\":\"t\"\x7d"

/-- A `serde_json` for this request. -/
def requestFormat : Format where
  write _ := .error "not a sample value"
  read bytes :=
    if bytes = requestText then
      .ok (.map [("trace", .int 1), ("method", .str "health_check"), ("token", .str "t")])
    else .error "EOF while parsing an object at line 1 column 1"

/-- And for the responses of the run. -/
def responseJson : Json :=
  { sampleJson with
    writeResponse := fun response =>
      match response.ok with
      | true => writeSampleResponse response
      | false =>
          .ok (asciiBytes "\x7b\"ok\":false,\"error\":\x7b\"code\":\"bad_request\"\x7d\x7d") }

/-- The request, a line that is no JSON, and one that is no UTF-8. -/
def requestLines : List UInt8 := requestText ++ [0x0D, 0x0A, 0x7B, 0x0A, 0xFF, 0x0A]

/-- The server behind them; the last one has ended the connection. -/
def servedLines : JsonlServer :=
  (run (serveStep (lineCfg requestFormat sampleLimits responseJson)) Free (.start requestLines)
    [.read, .conn (.handlerReturn (.okValue (.bool true))), .conn .encode, .conn .write,
      .read, .conn .encode, .conn .write, .read]).getD (.start requestLines)

theorem request_line_law_refused : servedLines.conn.invoked = [0] ∧
    servedLines.conn.replies.length = 2 ∧ servedLines.read = 2 ∧
    servedLines.conn.phase.isOver = true ∧
    LineLaw requestFormat sampleLimits responseJson requestLines servedLines := by
  have hrun : Reaches (serveStep (lineCfg requestFormat sampleLimits responseJson)) Free
      (.start requestLines) servedLines := reaches_getD (by decide)
  exact ⟨by decide, by decide, by decide, by decide, (request_line_law hrun).1⟩

end ServiceJsonl
