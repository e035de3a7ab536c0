import MutsukiServiceHost.ServiceServerLogProofs
import MutsukiServiceHost.ServiceStreamProofs

/-! # Permits and the byte stream — the server's side of `max_in_flight`

    A REQUEST frame is read under a permit of the semaphore `pending_slots`; the
    permit goes with the spawned task and comes back when the task ends, however
    it ends.  A request that finds no permit is thrown away before it is
    answered, so the bytes of its payload have to leave the stream.

    `Feed` is one connection with the bytes the client sends: the loop reads
    headers and payloads off them through `read_frame_prefix` and
    `read_payload_or_discard`.

    * `step_permits` — permits are neither made nor lost.
    * `Aligned` — what was sent is the frames read so far, the header of the
      frame in hand and what is still to be read.
    * `tasks_bounded` — both together, for every stream and every schedule. -/

namespace ServiceServer

open ServiceControl ServiceFrame ListUpdate Transition

/-! ## Permits -/

/-- The loop holds a permit while it reads a payload it will keep. -/
def LoopPhase.holdsPermit : LoopPhase → Bool
  | .reading _ _ => true
  | _ => false

/-- The tasks that have not ended. -/
def ServerConn.liveTasks (s : ServerConn) : Nat := s.tasks.countP (·.phase.live)

/-- The permits there are: free, with a task or with the loop. -/
def ServerConn.permits (s : ServerConn) : Nat :=
  s.slots + s.liveTasks + s.loop.holdsPermit.toNat

/-- The three places a permit can be. -/
theorem permits_congr {s s' : ServerConn} (hslots : s'.slots = s.slots)
    (hlive : s'.liveTasks = s.liveTasks) (hloop : s'.loop.holdsPermit = s.loop.holdsPermit) :
    s'.permits = s.permits := by
  simp only [ServerConn.permits, hslots, hlive, hloop]

/-- A task that moves changes the count by its two phases. -/
theorem liveTasks_modify {s s' : ServerConn} {i : Nat} {t : Task} {f : Task → Task}
    (ht : s.tasks[i]? = some t) (htasks : s'.tasks = s.tasks.modify i f) :
    s'.liveTasks + t.phase.live.toNat = s.liveTasks + (f t).phase.live.toNat := by
  simp only [ServerConn.liveTasks, htasks]
  exact countP_modify ht

/-- The count reads the phases alone. -/
theorem liveTasks_congr {s s' : ServerConn}
    (h : s'.tasks.map Task.phase = s.tasks.map Task.phase) : s'.liveTasks = s.liveTasks := by
  have hmap : ∀ c : ServerConn, c.liveTasks = (c.tasks.map Task.phase).countP TaskPhase.live := by
    intro c
    rw [List.countP_map]
    rfl
  rw [hmap, hmap, h]

theorem phases_removePending (s : ServerConn) (self requestId : Nat) :
    (s.removePending self requestId).tasks.map Task.phase = s.tasks.map Task.phase := by
  simp only [ServerConn.removePending]
  split
  · rfl
  · dsimp only
    split
    · rfl
    · exact map_modify fun t => t.disconnect_same.2.1

/-- The phase of task `i` changes; a task that ends gives its permit back. -/
theorem permits_setPhase {s s₁ s' : ServerConn} {i : Nat} {t : Task} {p : TaskPhase}
    (ht : s.tasks[i]? = some t) (hlive : t.phase.live = true)
    (hphases : s₁.tasks.map Task.phase = s.tasks.map Task.phase)
    (htasks : s'.tasks = (s₁.setPhase i p).tasks)
    (hslots : s'.slots = s.slots + (!p.live).toNat) (hloop : s'.loop = s.loop) :
    s'.permits = s.permits := by
  have hget : (s₁.tasks.map Task.phase)[i]? = some t.phase := by
    rw [hphases, List.getElem?_map, ht]
    rfl
  rw [List.getElem?_map] at hget
  obtain ⟨t₁, ht₁, hp₁⟩ := Option.map_eq_some_iff.mp hget
  have hcount := liveTasks_modify ht₁ htasks
  rw [hp₁, hlive, liveTasks_congr hphases] at hcount
  simp only [ServerConn.permits, hslots, hloop]
  cases hp : p.live <;> simp [hp] at hcount ⊢ <;> omega

theorem taskMove_permits {cfg : ServerCfg} {s s' : ServerConn} {i : Nat} {t : Task}
    {te : TaskEvent} (ht : s.tasks[i]? = some t) (m : TaskMove cfg s i t te s') :
    s'.permits = s.permits := by
  cases m with
  | pollLock hp | pollInvoke hp | acquire hp | handlerReturn _ hp | handlerPanic hp
  | abortSeen hp | encodeFail _ _ hp | encode _ _ hp | lockWriter _ _ hp | flush _ _ hp
  | writeFail _ _ _ hp =>
      exact permits_setPhase ht (by rw [hp]; rfl) rfl rfl rfl rfl
  | write response frame written n hp =>
      exact permits_setPhase (p := .writing response frame (written + n)) ht (by rw [hp]; rfl)
        rfl rfl rfl rfl
  | drop _ hlive => exact permits_setPhase ht hlive rfl rfl rfl rfl
  | remove hp =>
      exact permits_setPhase ht (by rw [hp]; rfl) (phases_removePending s i t.requestId) rfl rfl
        (loop_removePending _ _ _)

/-- The loop answers by itself: no permit moves. -/
theorem permits_reject {cfg : ServerCfg} {s : ServerConn} {header : FrameHeader}
    {method : ControlMethod} {response : ControlResponse} :
    (s.reject cfg header method response).permits = s.slots + s.liveTasks := by
  simp only [ServerConn.reject]
  split <;> rfl

theorem permits_onDiscarded {cfg : ServerCfg} {s : ServerConn} {header : FrameHeader}
    {why : Discard} : (s.onDiscarded cfg header why).permits = s.slots + s.liveTasks := by
  cases why with
  | cancel | notRequest | draining => rfl
  | limited => exact permits_reject

/-- The permit the loop held goes to the task it spawns or comes back. -/
theorem permits_onPayload {cfg : ServerCfg} {s : ServerConn} {header : FrameHeader}
    {payload : List UInt8} :
    (s.onPayload cfg header payload).permits = s.slots + s.liveTasks + 1 := by
  simp only [ServerConn.onPayload]
  split
  · exact Nat.add_right_comm s.slots 1 s.liveTasks
  · split
    · exact permits_reject.trans (Nat.add_right_comm s.slots 1 s.liveTasks)
    · show s.slots + (s.tasks ++ [_]).countP _ + 0 = _
      rw [List.countP_append]
      rfl

/-- A payload is there.  The list of moves leaves the permit open, so this reads
    the step itself. -/
theorem payload_permits {cfg : ServerCfg} {s s' : ServerConn} {bytes : List UInt8}
    (h : loopStep cfg s (.payload bytes) = some s') : s'.permits = s.permits := by
  simp only [loopStep] at h
  split at h
  · rename_i hl
    split at h
    · rw [← Option.some.inj h, permits_onDiscarded]
      simp only [ServerConn.permits, hl]
      rfl
    · cases h
  · rename_i hl
    split at h
    · rw [← Option.some.inj h, permits_onPayload]
      simp only [ServerConn.permits, hl]
      rfl
    · cases h
  · cases h

theorem loopStep_permits {cfg : ServerCfg} {s s' : ServerConn} {le : LoopEvent}
    (h : loopStep cfg s le = some s') : s'.permits = s.permits := by
  cases loopStep_move h with
  | beginDrain => rfl
  | stopReading hl | headerFailed _ hl | toDiscarding _ _ _ hl =>
      exact permits_congr rfl rfl (by rw [hl]; rfl)
  | toReading declared header hl _ hpos =>
      simp only [ServerConn.permits, hl]
      show s.slots - 1 + s.liveTasks + 1 = s.slots + s.liveTasks + 0
      omega
  | discardFailed _ _ _ _ hl | cancelMiss _ hl | rejectLock _ _ _ hl | rejectWrite _ _ _ _ _ hl
  | rejectFlush _ _ _ hl | rejectFail _ _ _ _ _ hl =>
      exact permits_congr rfl rfl (by rw [hl]; rfl)
  | readFailed declared header error hl =>
      simp only [ServerConn.permits, hl]
      exact Nat.add_right_comm s.slots 1 s.liveTasks
  | cancelHit requestId j hl =>
      exact permits_congr rfl (liveTasks_congr (map_modify fun _ => rfl)) (by rw [hl]; rfl)
  | insert i requestId hl =>
      refine permits_congr ?_ (liveTasks_congr (phases_removePending s i requestId)) (by rw [hl]; rfl)
      show (s.removePending i requestId).slots = s.slots
      simp only [ServerConn.removePending]
      split <;> rfl
  | drainSweep hl =>
      refine permits_congr rfl (liveTasks_congr (map_mapIdx ?_)) (by rw [hl]; rfl)
      intro j t
      split <;> rfl
  | toCancelling | notRequest | abandon | reject | spawn => exact payload_permits h

/-- **PERMITS ARE NEITHER MADE NOR LOST.** -/
theorem step_permits {cfg : ServerCfg} {s s' : ServerConn} {e : ServerEvent}
    (h : step cfg s e = some s') : s'.permits = s.permits := by
  cases e with
  | loop le => exact loopStep_permits h
  | task i te =>
      simp only [step] at h
      split at h
      · cases h
      · rename_i t ht
        exact taskMove_permits ht (taskStep_move h)

end ServiceServer

namespace ServiceFeed

open ServiceControl ServiceFrame ServiceServer ListUpdate Transition

/-! ## A connection and its bytes -/

/-- A connection with what the client has sent: the frames the loop has read
    completely, the 28 bytes it has read of the frame in hand, and the bytes it
    has not read.  `sent` and `frames` are histories. -/
structure Feed where
  conn : ServerConn
  sent : List UInt8
  frames : List (List UInt8)
  head : List UInt8
  input : List UInt8

/-- A fresh connection. -/
def Feed.start (cfg : ServerCfg) : Feed := ⟨.start cfg, [], [], [], []⟩

/-- The steps of a connection with its bytes. -/
inductive FeedEvent where
  /-- the client sends bytes, in whatever portions -/
  | arrive (bytes : List UInt8)
  /-- a step of the server that takes nothing off the stream; a read that fails
      is one of them, it ends the loop -/
  | server (e : ServerEvent)
  /-- `read_frame_prefix` -/
  | readHeader
  /-- `read_payload_or_discard` -/
  | readPayload

/-- The server has got something from the stream. -/
def isRead : ServerEvent → Bool
  | .loop (.header _ _) | .loop (.payload _) => true
  | _ => false

/-- The payload of the frame in hand leaves the stream, kept or thrown away. -/
def Feed.consume (cfg : ServerCfg) (f : Feed) (declared : Nat) (header : FrameHeader)
    (allocate : Bool) : Option Feed :=
  match takePayload declared header allocate f.input with
  | .error _ => none
  | .ok (kept, rest) =>
      let payload := kept.getD (f.input.take header.payloadLen)
      (ServiceServer.step cfg f.conn (.loop (.payload payload))).map fun conn =>
        { f with
          conn := conn, frames := f.frames ++ [f.head ++ payload], head := [], input := rest }

/-- One step of a connection with its bytes. -/
def step (cfg : ServerCfg) (f : Feed) : FeedEvent → Option Feed
  | .arrive bytes => some { f with sent := f.sent ++ bytes, input := f.input ++ bytes }
  | .server e =>
      if isRead e then none
      else (ServiceServer.step cfg f.conn e).map fun conn => { f with conn := conn }
  | .readHeader =>
      match readFramePrefix cfg.limits f.input with
      | .ok (some (declared, header, rest)) =>
          (ServiceServer.step cfg f.conn (.loop (.header declared header))).map fun conn =>
            { f with
              conn := conn
              head := f.input.take (binaryLengthPrefixLen + binaryHeaderLen)
              input := rest }
      | _ => none
  | .readPayload =>
      match f.conn.loop with
      | .discarding declared header _ => f.consume cfg declared header false
      | .reading declared header => f.consume cfg declared header true
      | _ => none

/-- The header of the frame in the loop's hands. -/
def inHand : LoopPhase → Option (Nat × FrameHeader)
  | .discarding declared header _ => some (declared, header)
  | .reading declared header => some (declared, header)
  | _ => none

/-- The moves of a connection with its bytes. -/
inductive FeedMove (cfg : ServerCfg) (f : Feed) : Feed → Prop where
  | arrive (bytes : List UInt8) :
      FeedMove cfg f { f with sent := f.sent ++ bytes, input := f.input ++ bytes }
  | server (e : ServerEvent) (conn : ServerConn) : isRead e = false →
      ServiceServer.step cfg f.conn e = some conn → FeedMove cfg f { f with conn := conn }
  | header (declared : Nat) (header : FrameHeader) (rest : List UInt8) (conn : ServerConn) :
      readFramePrefix cfg.limits f.input = .ok (some (declared, header, rest)) →
      ServiceServer.step cfg f.conn (.loop (.header declared header)) = some conn →
      FeedMove cfg f
        { f with
          conn := conn
          head := f.input.take (binaryLengthPrefixLen + binaryHeaderLen)
          input := rest }
  | payload (declared : Nat) (header : FrameHeader) (payload rest : List UInt8)
      (conn : ServerConn) : inHand f.conn.loop = some (declared, header) →
      payload.length = header.payloadLen → declared = binaryHeaderLen + header.payloadLen →
      f.input = payload ++ rest →
      ServiceServer.step cfg f.conn (.loop (.payload payload)) = some conn →
      FeedMove cfg f
        { f with
          conn := conn, frames := f.frames ++ [f.head ++ payload], head := [], input := rest }

/-- Kept or thrown away, the payload is the next `payload_len` bytes. -/
theorem consume_move {cfg : ServerCfg} {f f' : Feed} {declared : Nat} {header : FrameHeader}
    {allocate : Bool} (hl : inHand f.conn.loop = some (declared, header))
    (h : f.consume cfg declared header allocate = some f') : FeedMove cfg f f' := by
  simp only [Feed.consume] at h
  split at h
  · exact nomatch h
  · rename_i kept rest htake
    obtain ⟨hdecl, payload, hlen, hinput, rfl⟩ := takePayload_ok htake
    -- what a discarding read did not keep is what stood in front of the rest
    have hsame : (if allocate then some payload else none).getD
        (f.input.take header.payloadLen) = payload := by
      cases allocate with
      | true => rfl
      | false =>
          show f.input.take header.payloadLen = payload
          rw [hinput, ← hlen]
          exact List.take_left
    rw [hsame] at h
    obtain ⟨conn, hconn, rfl⟩ := Option.map_eq_some_iff.mp h
    exact .payload declared header payload rest conn hl hlen hdecl hinput hconn

theorem step_move {cfg : ServerCfg} {f f' : Feed} {e : FeedEvent} (h : step cfg f e = some f') :
    FeedMove cfg f f' := by
  cases e with
  | arrive bytes =>
      cases h
      exact .arrive bytes
  | server e =>
      simp only [step] at h
      split at h
      · exact nomatch h
      · rename_i hr
        obtain ⟨conn, hconn, rfl⟩ := Option.map_eq_some_iff.mp h
        exact .server e conn (by simpa using hr) hconn
  | readHeader =>
      simp only [step] at h
      split at h
      · rename_i declared header rest hread
        obtain ⟨conn, hconn, rfl⟩ := Option.map_eq_some_iff.mp h
        exact .header declared header rest conn hread hconn
      · exact nomatch h
  | readPayload =>
      simp only [step] at h
      split at h
      · rename_i hl
        exact consume_move (by rw [hl]; rfl) h
      · rename_i hl
        exact consume_move (by rw [hl]; rfl) h
      · exact nomatch h

/-- The connection's permits are as many as there are places. -/
theorem permits_kept {cfg : ServerCfg} {f f' : Feed} {e : FeedEvent} (h : step cfg f e = some f') :
    f'.conn.permits = f.conn.permits := by
  cases step_move h with
  | arrive => rfl
  | server e conn _ hs | header _ _ _ conn _ hs | payload _ _ _ _ conn _ _ _ _ hs =>
      exact step_permits hs

/-! ## Alignment -/

/-- The loop is between two frames. -/
def between : LoopPhase → Bool
  | .waiting | .cancelling _ | .rejecting _ _ _ | .rejectWriting _ _ _ _ | .inserting _ _ => true
  | _ => false

/-- A frame whose length prefix says how long it is. -/
def Delimited (frame : List UInt8) : Prop :=
  frame.length = binaryLengthPrefixLen + fromBeBytes (frame.take binaryLengthPrefixLen)

/-- A step that reads nothing neither takes a frame into the loop's hands nor
    brings the loop between two frames. -/
theorem unread_loop {cfg : ServerCfg} {s s' : ServerConn} {e : ServerEvent}
    (hr : isRead e = false) (h : ServiceServer.step cfg s e = some s') :
    (∀ p, inHand s'.loop = some p → inHand s.loop = some p) ∧
      (between s'.loop = true → between s.loop = true) := by
  rcases ServiceServer.step_move h with ⟨le, rfl, m⟩ | ⟨i, t, te, rfl, ht, m⟩
  · cases m with
    | beginDrain => exact ⟨fun _ => id, id⟩
    | stopReading | headerFailed | discardFailed | readFailed | rejectFail | drainSweep =>
        exact ⟨nofun, nofun⟩
    | toDiscarding | toReading | toCancelling | notRequest | abandon | reject | spawn =>
        exact nomatch hr
    | cancelMiss _ hl | cancelHit _ _ hl | insert _ _ hl | rejectLock _ _ _ hl
    | rejectWrite _ _ _ _ _ hl | rejectFlush _ _ _ hl =>
        exact ⟨nofun, fun _ => by rw [hl]; rfl⟩
  · rw [(taskMove_loop m).1]
    exact ⟨fun _ => id, id⟩

theorem header_loop {cfg : ServerCfg} {s s' : ServerConn} {declared : Nat} {header : FrameHeader}
    (h : ServiceServer.step cfg s (.loop (.header declared header)) = some s') :
    s.loop = .waiting ∧ inHand s'.loop = some (declared, header) ∧ between s'.loop = false := by
  rcases ServiceServer.step_move h with ⟨le, he, m⟩ | ⟨i, t, te, he, ht, m⟩
  · cases he
    cases m with
    | toDiscarding _ _ _ hl => exact ⟨hl, rfl, rfl⟩
    | toReading _ _ hl => exact ⟨hl, rfl, rfl⟩
  · exact nomatch he

theorem payload_loop {cfg : ServerCfg} {s s' : ServerConn} {bytes : List UInt8}
    (h : ServiceServer.step cfg s (.loop (.payload bytes)) = some s') : inHand s'.loop = none := by
  rcases ServiceServer.step_move h with ⟨le, he, m⟩ | ⟨i, t, te, he, ht, m⟩
  · cases he
    cases m with
    | toCancelling | notRequest | abandon | reject | spawn => rfl
  · exact nomatch he

/-- What was sent, cut where the loop has cut it. -/
structure Aligned (f : Feed) : Prop where
  bytes : f.sent = f.frames.flatten ++ (f.head ++ f.input)
  delimited : ∀ frame ∈ f.frames, Delimited frame
  inHand : ∀ (declared : Nat) (header : FrameHeader),
    ServiceFeed.inHand f.conn.loop = some (declared, header) →
    f.head.length = binaryLengthPrefixLen + binaryHeaderLen ∧
      fromBeBytes (f.head.take binaryLengthPrefixLen) = declared
  between : ServiceFeed.between f.conn.loop = true → f.head = []

theorem aligned_start (cfg : ServerCfg) : Aligned (.start cfg) where
  bytes := rfl
  delimited := nofun
  inHand := nofun
  between := fun _ => rfl

theorem Aligned.preserved {cfg : ServerCfg} {f f' : Feed} {e : FeedEvent} (h : Aligned f)
    (hs : step cfg f e = some f') : Aligned f' := by
  cases step_move hs with
  | arrive bytes =>
      refine ⟨?_, h.delimited, h.inHand, h.between⟩
      show f.sent ++ bytes = _
      rw [h.bytes]
      simp only [List.append_assoc]
  | server e conn hr hconn =>
      obtain ⟨hin, hbet⟩ := unread_loop hr hconn
      exact ⟨h.bytes, h.delimited, fun d hd hl => h.inHand d hd (hin _ hl),
        fun hb => h.between (hbet hb)⟩
  | header declared header rest conn hread hconn =>
      obtain ⟨hwait, hin, hbet⟩ := header_loop hconn
      obtain ⟨-, hdecl, hrest⟩ := readFramePrefix_ok hread
      have hlen := readFramePrefix_length hread
      have hnil : f.head = [] := h.between (by rw [hwait]; rfl)
      refine ⟨?_, h.delimited, ?_, ?_⟩
      · show f.sent = f.frames.flatten ++ (f.input.take 28 ++ rest)
        rw [h.bytes, hnil, hrest, List.take_append_drop]
        rfl
      · intro d hd hl
        rw [hin] at hl
        cases hl
        refine ⟨by rw [List.length_take]; omega, ?_⟩
        rw [hdecl, List.take_take]
        rfl
      · intro hb
        rw [hbet] at hb
        exact nomatch hb
  | payload declared header payload rest conn hl hlen hdecl hinput hconn =>
      obtain ⟨hhead, hprefix⟩ := h.inHand declared header hl
      have hnone := payload_loop hconn
      refine ⟨?_, ?_, ?_, fun _ => rfl⟩
      · show f.sent = (f.frames ++ [f.head ++ payload]).flatten ++ ([] ++ rest)
        rw [h.bytes, hinput]
        simp
      · intro frame hmem
        rcases List.mem_append.mp hmem with hmem | hmem
        · exact h.delimited frame hmem
        · -- the frame just read is as long as its prefix said
          cases List.mem_singleton.mp hmem
          have htake : (f.head ++ payload).take binaryLengthPrefixLen
              = f.head.take binaryLengthPrefixLen :=
            List.take_append_of_le_length (by rw [hhead]; exact Nat.le_add_right _ _)
          rw [Delimited, htake, hprefix, List.length_append, hhead, hlen, hdecl, Nat.add_assoc]
      · intro d hd hl'
        rw [hnone] at hl'
        exact nomatch hl'

/-- Delimited frames in front of a stream of delimited frames are its first
    frames. -/
theorem delimited_split {frames fs : List (List UInt8)} {rest : List UInt8}
    (hframes : ∀ frame ∈ frames, Delimited frame) (hfs : ∀ frame ∈ fs, Delimited frame)
    (h : frames.flatten ++ rest = fs.flatten) :
    ∃ n, frames = fs.take n ∧ rest = (fs.drop n).flatten := by
  induction frames generalizing fs with
  | nil => exact ⟨0, rfl, h⟩
  | cons g gs ih =>
      have hg := hframes g List.mem_cons_self
      cases fs with
      | nil =>
          -- a delimited frame is not empty
          have hnil : g = [] := by
            simp only [List.flatten_cons, List.flatten_nil, List.append_eq_nil_iff] at h
            exact h.1.1
          rw [hnil] at hg
          exact nomatch hg
      | cons f fs =>
          have hf := hfs f List.mem_cons_self
          rw [List.flatten_cons, List.flatten_cons, List.append_assoc] at h
          have hlen : ∀ frame : List UInt8, Delimited frame →
              binaryLengthPrefixLen ≤ frame.length := by
            intro frame hd
            rw [hd]
            exact Nat.le_add_right _ _
          -- both start with the same prefix, so they are equally long
          have htake : g.take binaryLengthPrefixLen = f.take binaryLengthPrefixLen := by
            have := congrArg (List.take binaryLengthPrefixLen) h
            rwa [List.take_append_of_le_length (hlen g hg),
              List.take_append_of_le_length (hlen f hf)] at this
          have hsame : g.length = f.length := by rw [hg, hf, htake]
          obtain ⟨rfl, hrest⟩ := List.append_inj h hsame
          obtain ⟨n, rfl, hdrop⟩ := ih (fun x hx => hframes x (List.mem_cons_of_mem g hx))
            (fun x hx => hfs x (List.mem_cons_of_mem g hx)) hrest
          exact ⟨n + 1, rfl, hdrop⟩

theorem between_of_rejects {p : LoopPhase} (h : p.rejects ≠ none) : between p = true := by
  cases p with
  | rejecting | rejectWriting => rfl
  | waiting | discarding | reading | cancelling | inserting | draining | done => exact absurd rfl h

/-- The loop takes up the answer to a request it throws away only when the
    payload has left the stream. -/
theorem rejected_consumed {cfg : ServerCfg} {f f' : Feed} {e : FeedEvent} {declared : Nat}
    {header : FrameHeader} {why : Discard} (hl : f.conn.loop = .discarding declared header why)
    (hs : step cfg f e = some f') (hrej : f'.conn.loop.rejects ≠ none) :
    ∃ payload, payload.length = header.payloadLen ∧ f.input = payload ++ f'.input ∧
      f'.frames = f.frames ++ [f.head ++ payload] := by
  cases step_move hs with
  | arrive bytes =>
      rw [show f.conn.loop = _ from hl] at hrej
      exact absurd rfl hrej
  | server e conn hr hconn =>
      have := (unread_loop hr hconn).2 (between_of_rejects hrej)
      rw [hl] at this
      exact nomatch this
  | header declared' header' rest conn hread hconn =>
      have hwait := (header_loop hconn).1
      rw [hl] at hwait
      exact nomatch hwait
  | payload declared' header' payload rest conn hin hlen hdecl hinput hconn =>
      rw [hl] at hin
      cases hin
      exact ⟨payload, hlen, hinput, rfl⟩

/-- **THE SERVER'S BOUND**: whatever the client sends and however the tasks are
    scheduled, at most `max_in_flight` tasks are alive; a request turned away at
    the limit has its payload taken off the stream; and between two frames the
    loop stands at the first byte of the next frame the client sent. -/
theorem tasks_bounded {cfg : ServerCfg} {f : Feed}
    (h : Reaches (step cfg) Free (.start cfg) f) :
    f.conn.liveTasks ≤ cfg.limits.maxInFlight ∧
      (∀ (declared : Nat) (header : FrameHeader) (e : FeedEvent) (f' : Feed),
        f.conn.loop = .discarding declared header .limited → step cfg f e = some f' →
        f'.conn.loop.rejects ≠ none → ∃ payload, payload.length = header.payloadLen ∧
          f.input = payload ++ f'.input ∧ f'.frames = f.frames ++ [f.head ++ payload]) ∧
      (between f.conn.loop = true → ∀ (fs : List (List UInt8)) (tail : List UInt8),
        (∀ frame ∈ fs, Delimited frame) → f.sent ++ tail = fs.flatten →
        ∃ n, f.frames = fs.take n ∧ f.input ++ tail = (fs.drop n).flatten) := by
  have hpermits : f.conn.permits = cfg.limits.maxInFlight := by
    refine h.invariant (P := fun f => f.conn.permits = cfg.limits.maxInFlight) rfl ?_
    intro f e f' hf _ hs
    exact (permits_kept hs).trans hf
  have haligned : Aligned f := by
    refine h.invariant (P := Aligned) (aligned_start cfg) ?_
    intro f e f' hf _ hs
    exact hf.preserved hs
  refine ⟨?_, ?_, ?_⟩
  · simp only [ServerConn.permits] at hpermits
    omega
  · intro declared header e f' hl hs hrej
    exact rejected_consumed hl hs hrej
  · intro hb fs tail hfs hsent
    refine delimited_split haligned.delimited hfs ?_
    rw [← hsent, haligned.bytes, haligned.between hb]
    simp only [List.append_assoc, List.nil_append]

/-- A server with one place. -/
def narrowCfg : ServerCfg := ⟨{ sampleLimits with maxInFlight := 1 }, sampleCodec⟩

/-- Three REQUEST frames. -/
def threeRequests : List (List UInt8) :=
  [1, 2, 3].map fun id => frameBytes (ControlMethod.opcode .healthCheck) .request id samplePayload

/-- The first request has its task, the second one is being turned away, the
    third one is still to be read. -/
def turnedAwayFeed : Feed :=
  (run (step narrowCfg) Free (.start narrowCfg)
    [.arrive threeRequests.flatten, .readHeader, .readPayload, .server (.loop .insertPending),
      .readHeader, .readPayload]).getD (.start narrowCfg)

theorem tasks_bounded_sample :
    Reaches (step narrowCfg) Free (.start narrowCfg) turnedAwayFeed ∧
      turnedAwayFeed.conn.liveTasks ≤ 1 ∧ turnedAwayFeed.conn.loop.rejects = some 1 ∧
      ∃ n, turnedAwayFeed.frames = threeRequests.take n ∧
        turnedAwayFeed.input ++ [] = (threeRequests.drop n).flatten := by
  have hrun : Reaches (step narrowCfg) Free (.start narrowCfg) turnedAwayFeed :=
    reaches_getD (by decide +kernel)
  have hfs : ∀ frame ∈ threeRequests, Delimited frame :=
    List.forall_mem_cons.mpr ⟨rfl, List.forall_mem_cons.mpr ⟨rfl,
      List.forall_mem_cons.mpr ⟨rfl, nofun⟩⟩⟩
  obtain ⟨hbound, -, hnext⟩ := tasks_bounded hrun
  exact ⟨hrun, hbound, by decide +kernel,
    hnext (by decide +kernel) threeRequests [] hfs (by decide +kernel)⟩

end ServiceFeed
