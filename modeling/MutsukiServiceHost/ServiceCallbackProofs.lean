import Mathlib.Algebra.Group.Nat.Defs
import Mathlib.Data.List.Basic
import Mathlib.Logic.Function.Basic
import MutsukiServiceHost.TransitionProofs

/-! # The callback stream of an ABI v2 plugin

    A writer routes request frames to two lanes, five workers hand them to the
    plugin's callback, and a reader turns the frames they send back into a
    stream of bytes.  The workers share one response channel; the reader's two
    interfaces share one cursor.  A callback that fails comes back as an empty
    frame, which is also how `Read` and `BufRead` say that a stream has ended.

    * `call_spec` — what one call of the reader takes off the stream, and that
      only an empty frame makes it report an end.
    * `callback_stream_law` — in every run in which each callback answers with
      bytes, the bytes come in order and no end is reported while a worker may
      still answer. -/

namespace ServiceCallback

open Transition

/-! ## Frames -/

/-- A request or response frame. -/
abbrev Frame : Type := List UInt8

/-- The two queues of `callback_io`. -/
inductive Lane where
  | work
  | management
  deriving DecidableEq, Repr

/-- `WORK_QUEUE_LIMIT` and `MANAGEMENT_QUEUE_LIMIT`. -/
def Lane.limit : Lane → Nat
  | .work => 56
  | .management => 8

/-- What the plugin's callback returns: a status, and a buffer of `len` bytes at
    `ptr`, which is `none` for the null pointer. -/
structure CallbackResult where
  status : Int
  len : Nat
  ptr : Option (Vector UInt8 len)

/-- The check of the pointer and length pair in `invoke`. -/
def CallbackResult.valid (result : CallbackResult) : Bool :=
  (result.len == 0 && result.ptr.isNone) || (0 < result.len && result.ptr.isSome)

/-- `as_slice` of the payload. -/
def CallbackResult.payload (result : CallbackResult) : Frame :=
  (result.ptr.map Vector.toList).getD []

/-- `invoke`, after the callback has returned. -/
def invoke (result : CallbackResult) : Frame :=
  if !result.valid then []
  else
    let response := result.payload
    if result.status = 0 then response else []

/-- The callback succeeds with at least one byte. -/
structure Answers (result : CallbackResult) : Prop where
  status : result.status = 0
  len : 0 < result.len
  ptr : result.ptr.isSome = true

instance (result : CallbackResult) : Decidable (Answers result) :=
  decidable_of_iff (result.status = 0 ∧ 0 < result.len ∧ result.ptr.isSome = true)
    ⟨fun h => ⟨h.1, h.2.1, h.2.2⟩, fun h => ⟨h.status, h.len, h.ptr⟩⟩

/-- Every other result becomes the empty frame. -/
theorem invoke_ne_nil_iff {result : CallbackResult} : invoke result ≠ [] ↔ Answers result := by
  obtain ⟨status, len, ptr⟩ := result
  constructor
  · intro h
    by_cases hvalid : CallbackResult.valid ⟨status, len, ptr⟩ = true
    · by_cases hstatus : status = 0
      · cases ptr with
        | none =>
            rw [invoke, hvalid, if_neg (by decide), if_pos hstatus] at h
            exact absurd rfl h
        | some bytes =>
            refine ⟨hstatus, ?_, rfl⟩
            simpa [CallbackResult.valid] using hvalid
      · rw [invoke, hvalid, if_neg (by decide), if_neg hstatus] at h
        exact absurd rfl h
    · rw [invoke, Bool.not_eq_true _ |>.mp hvalid, if_pos (by decide)] at h
      exact absurd rfl h
  · rintro ⟨hstatus, hlen, hptr⟩
    cases ptr with
    | none => exact nomatch hptr
    | some bytes =>
        have hvalid : CallbackResult.valid ⟨status, len, some bytes⟩ = true := by
          simpa [CallbackResult.valid] using hlen
        rw [invoke, hvalid, if_neg (by decide), if_pos hstatus]
        intro hnil
        have hbytes : bytes.toList.length = len := Vector.length_toList
        rw [show bytes.toList = [] from hnil] at hbytes
        exact absurd hbytes.symm (Nat.pos_iff_ne_zero.mp hlen)

/-! ## The reader -/

/-- `CallbackReader`, whose cursor is the frame it stands in and a position. -/
structure CallbackReader where
  current : Frame
  position : Nat

/-- What the cursor has not read yet. -/
def CallbackReader.remaining (r : CallbackReader) : List UInt8 := r.current.drop r.position

/-- `recv` on a channel that holds `responses` and may have senders alive; `none`
    while it waits, `some none` when the channel is closed. -/
def recv (alive : Bool) : List Frame → Option (Option (Frame × List Frame))
  | frame :: responses => some (some (frame, responses))
  | [] => if alive then none else some none

/-- `refill`; `none` while it waits, `some none` for `UnexpectedEof`. -/
def CallbackReader.refill (r : CallbackReader) (responses : List Frame) (alive : Bool) :
    Option (Option (CallbackReader × List Frame)) :=
  if r.current.length ≤ r.position then
    (recv alive responses).map (Option.map fun received => (⟨received.1, 0⟩, received.2))
  else some (some (r, responses))

/-- A call of the two interfaces. -/
inductive ReaderCall where
  | read (capacity : Nat)
  | fillBuf
  | consume (amount : Nat)
  deriving DecidableEq, Repr

/-- What a call returns: the bytes `read` has put into the buffer or `fill_buf`
    shows, an error, or nothing. -/
inductive Answer where
  | bytes (content : List UInt8)
  | unexpectedEof
  | consumed
  deriving DecidableEq, Repr

/-- A call that has returned, with the bytes it has taken off the stream. -/
structure Returned where
  answer : Answer
  taken : List UInt8
  reader : CallbackReader
  responses : List Frame

/-- `read`, `fill_buf` and `consume`; `none` while the call waits, and for a
    `consume` whose sum overflows. -/
def CallbackReader.call (r : CallbackReader) (responses : List Frame) (alive : Bool) :
    ReaderCall → Option Returned
  | .read capacity =>
      (r.refill responses alive).map fun
        | none => ⟨.unexpectedEof, [], r, responses⟩
        | some (r, responses) =>
            let content := r.remaining.take capacity
            ⟨.bytes content, content, ⟨r.current, r.position + content.length⟩, responses⟩
  | .fillBuf =>
      (r.refill responses alive).map fun
        | none => ⟨.unexpectedEof, [], r, responses⟩
        | some (r, responses) => ⟨.bytes r.remaining, [], r, responses⟩
  | .consume amount =>
      if r.position + amount < 2 ^ 64 then
        some ⟨.consumed, r.remaining.take amount, ⟨r.current, r.position + amount⟩, responses⟩
      else none

/-- `Ok(0)` for a buffer with room, or an empty `fill_buf`. -/
def endOfStream : ReaderCall → Answer → Bool
  | .read capacity, .bytes content => 0 < capacity && content.isEmpty
  | .fillBuf, .bytes content => content.isEmpty
  | _, _ => false

/-- A refill loses nothing, and finds nothing to read only in an empty frame. -/
theorem CallbackReader.refill_spec {r r' : CallbackReader} {responses responses' : List Frame}
    {alive : Bool} (h : r.refill responses alive = some (some (r', responses'))) :
    r'.remaining ++ responses'.flatten = r.remaining ++ responses.flatten ∧
      responses' <:+ responses ∧ (r'.remaining = [] → [] ∈ responses) := by
  rw [refill] at h
  by_cases hread : r.current.length ≤ r.position
  · rw [if_pos hread] at h
    cases responses with
    | nil =>
        cases alive with
        | true => exact nomatch h
        | false => exact nomatch h
    | cons frame rest =>
        obtain ⟨rfl, rfl⟩ := Prod.mk.inj (Option.some.inj (Option.some.inj h))
        refine ⟨?_, List.suffix_cons frame rest, fun hnil => ?_⟩
        · rw [remaining, remaining, List.drop_eq_nil_of_le hread]
          rfl
        · have hframe : frame = [] := hnil
          rw [hframe]
          exact List.mem_cons_self
  · rw [if_neg hread] at h
    obtain ⟨rfl, rfl⟩ := Prod.mk.inj (Option.some.inj (Option.some.inj h))
    exact ⟨rfl, List.suffix_refl _, fun hnil => absurd (List.drop_eq_nil_iff.mp hnil) hread⟩

/-- Bytes taken off the cursor are those it no longer has. -/
theorem CallbackReader.remaining_advance (r : CallbackReader) (n : Nat) :
    r.remaining.take n ++ CallbackReader.remaining ⟨r.current, r.position + n⟩ = r.remaining := by
  rw [remaining, remaining, ← List.drop_drop, List.take_append_drop]

theorem CallbackReader.remaining_advance_taken (r : CallbackReader) (n : Nat) :
    r.remaining.take n ++
        CallbackReader.remaining ⟨r.current, r.position + (r.remaining.take n).length⟩
      = r.remaining := by
  have h := r.remaining_advance (r.remaining.take n).length
  have htaken : r.remaining.take n <+: r.remaining := List.take_prefix n r.remaining
  rwa [← List.prefix_iff_eq_take.mp htaken] at h

/-- **ONE CALL**: what it takes is the front of the stream, and only an empty
    frame on the channel makes it report an end. -/
theorem CallbackReader.call_spec {r : CallbackReader} {responses : List Frame} {alive : Bool}
    {c : ReaderCall} {ret : Returned} (h : r.call responses alive c = some ret) :
    ret.taken ++ (ret.reader.remaining ++ ret.responses.flatten)
        = r.remaining ++ responses.flatten ∧
      ret.responses <:+ responses ∧ (endOfStream c ret.answer = true → [] ∈ responses) := by
  cases c with
  | read capacity =>
      obtain ⟨refilled, hrefill, rfl⟩ := Option.map_eq_some_iff.mp h
      cases refilled with
      | none => exact ⟨rfl, List.suffix_refl _, nofun⟩
      | some refilled =>
          obtain ⟨hstream, hsuffix, hempty⟩ := refill_spec hrefill
          refine ⟨?_, hsuffix, fun hend => ?_⟩
          · rw [← hstream, ← List.append_assoc, remaining_advance_taken]
          · obtain ⟨hroom, hnone⟩ := Bool.and_eq_true_iff.mp hend
            obtain hzero | hnil := List.take_eq_nil_iff.mp (List.isEmpty_iff.mp hnone)
            · exact absurd hzero (Nat.pos_iff_ne_zero.mp (of_decide_eq_true hroom))
            · exact hempty hnil
  | fillBuf =>
      obtain ⟨refilled, hrefill, rfl⟩ := Option.map_eq_some_iff.mp h
      cases refilled with
      | none => exact ⟨rfl, List.suffix_refl _, nofun⟩
      | some refilled =>
          obtain ⟨hstream, hsuffix, hempty⟩ := refill_spec hrefill
          exact ⟨hstream, hsuffix, fun hend => hempty (List.isEmpty_iff.mp hend)⟩
  | consume amount =>
      rw [call] at h
      by_cases hfits : r.position + amount < 2 ^ 64
      · rw [if_pos hfits] at h
        obtain rfl := Option.some.inj h
        refine ⟨?_, List.suffix_refl _, nofun⟩
        rw [← List.append_assoc, remaining_advance]
      · rw [if_neg hfits] at h
        exact nomatch h

/-! ## The stream -/

/-- A worker's loop. -/
inductive WorkerState where
  | idle
  | calling (frame : Frame)
  | stopped
  deriving DecidableEq, Repr

/-- A worker of `spawn_workers`. -/
structure Worker where
  lane : Lane
  state : WorkerState
  deriving DecidableEq, Repr

/-- A call of the reader that has returned: whether it reported an end, and
    whether a sender of the response channel was alive. -/
structure Report where
  endOfStream : Bool
  sendersAlive : Bool

/-- The writer's buffer, the queues, the workers, the response channel and the
    reader.  `arrived`, `delivered` and `reports` are what has been put on the
    channel, taken by the reader's callers and returned to them so far. -/
structure CallbackStream where
  buffer : List UInt8
  writerAlive : Bool
  queue : Lane → List Frame
  workers : List Worker
  responses : List Frame
  reader : CallbackReader
  arrived : List Frame
  delivered : List UInt8
  reports : List Report

/-- `spawn_workers`. -/
def spawnWorkers (count : Nat) (lane : Lane) : List Worker := List.replicate count ⟨lane, .idle⟩

/-- `callback_io`. -/
def callbackIo : CallbackStream where
  buffer := []
  writerAlive := true
  queue _ := []
  workers := spawnWorkers 4 .work ++ spawnWorkers 1 .management
  responses := []
  reader := ⟨[], 0⟩
  arrived := []
  delivered := []
  reports := []

/-- Every worker holds a sender of the response channel until it stops. -/
def CallbackStream.sendersAlive (s : CallbackStream) : Bool :=
  s.workers.any (·.state ≠ .stopped)

/-- The queue of a lane replaced. -/
def CallbackStream.setQueue (s : CallbackStream) (lane : Lane) (frames : List Frame) :
    CallbackStream :=
  { s with queue := Function.update s.queue lane frames }

/-- The state of a worker replaced. -/
def CallbackStream.setWorker (s : CallbackStream) (i : Nat) (worker : Worker) : CallbackStream :=
  { s with workers := s.workers.set i worker }

/-- `CallbackWriter::flush`, with the lane `decode_binary_frame` gives for a
    frame if it decodes; `none` while `send` waits. -/
def CallbackStream.flush (route : Frame → Option Lane) (s : CallbackStream) :
    Option CallbackStream :=
  if s.buffer = [] then some s
  else match route s.buffer with
    | none => some { s with buffer := [] }
    | some lane =>
        -- a lane whose workers have stopped has no receiver
        if s.workers.all fun w => w.lane ≠ lane ∨ w.state = .stopped then
          some { s with buffer := [] }
        else if (s.queue lane).length < lane.limit then
          some ({ s with buffer := [] }.setQueue lane (s.queue lane ++ [s.buffer]))
        else none

/-- Who moves: the writer, a worker, or a caller of the reader. -/
inductive Event where
  | write (bytes : List UInt8)
  | flush
  | closeWriter
  | receive (worker : Nat)
  | respond (worker : Nat) (result : CallbackResult)
  | stop (worker : Nat)
  | call (c : ReaderCall)

/-- One step; `none` where it is not the mover's turn. -/
def step (route : Frame → Option Lane) (s : CallbackStream) : Event → Option CallbackStream
  | .write bytes => if s.writerAlive then some { s with buffer := s.buffer ++ bytes } else none
  | .flush => if s.writerAlive then s.flush route else none
  | .closeWriter => if s.writerAlive then some { s with writerAlive := false } else none
  | .receive i =>
      match s.workers[i]? with
      | some ⟨lane, .idle⟩ =>
          match s.queue lane with
          | frame :: frames => some ((s.setQueue lane frames).setWorker i ⟨lane, .calling frame⟩)
          | [] => none
      | _ => none
  | .respond i result =>
      match s.workers[i]? with
      | some ⟨lane, .calling _⟩ =>
          some { s.setWorker i ⟨lane, .idle⟩ with
            responses := s.responses ++ [invoke result]
            arrived := s.arrived ++ [invoke result] }
      | _ => none
  | .stop i =>
      match s.workers[i]? with
      | some ⟨lane, .idle⟩ =>
          if s.writerAlive = false ∧ s.queue lane = [] then
            some (s.setWorker i ⟨lane, .stopped⟩)
          else none
      | _ => none
  | .call c =>
      (s.reader.call s.responses s.sendersAlive c).map fun ret =>
        { s with
          reader := ret.reader
          responses := ret.responses
          delivered := s.delivered ++ ret.taken
          reports := s.reports ++ [⟨endOfStream c ret.answer, s.sendersAlive⟩] }

/-! ## One step -/

section Step

variable {route : Frame → Option Lane} {s s' : CallbackStream}

/-- Nothing has moved between the workers' answers and the reader's callers. -/
structure SameAnswers (s s' : CallbackStream) : Prop where
  responses : s'.responses = s.responses
  reader : s'.reader = s.reader
  arrived : s'.arrived = s.arrived
  delivered : s'.delivered = s.delivered
  reports : s'.reports = s.reports

theorem flush_sameAnswers (h : s.flush route = some s') : SameAnswers s s' := by
  unfold CallbackStream.flush at h
  split at h
  · obtain rfl := Option.some.inj h
    exact ⟨rfl, rfl, rfl, rfl, rfl⟩
  · split at h
    · obtain rfl := Option.some.inj h
      exact ⟨rfl, rfl, rfl, rfl, rfl⟩
    · split at h
      · obtain rfl := Option.some.inj h
        exact ⟨rfl, rfl, rfl, rfl, rfl⟩
      · split at h
        · obtain rfl := Option.some.inj h
          exact ⟨rfl, rfl, rfl, rfl, rfl⟩
        · exact nomatch h

/-- A step puts one frame on the channel, lets one call of the reader return, or
    does neither. -/
theorem step_cases {e : Event} (h : step route s e = some s') :
    SameAnswers s s' ∨
      (∃ i result, e = .respond i result ∧ SameAnswers { s with
        responses := s.responses ++ [invoke result]
        arrived := s.arrived ++ [invoke result] } s') ∨
      (∃ c ret, e = .call c ∧ s.reader.call s.responses s.sendersAlive c = some ret ∧
        SameAnswers { s with
          reader := ret.reader
          responses := ret.responses
          delivered := s.delivered ++ ret.taken
          reports := s.reports ++ [⟨endOfStream c ret.answer, s.sendersAlive⟩] } s') := by
  cases e with
  | write bytes =>
      simp only [step, Option.ite_none_right_eq_some, Option.some.injEq] at h
      obtain ⟨-, rfl⟩ := h
      exact Or.inl ⟨rfl, rfl, rfl, rfl, rfl⟩
  | flush =>
      simp only [step, Option.ite_none_right_eq_some] at h
      exact Or.inl (flush_sameAnswers h.2)
  | closeWriter =>
      simp only [step, Option.ite_none_right_eq_some, Option.some.injEq] at h
      obtain ⟨-, rfl⟩ := h
      exact Or.inl ⟨rfl, rfl, rfl, rfl, rfl⟩
  | receive i =>
      simp only [step] at h
      split at h
      · split at h
        · obtain rfl := Option.some.inj h
          exact Or.inl ⟨rfl, rfl, rfl, rfl, rfl⟩
        · exact nomatch h
      · exact nomatch h
  | respond i result =>
      simp only [step] at h
      split at h
      · obtain rfl := Option.some.inj h
        exact Or.inr (Or.inl ⟨i, result, rfl, ⟨rfl, rfl, rfl, rfl, rfl⟩⟩)
      · exact nomatch h
  | stop i =>
      simp only [step] at h
      split at h
      · simp only [Option.ite_none_right_eq_some, Option.some.injEq] at h
        obtain ⟨-, rfl⟩ := h
        exact Or.inl ⟨rfl, rfl, rfl, rfl, rfl⟩
      · exact nomatch h
  | call c =>
      obtain ⟨ret, hcall, rfl⟩ := Option.map_eq_some_iff.mp h
      exact Or.inr (Or.inr ⟨c, ret, rfl, hcall, ⟨rfl, rfl, rfl, rfl, rfl⟩⟩)

end Step

/-! ## Runs -/

/-- What has arrived is what has been delivered, what the reader stands in and
    what waits on the channel. -/
def InOrder (s : CallbackStream) : Prop :=
  s.delivered ++ (s.reader.remaining ++ s.responses.flatten) = s.arrived.flatten

theorem SameAnswers.inOrder {s s' : CallbackStream} (h : SameAnswers s s') :
    InOrder s' ↔ InOrder s := by
  rw [InOrder, InOrder, h.responses, h.reader, h.arrived, h.delivered]

theorem step_inOrder {route : Frame → Option Lane} {s s' : CallbackStream} {e : Event}
    (hs : InOrder s) (h : step route s e = some s') : InOrder s' := by
  obtain hsame | ⟨i, result, -, hsame⟩ | ⟨c, ret, -, hcall, hsame⟩ := step_cases h
  · exact hsame.inOrder.mpr hs
  · refine hsame.inOrder.mpr ?_
    rw [InOrder, List.flatten_append, List.flatten_append, ← hs, List.append_assoc,
      List.append_assoc]
  · refine hsame.inOrder.mpr ?_
    rw [InOrder, List.append_assoc, (CallbackReader.call_spec hcall).1]
    exact hs

/-- In every run, bytes are delivered in the order in which their frames arrived,
    without loss and without doubles. -/
theorem reaches_inOrder {route : Frame → Option Lane} {ok : CallbackStream → Event → Prop}
    {s : CallbackStream} (h : Reaches (step route) ok callbackIo s) : InOrder s :=
  h.invariant (show InOrder callbackIo from rfl) fun _ _ _ hs _ hstep => step_inOrder hs hstep

/-- The condition on a step: a callback that returns has answered. -/
def Answered (_ : CallbackStream) : Event → Prop
  | .respond _ result => Answers result
  | _ => True

instance (s : CallbackStream) (e : Event) : Decidable (Answered s e) :=
  match e with
  | .respond _ result => inferInstanceAs (Decidable (Answers result))
  | .write _ | .flush | .closeWriter | .receive _ | .stop _ | .call _ => isTrue trivial

/-- No empty frame waits, and no end has been reported. -/
structure Unended (s : CallbackStream) : Prop where
  responses : [] ∉ s.responses
  reports : ∀ report ∈ s.reports, report.endOfStream = false

theorem SameAnswers.unended {s s' : CallbackStream} (h : SameAnswers s s') (hs : Unended s) :
    Unended s' :=
  ⟨h.responses ▸ hs.responses, h.reports ▸ hs.reports⟩

theorem step_unended {route : Frame → Option Lane} {s s' : CallbackStream} {e : Event}
    (hs : Unended s) (hok : Answered s e) (h : step route s e = some s') : Unended s' := by
  obtain hsame | ⟨i, result, rfl, hsame⟩ | ⟨c, ret, -, hcall, hsame⟩ := step_cases h
  · exact hsame.unended hs
  · refine hsame.unended ⟨fun hmem => ?_, hs.reports⟩
    obtain hmem | hmem := List.mem_append.mp hmem
    · exact hs.responses hmem
    · exact invoke_ne_nil_iff.mpr hok (List.mem_singleton.mp hmem).symm
  · obtain ⟨-, hsuffix, hend⟩ := CallbackReader.call_spec hcall
    refine hsame.unended ⟨fun hmem => hs.responses (hsuffix.subset hmem), fun report hmem => ?_⟩
    obtain hmem | hmem := List.mem_append.mp hmem
    · exact hs.reports report hmem
    · rw [List.mem_singleton.mp hmem]
      exact Bool.eq_false_iff.mpr fun hended => hs.responses (hend hended)

/-- What is asked of the stream: the bytes come in order, and no end is reported
    while a worker may still answer. -/
structure StreamLaw (s : CallbackStream) : Prop where
  inOrder : s.delivered <+: s.arrived.flatten
  openEnded : ∀ report ∈ s.reports, report.endOfStream = true → report.sendersAlive = false

/-- **THE STREAM OUTLIVES ITS CALLBACKS** in every run in which each of them
    answers with bytes. -/
theorem callback_stream_law {route : Frame → Option Lane} {s : CallbackStream}
    (h : Reaches (step route) Answered callbackIo s) : StreamLaw s := by
  have horder : InOrder s := reaches_inOrder h
  have hunended : Unended s :=
    h.invariant ⟨List.not_mem_nil, List.forall_mem_nil _⟩ fun _ _ _ hs hok hstep =>
      step_unended hs hok hstep
  refine ⟨?_, fun report hreport hend => ?_⟩
  · rw [← horder]
    exact List.prefix_append _ _
  · rw [hunended.reports report hreport] at hend
    exact nomatch hend

/-- Two callbacks answer, the second first, and both interfaces read. -/
def answeredEvents : List Event :=
  [.write [9], .flush, .write [8], .flush, .receive 0, .receive 3,
    .respond 3 ⟨0, 3, some #v[1, 2, 3]⟩, .call (.read 2), .respond 0 ⟨0, 2, some #v[4, 5]⟩,
    .call .fillBuf, .call (.consume 1), .call (.read 1)]

theorem callback_stream_law_answered :
    ∃ s, Reaches (step fun _ => some .work) Answered callbackIo s ∧
      s.delivered = [1, 2, 3, 4] ∧ StreamLaw s := by
  have hrun :
    (run (step fun _ => some .work) Answered callbackIo answeredEvents).isSome = true := by
    decide
  have hreach := reaches_getD (d := callbackIo) hrun
  exact ⟨_, hreach, by decide, callback_stream_law hreach⟩

/-- Two callbacks, the first of which fails. -/
def failedEvents : List Event :=
  [.write [9], .flush, .write [8], .flush, .receive 0, .receive 1,
    .respond 0 ⟨1, 0, none⟩, .call (.read 16), .respond 1 ⟨0, 2, some #v[4, 5]⟩]

/-- The failure is an end of the stream before the second answer. -/
theorem failed_callback_ends_stream :
    ∃ s, Reaches (step fun _ => some .work) Free callbackIo s ∧ ¬ StreamLaw s := by
  have hrun : (run (step fun _ => some .work) Free callbackIo failedEvents).isSome = true := by
    decide
  refine ⟨_, reaches_getD (d := callbackIo) hrun, fun h => ?_⟩
  exact absurd (h.openEnded ⟨true, true⟩ (List.mem_singleton_self _) rfl) (by decide)

end ServiceCallback
